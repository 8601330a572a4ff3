import Polyglot.Proofs.Forest.Ancestors
import Polyglot.Proofs.Forest.Edits

/-!
# Climbing while nodes are moved

To take a node out is to cut one way upwards, and to seat it elsewhere is to open
another. After a cut, whoever still climbs to a node passes the same nodes on the way
(`between_loosened`). After a node was seated, whoever climbs to another did so before
or passes the node that was seated (`climbs_seated`). No cycle comes about unless a node
is seated below itself (`acyclic_seated`).
-/

set_option autoImplicit false

namespace Polyglot.Forest

variable {forest : Forest} {node : NodeId}

/-- Nobody climbs from a node to another and back. -/
theorem Acyclic.eq_of_climbs (wellFormed : forest.WellFormed) (acyclic : forest.Acyclic)
    {one other : NodeId} (up : forest.Climbs one other) (back : forest.Climbs other one) :
    one = other := by
  have graded := acyclic.graded wellFormed
  rcases up.cases_head with same | ⟨parent, found, up⟩
  · exact same
  · have lower := graded.falls parent one (wellFormed.mem_of_parent? found)
    have first := graded.le_height_of_climbs wellFormed up
    have second := graded.le_height_of_climbs wellFormed back
    omega

/-- Where parents are kept one can climb as before. -/
theorem climbs_mono {other : Forest}
    (kept : ∀ id parent, forest.parent? id = some parent → other.parent? id = some parent)
    {id above : NodeId} (climbs : forest.Climbs id above) : other.Climbs id above :=
  Relation.ReflTransGen.mono kept id above climbs

/-! ## Cutting a way upwards -/

section Loosened

variable (wellFormed : forest.WellFormed)
include wellFormed

theorem parent?_of_loosened {id parent : NodeId}
    (found : (forest.loosened node).parent? id = some parent) :
    forest.parent? id = some parent := by
  rw [parent?_loosened node wellFormed] at found
  split at found
  · cases found
  · exact found

theorem climbs_of_loosened {id above : NodeId} (climbs : (forest.loosened node).Climbs id above) :
    forest.Climbs id above :=
  climbs_mono (fun _ _ => parent?_of_loosened wellFormed) climbs

variable (acyclic : forest.Acyclic)
include acyclic

theorem acyclic_loosened : (forest.loosened node).Acyclic := by
  obtain ⟨height, graded⟩ := (acyclic_iff_graded wellFormed).mp acyclic
  refine acyclic_of_falls height (wellFormed.loosened node) fun parent child listed => ?_
  rw [children_loosened node wellFormed] at listed
  exact graded.falls parent child (List.mem_of_mem_erase listed)

/-- What lies between two nodes lies between them after a cut, if one can still climb
from the one to the other. -/
theorem between_loosened {id middle top : NodeId} (climbs : (forest.loosened node).Climbs id top)
    (up : forest.Climbs id middle) (onward : forest.Climbs middle top) :
    (forest.loosened node).Climbs id middle ∧ (forest.loosened node).Climbs middle top := by
  induction climbs using Relation.ReflTransGen.head_induction_on with
  | refl =>
    have same := acyclic.eq_of_climbs wellFormed up onward
    exact same ▸ ⟨.refl, .refl⟩
  | head found climbs ih =>
    rcases up.cases_head with same | ⟨parent, also, up⟩
    · exact same ▸ ⟨.refl, climbs.head found⟩
    · cases (parent?_of_loosened wellFormed found).symm.trans also
      obtain ⟨first, second⟩ := ih up
      exact ⟨first.head found, second⟩

end Loosened

/-! ## Opening a way upwards -/

section Seated

variable {parent : NodeId} {list : List NodeId} (known : node < forest.size)
  (loose : forest.parent? node = none)
include known

/-- Whoever climbs to a node did so before or passes the node that was seated. -/
theorem climbs_seated {id above : NodeId}
    (climbs : (forest.seated parent node list).Climbs id above) :
    forest.Climbs id above ∨
      forest.Climbs id node ∧ (forest.seated parent node list).Climbs parent above := by
  induction climbs using Relation.ReflTransGen.head_induction_on with
  | refl => exact .inl .refl
  | head found climbs ih =>
    rw [parent?_seated list known] at found
    split at found
    · next here =>
      cases found
      exact .inr ⟨here ▸ .refl, climbs⟩
    · rcases ih with before | ⟨toNode, beyond⟩
      · exact .inl (before.head found)
      · exact .inr ⟨toNode.head found, beyond⟩

theorem parent?_seated_self : (forest.seated parent node list).parent? node = some parent :=
  (parent?_seated list known node).trans (if_pos rfl)

include loose in
theorem climbs_seated_of_climbs {id above : NodeId} (climbs : forest.Climbs id above) :
    (forest.seated parent node list).Climbs id above := by
  refine climbs_mono (fun one other found => ?_) climbs
  rw [parent?_seated list known]
  split
  · next here =>
    rw [here, loose] at found
    cases found
  · exact found

/-- No cycle comes about when a node is seated where it is not below itself. -/
theorem acyclic_seated (wellFormed : forest.WellFormed) (acyclic : forest.Acyclic)
    (wellFormedThen : (forest.seated parent node list).WellFormed)
    (apart : ¬ forest.Climbs parent node) : (forest.seated parent node list).Acyclic := by
  classical
  obtain ⟨height, graded⟩ := (acyclic_iff_graded wellFormed).mp acyclic
  -- What is below the seated node is put lower than everything else.
  let lowered : NodeId → Nat := fun id =>
    if forest.Climbs id node then height id else height id + forest.size + 1
  refine acyclic_of_falls lowered wellFormedThen fun above child listed => ?_
  have found := wellFormedThen.parent?_of_mem listed
  rw [parent?_seated list known] at found
  simp only [lowered]
  split at found
  · next here =>
    cases found
    rw [if_pos (here ▸ .refl), if_neg apart]
    have bound := graded.le_size child
    omega
  · have lower := graded.falls above child (wellFormed.mem_of_parent? found)
    by_cases below : forest.Climbs above node
    · have also : forest.Climbs child node := .head found below
      rw [if_pos below, if_pos also]
      exact lower
    · rw [if_neg below]
      split <;> omega

end Seated

end Polyglot.Forest
