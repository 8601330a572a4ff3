import Polyglot.Proofs.Forest.Placement

/-!
# Ancestors and what is visited below them

In a forest without cycles the bound on walks upwards does not matter either: a node is
an inclusive ancestor of another just if one can climb from the other to it
(`isInclusiveAncestor_iff`).

On account of a node that came into a subtree, all text nodes at it or below it are
visited (`stops`), and on account of a text that was changed the text itself
(`textStop`), provided in either case that the node is in the subtree. All of them are
texts of the subtree (`covers_of_mem_stops`), and if texts have nothing below them then no
text is left out (`mem_stops_of_climbs`). What is visited stays the same when texts get
other words and comments are placed after them (`Alike.stops`, `Placed.stops`).
-/

set_option autoImplicit false

namespace Polyglot.Forest

variable {forest : Forest}

/-! ## Ancestors -/

theorem climbs_of_mem_lineageWithin (fuel : Nat) :
    ∀ id, ∀ above ∈ forest.lineageWithin fuel id, forest.Climbs id above := by
  induction fuel with
  | zero =>
    intro id above listed
    exact absurd listed List.not_mem_nil
  | succ fuel ih =>
    intro id above listed
    rw [lineageWithin] at listed
    cases found : forest.parent? id with
    | none =>
      simp only [found, List.mem_singleton] at listed
      rw [listed]
    | some parent =>
      simp only [found, List.mem_cons] at listed
      rcases listed with rfl | listed
      · exact .refl
      · exact .head found (ih parent above listed)

theorem mem_lineage_self (id : NodeId) : id ∈ forest.lineage id := by
  rw [lineage, lineageWithin]
  exact List.mem_cons_self

/-- A node is an inclusive ancestor of those from which one can climb to it. -/
theorem isInclusiveAncestor_iff (wellFormed : forest.WellFormed) (acyclic : forest.Acyclic)
    {above id : NodeId} :
    forest.isInclusiveAncestor above id = true ↔ forest.Climbs id above := by
  rw [isInclusiveAncestor, List.contains_iff_mem]
  refine ⟨climbs_of_mem_lineageWithin _ id above, fun climbs => ?_⟩
  induction climbs using Relation.ReflTransGen.head_induction_on with
  | refl => exact mem_lineage_self above
  | head found _ ih =>
    rw [lineage_of_parent? wellFormed acyclic found]
    exact List.mem_cons_of_mem _ ih

/-! ## What is visited -/

/-- The text nodes at a node or below it. -/
def textsAt (forest : Forest) (node : NodeId) : List NodeId :=
  if (forest.text? node).isSome then [node] else forest.textNodes node

/-- What is visited on account of a node that came, if it is below a given one. -/
def stops (forest : Forest) (top node : NodeId) : List NodeId :=
  if forest.isInclusiveAncestor top node then forest.textsAt node else []

/-- What is visited on account of a text that was changed, if it is below a given node. -/
def textStop (forest : Forest) (top node : NodeId) : List NodeId :=
  if (forest.text? node).isSome then forest.stops top node else []

theorem climbs_of_mem_textNodes (wellFormed : forest.WellFormed) {top node : NodeId}
    (listed : node ∈ forest.textNodes top) : forest.Climbs node top := by
  obtain ⟨child, childOf, listed⟩ := List.mem_flatMap.mp listed
  exact (climbs_of_mem_textNodesWithin wellFormed _ child node listed).tail
    (wellFormed.parent?_of_mem childOf)

/-- What is visited is in the subtree. -/
theorem covers_of_mem_stops (wellFormed : forest.WellFormed) (acyclic : forest.Acyclic)
    {top node other : NodeId} (listed : other ∈ forest.stops top node) :
    forest.isInclusiveAncestor top other = true := by
  rw [stops] at listed
  split at listed
  · next within =>
    rw [textsAt] at listed
    split at listed
    · exact List.mem_singleton.mp listed ▸ within
    · rw [isInclusiveAncestor_iff wellFormed acyclic] at within ⊢
      exact (climbs_of_mem_textNodes wellFormed listed).trans within
  · exact absurd listed List.not_mem_nil

/-- Nothing but texts is visited. -/
theorem isSome_text?_of_mem_stops {top node other : NodeId}
    (listed : other ∈ forest.stops top node) : (forest.text? other).isSome := by
  rw [stops, textsAt] at listed
  split at listed
  · split at listed
    · next isText => exact List.mem_singleton.mp listed ▸ isText
    · obtain ⟨⟨text, spoken⟩, _⟩ := text_of_mem_textNodes listed
      rw [spoken]
      rfl
  · exact absurd listed List.not_mem_nil

theorem mem_stops_of_mem_textStop {top node other : NodeId}
    (listed : other ∈ forest.textStop top node) : other ∈ forest.stops top node := by
  rw [textStop] at listed
  split at listed
  · exact listed
  · exact absurd listed List.not_mem_nil

/-- A walk with a bound above the height of a node finds all texts below it, provided that
no text has anything below it. -/
theorem Graded.mem_textNodesWithin_of_climbs {height : NodeId → Nat}
    (graded : forest.Graded height) (wellFormed : forest.WellFormed)
    (leaves : ∀ id, (forest.text? id).isSome → forest.children id = []) {node : NodeId}
    (isText : (forest.text? node).isSome) (fuel : Nat) :
    ∀ top, height top < fuel → forest.Climbs node top →
      node ∈ forest.textNodesWithin fuel top := by
  induction fuel with
  | zero => exact fun _ high => absurd high (Nat.not_lt_zero _)
  | succ fuel ih =>
    intro top high climbs
    rw [textNodesWithin]
    rcases climbs.cases_tail with rfl | ⟨child, climbs, found⟩
    · rw [if_pos isText]
      exact List.mem_singleton_self top
    · have listed := wellFormed.mem_of_parent? found
      have lower := graded.falls top child listed
      rw [if_neg fun isText => List.not_mem_nil (leaves top isText ▸ listed)]
      exact List.mem_flatMap.mpr ⟨child, listed, ih child (by omega) climbs⟩

/-- **Every text at a node or below it is visited on account of it**, provided that no text
has anything below it. -/
theorem mem_stops_of_climbs (wellFormed : forest.WellFormed) (acyclic : forest.Acyclic)
    (leaves : ∀ id, (forest.text? id).isSome → forest.children id = []) {top came node : NodeId}
    (isText : (forest.text? node).isSome) (up : forest.Climbs node came)
    (onward : forest.Climbs came top) : node ∈ forest.stops top came := by
  rw [stops, if_pos ((isInclusiveAncestor_iff wellFormed acyclic).mpr onward), textsAt]
  rcases up.cases_tail with rfl | ⟨child, climbs, found⟩
  · rw [if_pos isText]
    exact List.mem_singleton_self came
  · have listed := wellFormed.mem_of_parent? found
    have graded := acyclic.graded wellFormed
    have lower := graded.falls came child listed
    have bound := graded.le_size came
    rw [if_neg fun isText => List.not_mem_nil (leaves came isText ▸ listed)]
    exact List.mem_flatMap.mpr ⟨child, listed, graded.mem_textNodesWithin_of_climbs wellFormed
      leaves isText _ child (Nat.lt_of_lt_of_le lower bound) climbs⟩

/-! ## Other words -/

namespace Alike

variable {one other : Forest} (alike : one.Alike other)
include alike

theorem lineage (id : NodeId) : one.lineage id = other.lineage id := by
  have within : ∀ fuel id, one.lineageWithin fuel id = other.lineageWithin fuel id := by
    intro fuel
    induction fuel with
    | zero => exact fun _ => rfl
    | succ fuel ih =>
      intro id
      simp only [lineageWithin, alike.parent?, ih]
  rw [Forest.lineage, Forest.lineage, alike.size, within]

theorem isInclusiveAncestor (above id : NodeId) :
    one.isInclusiveAncestor above id = other.isInclusiveAncestor above id := by
  rw [Forest.isInclusiveAncestor, Forest.isInclusiveAncestor, alike.lineage]

theorem stops (top : NodeId) : one.stops top = other.stops top := by
  funext node
  rw [Forest.stops, Forest.stops, textsAt, textsAt, alike.isInclusiveAncestor, alike.isSome_text?,
    alike.textNodes]

theorem orderly (orderly : other.Orderly) : one.Orderly where
  wellFormed := alike.wellFormed orderly.wellFormed
  acyclic id := alike.lineage id ▸ orderly.acyclic id
  childless id isComment := by
    rw [alike.children]
    exact orderly.childless id (alike.comment? id ▸ isComment)

end Alike

/-! ## After a comment was placed -/

namespace Placed

variable {before after : Forest} {node parent : NodeId} {left right : List NodeId}
  {sibling? : Option NodeId} {words : Text}
  (placed : before.Placed after node parent left right sibling? words) (orderly : before.Orderly)
  (isComment : ∀ sibling, sibling? = some sibling → (before.comment? sibling).isSome)
include placed orderly isComment

/-- One climbs from a node as before, unless it is the new comment or the one that gave
way. -/
theorem climbs_iff {id above : NodeId} (old : id ≠ before.size) (stays : sibling? ≠ some id) :
    after.Climbs id above ↔ before.Climbs id above := by
  have same : ∀ id, id ≠ before.size → sibling? ≠ some id →
      after.parent? id = before.parent? id := fun id old stays => by
    rw [placed.parent?, if_neg old, if_neg stays]
  -- The nodes on the way have children, so that they are neither.
  have further : ∀ id parent, before.parent? id = some parent →
      parent ≠ before.size ∧ sibling? ≠ some parent := fun id parent found => by
    have listed := orderly.wellFormed.mem_of_parent? found
    refine ⟨Nat.ne_of_lt (before.lt_size_of_mem_children parent listed), fun gone => ?_⟩
    rw [orderly.childless parent (isComment parent gone)] at listed
    exact List.not_mem_nil listed
  constructor
  · intro climbs
    induction climbs using Relation.ReflTransGen.head_induction_on with
    | refl => exact .refl
    | head found _ ih =>
      rw [same _ old stays] at found
      obtain ⟨oldThen, staysThen⟩ := further _ _ found
      exact .head found (ih oldThen staysThen)
  · intro climbs
    induction climbs using Relation.ReflTransGen.head_induction_on with
    | refl => exact .refl
    | head found _ ih =>
      obtain ⟨oldThen, staysThen⟩ := further _ _ found
      rw [← same _ old stays] at found
      exact .head found (ih oldThen staysThen)

/-- **The same is visited on account of a node as before.** -/
theorem stops (top : NodeId) : after.stops top = before.stops top := by
  funext id
  have texts : after.textsAt id = before.textsAt id := by
    rw [textsAt, textsAt, placed.text?, placed.textNodes isComment orderly]
  rw [Forest.stops, Forest.stops, texts]
  by_cases nothing : before.textsAt id = []
  · rw [nothing, ite_self, ite_self]
  · have silent : ∀ id, before.text? id = none → before.children id = [] →
        before.textsAt id = [] := fun id wordless empty => by
      rw [textsAt, wordless, Forest.textNodes, empty]
      rfl
    have old : id ≠ before.size := fun new => nothing (silent id
      (by rw [Forest.text?, before.content?_eq_none_of_size_le id (Nat.le_of_eq new.symm)]; rfl)
      (before.children_eq_nil_of_size_le id (Nat.le_of_eq new.symm)))
    have stays : sibling? ≠ some id := fun gone => nothing (silent id
      (text?_eq_none_of_comment? (isComment id gone)) (orderly.childless id (isComment id gone)))
    have covers : after.isInclusiveAncestor top id = before.isInclusiveAncestor top id := by
      have then' := placed.orderly orderly
      rw [Bool.eq_iff_iff, isInclusiveAncestor_iff then'.wellFormed then'.acyclic,
        isInclusiveAncestor_iff orderly.wellFormed orderly.acyclic,
        placed.climbs_iff orderly isComment old stays]
    rw [covers]

end Placed

end Polyglot.Forest
