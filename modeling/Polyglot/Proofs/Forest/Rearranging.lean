import Polyglot.Proofs.Forest.Moving

/-!
# What edits do to the lists of children

An edit that is carried out has one effect on all lists of children (`Edit.Effect`):
the node that is moved leaves the list that it was in, and comes to be last in one list,
directly after a node, or in the place of a node. All other nodes keep their order and
their parents (`Rehung`). This takes no more than that parents and children agree, which
is why it also says what becomes of nodes that share a parent or stand side by side.

No edit makes a cycle if none puts a node under itself or under a node below it
(`Acyclic.edited`).
-/

set_option autoImplicit false

namespace Polyglot

/-! ## Effects and conditions of edits -/

/-- Two forests with the same nodes, all but some of which have the parents they had. -/
structure Forest.Rehung (moved : List NodeId) (before after : Forest) : Prop where
  size : after.size = before.size
  content? : ∀ id, after.content? id = before.content? id
  parent? : ∀ id, id ∉ moved → after.parent? id = before.parent? id

namespace Edit

/-- What an edit makes of a forest when it is carried out. -/
def Effect (before after : Forest) : Edit → Prop
  | .setText node text =>
    (∀ id, after.children id = before.children id) ∧
      (∀ id, after.parent? id = before.parent? id) ∧ after.size = before.size ∧
      ∀ id, after.content? id = if id = node then some (.text text) else before.content? id
  | .append parent node =>
    (∀ id, after.children id = if id = parent then (before.children id).erase node ++ [node]
      else (before.children id).erase node) ∧
      after.parent? node = some parent ∧ before.Rehung [node] after
  | .insertAfter reference node =>
    (∀ id, after.children id = ((before.children id).erase node).flatMap fun child =>
      if child = reference then [reference, node] else [child]) ∧
      after.parent? node = before.parent? reference ∧ before.Rehung [node] after
  | .replace old node =>
    if old = node then after = before
    else
      (∀ id, after.children id = ((before.children id).erase node).map fun child =>
        if child = old then node else child) ∧
        after.parent? node = before.parent? old ∧ after.parent? old = none ∧
        before.Rehung [node, old] after
  | .remove node =>
    (∀ id, after.children id = (before.children id).erase node) ∧
      after.parent? node = none ∧ before.Rehung [node] after

/-- Whether an edit can be carried out. -/
def Possible (forest : Forest) : Edit → Prop
  | .setText node _ => (forest.text? node).isSome
  | .append _ _ => True
  | .insertAfter reference node => (forest.parent? reference).isSome ∧ reference ≠ node
  | .replace old node => (forest.parent? old).isSome ∨ old = node
  | .remove node => (forest.parent? node).isSome

/-- The node that an edit puts somewhere, and the one under which it puts it. -/
def seat? (forest : Forest) : Edit → Option (NodeId × NodeId)
  | .append parent node => some (node, parent)
  | .insertAfter reference node => (forest.parent? reference).map fun parent => (node, parent)
  | .replace old node =>
    if old = node then none else (forest.parent? old).map fun parent => (node, parent)
  | _ => none

/-- An edit of nodes that are there, which puts none of them under itself or under a node
below it. -/
structure Admissible (forest : Forest) (edit : Edit) : Prop where
  known : edit.Known forest
  apart : ∀ seat ∈ edit.seat? forest, forest.isInclusiveAncestor seat.1 seat.2 = false

instance (forest : Forest) (edit : Edit) : Decidable (edit.Admissible forest) :=
  decidable_of_iff (edit.Known forest ∧
      ∀ seat ∈ edit.seat? forest, forest.isInclusiveAncestor seat.1 seat.2 = false)
    ⟨fun ⟨known, apart⟩ => ⟨known, apart⟩, fun admissible => ⟨admissible.known, admissible.apart⟩⟩

end Edit

namespace Forest

variable {forest : Forest}

/-! ## Lists with one more, or another one -/

section Lists

variable {reference node : NodeId} {list left right : List NodeId}

/-- Where a node is not, nothing is put after it. -/
theorem flatMap_behind_of_not_mem (absent : reference ∉ list) :
    (list.flatMap fun child => if child = reference then [reference, node] else [child]) =
      list := by
  refine (List.flatMap_congr fun child listed => if_neg fun same => ?_).trans
    (List.flatMap_singleton' list)
  exact absent (same ▸ listed)

theorem flatMap_behind_of_split (distinct : (left ++ reference :: right).Nodup) :
    ((left ++ reference :: right).flatMap fun child =>
      if child = reference then [reference, node] else [child])
        = left ++ reference :: node :: right := by
  obtain ⟨_, distinctRight, apart⟩ := List.nodup_append.mp distinct
  have absentLeft : reference ∉ left := fun listed =>
    apart reference listed reference List.mem_cons_self rfl
  rw [List.flatMap_append, List.flatMap_cons, if_pos rfl, flatMap_behind_of_not_mem absentLeft,
    flatMap_behind_of_not_mem (List.nodup_cons.mp distinctRight).1]
  rfl

/-- Where a node is not, nothing is put in its place. -/
theorem map_instead_of_not_mem (absent : reference ∉ list) :
    (list.map fun child => if child = reference then node else child) = list := by
  refine (List.map_congr_left fun child listed => if_neg fun same => ?_).trans (List.map_id' list)
  exact absent (same ▸ listed)

theorem map_instead_of_split (distinct : (left ++ reference :: right).Nodup) :
    ((left ++ reference :: right).map fun child => if child = reference then node else child)
      = left ++ node :: right := by
  obtain ⟨_, distinctRight, apart⟩ := List.nodup_append.mp distinct
  have absentLeft : reference ∉ left := fun listed =>
    apart reference listed reference List.mem_cons_self rfl
  rw [List.map_append, List.map_cons, if_pos rfl, map_instead_of_not_mem absentLeft,
    map_instead_of_not_mem (List.nodup_cons.mp distinctRight).1]

end Lists

/-! ## Where edits put nodes -/

section Places

variable {parent reference node : NodeId}

/-- Only children of one node are a given node. -/
theorem WellFormed.not_mem_children (wellFormed : forest.WellFormed)
    (above : forest.parent? reference = some parent) {id : NodeId} (elsewhere : id ≠ parent) :
    reference ∉ forest.children id := fun listed =>
  elsewhere (Option.some.inj ((wellFormed.parent?_of_mem listed).symm.trans above))

/-- Who is to be put after a node, or in its place, finds it there unless it is that node. -/
theorem WellFormed.isSome_indexOf?_loosened (wellFormed : forest.WellFormed) (node : NodeId)
    (above : forest.parent? reference = some parent) :
    ((forest.loosened node).indexOf? parent reference).isSome ↔ reference ≠ node := by
  have distinct := wellFormed.nodup_children parent
  rw [indexOf?, List.isSome_idxOf?, children_loosened node wellFormed, distinct.mem_erase_iff]
  exact and_iff_left (wellFormed.mem_of_parent? above)

/-- A node stays where it is when another one is taken out. -/
theorem WellFormed.exists_split_loosened (wellFormed : forest.WellFormed)
    (above : forest.parent? reference = some parent) (different : reference ≠ node) :
    ∃ left right, (forest.loosened node).children parent = left ++ reference :: right := by
  refine List.append_of_mem (List.isSome_idxOf?.mp ?_)
  exact (wellFormed.isSome_indexOf?_loosened node above).mpr different

variable {left right : List NodeId} (wellFormed : forest.WellFormed)
  (above : forest.parent? reference = some parent)
  (split : (forest.loosened node).children parent = left ++ reference :: right)
include wellFormed above split

theorem WellFormed.edited_insertAfter : forest.edited (.insertAfter reference node) =
    (forest.loosened node).seated parent node (left ++ reference :: node :: right) := by
  have place := (wellFormed.loosened node).indexOf?_of_split split
  rw [Forest.edited, Edit.strokes, above]
  simp only [after_append]
  rw [show forest.after (forest.removal node) = forest.loosened node from rfl]
  simp only [place, split, insertIdx_append_cons]
  rfl

theorem WellFormed.edited_replace (different : reference ≠ node) :
    forest.edited (.replace reference node) =
      ((forest.loosened node).seated parent node (left ++ node :: right)).setParent reference
        none := by
  have place := (wellFormed.loosened node).indexOf?_of_split split
  have set : (left ++ reference :: right).set left.length node = left ++ node :: right := by
    rw [List.set_append_right _ _ (Nat.le_refl _), Nat.sub_self, List.set_cons_zero]
  rw [Forest.edited, Edit.strokes, if_neg different, above]
  simp only [after_append]
  rw [show forest.after (forest.removal node) = forest.loosened node from rfl]
  simp only [place, split, set]
  rfl

end Places

/-! ## What stays where it is -/

section Rehung

variable {before middle : Forest} {parent node : NodeId} {list : List NodeId}

theorem rehung_loosened (wellFormed : forest.WellFormed) (node : NodeId) :
    forest.Rehung [node] (forest.loosened node) where
  size := size_loosened node wellFormed
  content? id := by
    rcases wellFormed.loosened_cases node with ⟨_, same⟩ | ⟨parent, _, same⟩
    · rw [same]
    · rw [same, content?_setParent, content?_setChildren]
  parent? id apart := by
    rw [parent?_loosened node wellFormed, if_neg fun same => apart (List.mem_singleton.mpr same)]

theorem Rehung.seated (rehung : before.Rehung [node] middle) (known : node < before.size) :
    before.Rehung [node] (middle.seated parent node list) where
  size := (size_seated list).trans rehung.size
  content? id := by
    rw [Forest.seated, content?_setParent, content?_setChildren, rehung.content?]
  parent? id apart := by
    rw [parent?_seated list (rehung.size.symm ▸ known),
      if_neg fun same => apart (List.mem_singleton.mpr same), rehung.parent? id apart]

theorem Rehung.setParent_none (rehung : before.Rehung [node] middle) {old : NodeId}
    (known : old < before.size) : before.Rehung [node, old] (middle.setParent old none) where
  size := (size_setParent middle old none).trans rehung.size
  content? id := (content?_setParent middle old id none).trans (rehung.content? id)
  parent? id apart := by
    rw [List.mem_cons, List.mem_singleton, not_or] at apart
    rw [parent?_setParent _ _ (rehung.size.symm ▸ known), if_neg apart.2,
      rehung.parent? id fun listed => apart.1 (List.mem_singleton.mp listed)]

end Rehung

/-! ## Effects -/

/-- What a loose node leaves behind, and who has it then. -/
theorem WellFormed.seated_effect (wellFormed : forest.WellFormed) {parent node : NodeId}
    (knownParent : parent < forest.size) (known : node < forest.size) (list : List NodeId) :
    (∀ id, ((forest.loosened node).seated parent node list).children id =
        if id = parent then list else (forest.children id).erase node) ∧
      ((forest.loosened node).seated parent node list).parent? node = some parent ∧
      forest.Rehung [node] ((forest.loosened node).seated parent node list) := by
  have rehung := rehung_loosened wellFormed node
  refine ⟨fun id => ?_, parent?_seated_self (rehung.size.symm ▸ known), rehung.seated known⟩
  rw [children_seated list (rehung.size.symm ▸ knownParent), children_loosened node wellFormed]

variable {edit : Edit}

/-- **An edit that can be carried out has its effect** on all lists of children, wherever
parents and children agree. -/
theorem WellFormed.effect (wellFormed : forest.WellFormed) (known : edit.Known forest)
    (possible : edit.Possible forest) : edit.Effect forest (forest.edited edit) := by
  cases edit with
  | setText node text =>
    obtain ⟨old, spoken⟩ := Option.isSome_iff_exists.mp possible
    have result : forest.edited (.setText node text) = forest.setContent node (.text text) := by
      rw [Forest.edited, Edit.strokes, spoken]
      rfl
    rw [result]
    exact ⟨fun id => children_setContent .., fun id => parent?_setContent .., size_setContent ..,
      fun id => content?_setContent _ _ (forest.lt_size_of_text? node spoken)⟩
  | append parent node =>
    rw [edited_append, children_loosened node wellFormed]
    obtain ⟨children, above, rehung⟩ := wellFormed.seated_effect known.1 known.2
      ((forest.children parent).erase node ++ [node])
    refine ⟨fun id => (children id).trans ?_, above, rehung⟩
    split
    · next same => rw [same]
    · rfl
  | insertAfter reference node =>
    obtain ⟨parent, above⟩ := Option.isSome_iff_exists.mp possible.1
    obtain ⟨left, right, split⟩ := wellFormed.exists_split_loosened above possible.2
    have distinct := split ▸ (wellFormed.loosened node).nodup_children parent
    have knownParent := forest.lt_size_of_mem_children parent (wellFormed.mem_of_parent? above)
    rw [wellFormed.edited_insertAfter above split]
    rw [children_loosened node wellFormed] at split
    obtain ⟨children, aboveThen, rehung⟩ := wellFormed.seated_effect knownParent known
      (left ++ reference :: node :: right)
    refine ⟨fun id => (children id).trans ?_, aboveThen.trans above.symm, rehung⟩
    split
    · next same => rw [same, split, flatMap_behind_of_split distinct]
    · next elsewhere =>
      exact (flatMap_behind_of_not_mem fun listed =>
        wellFormed.not_mem_children above elsewhere (List.mem_of_mem_erase listed)).symm
  | replace old node =>
    rw [Edit.Effect]
    split
    · next same =>
      rw [Forest.edited, Edit.strokes, if_pos same]
      rfl
    · next different =>
      obtain ⟨parent, above⟩ := Option.isSome_iff_exists.mp (possible.resolve_right different)
      obtain ⟨left, right, split⟩ := wellFormed.exists_split_loosened above different
      have distinct := split ▸ (wellFormed.loosened node).nodup_children parent
      have knownParent := forest.lt_size_of_mem_children parent (wellFormed.mem_of_parent? above)
      have knownOld := forest.lt_size_of_parent? old above
      rw [wellFormed.edited_replace above split different]
      rw [children_loosened node wellFormed] at split
      obtain ⟨children, aboveThen, rehung⟩ := wellFormed.seated_effect knownParent known
        (left ++ node :: right)
      have parents : ∀ id, (((forest.loosened node).seated parent node
          (left ++ node :: right)).setParent old none).parent? id = _ := fun id =>
        parent?_setParent id none (rehung.size.symm ▸ knownOld)
      refine ⟨fun id => ?_, ?_, ?_, rehung.setParent_none knownOld⟩
      · rw [children_setParent, children]
        split
        · next same => rw [same, split, map_instead_of_split distinct]
        · next elsewhere =>
          exact (map_instead_of_not_mem fun listed =>
            wellFormed.not_mem_children above elsewhere (List.mem_of_mem_erase listed)).symm
      · rw [parents, if_neg (Ne.symm different), aboveThen, above]
      · rw [parents, if_pos rfl]
  | remove node =>
    exact ⟨children_loosened node wellFormed, (parent?_loosened node wellFormed node).trans
      (if_pos rfl), rehung_loosened wellFormed node⟩

/-- An edit that cannot be carried out has no effect, except that a node which is to be put
after itself is taken out. -/
theorem edited_of_not_possible (wellFormed : forest.WellFormed) (failed : ¬ edit.Possible forest) :
    forest.edited edit = forest ∨
      ∃ node, edit = .insertAfter node node ∧ forest.edited edit = forest.loosened node := by
  cases edit with
  | setText node text =>
    have silent := Option.not_isSome_iff_eq_none.mp failed
    rw [Forest.edited, Edit.strokes, silent]
    exact .inl rfl
  | append parent node => exact absurd trivial failed
  | insertAfter reference node =>
    rcases forest.insertAfter_cases reference node with
      ⟨_, same⟩ | ⟨parent, above, ⟨gone, same⟩ | ⟨index, found, _⟩⟩
    · exact .inl same
    · have alone := (wellFormed.isSome_indexOf?_loosened node above).not.mp (by simp [gone])
      exact .inr ⟨node, by rw [not_not.mp alone], same⟩
    · have different := (wellFormed.isSome_indexOf?_loosened node above).mp (by rw [found]; rfl)
      exact absurd ⟨Option.isSome_iff_exists.mpr ⟨parent, above⟩, different⟩ failed
  | replace old node =>
    rw [Edit.Possible, not_or, Option.not_isSome_iff_eq_none] at failed
    rw [Forest.edited, Edit.strokes, if_neg failed.2, failed.1]
    exact .inl rfl
  | remove node =>
    have loose := Option.not_isSome_iff_eq_none.mp failed
    rw [Forest.edited, Edit.strokes, removal, loose]
    exact .inl rfl

/-! ## No cycles -/

/-- No cycle comes about when parents are only lost. -/
theorem acyclic_of_fewer {other : Forest} (wellFormed : forest.WellFormed)
    (acyclic : forest.Acyclic) (wellFormedThen : other.WellFormed)
    (fewer : ∀ child parent, other.parent? child = some parent →
      forest.parent? child = some parent) : other.Acyclic := by
  obtain ⟨height, graded⟩ := (acyclic_iff_graded wellFormed).mp acyclic
  refine acyclic_of_falls height wellFormedThen fun parent child listed => ?_
  have found := fewer child parent (wellFormedThen.parent?_of_mem listed)
  exact graded.falls parent child (wellFormed.mem_of_parent? found)

section Cycles

variable (wellFormed : forest.WellFormed) (acyclic : forest.Acyclic)
include wellFormed acyclic

theorem acyclic_append {parent node : NodeId} (knownParent : parent < forest.size)
    (known : node < forest.size) (apart : ¬ forest.Climbs parent node) :
    (forest.edited (.append parent node)).Acyclic := by
  have wellFormedThen := wellFormed.append knownParent known
  rw [edited_append] at wellFormedThen ⊢
  exact acyclic_seated (size_loosened node wellFormed ▸ known) (wellFormed.loosened node)
    (acyclic_loosened wellFormed acyclic) wellFormedThen fun climbs =>
      apart (climbs_of_loosened wellFormed climbs)

/-- No cycle comes about when one node gets another parent that is not below it. -/
theorem acyclic_of_hung {other : Forest} (wellFormedThen : other.WellFormed)
    {parent node : NodeId} (knownParent : parent < forest.size) (known : node < forest.size)
    (apart : ¬ forest.Climbs parent node) (here : other.parent? node = some parent)
    (elsewhere : ∀ child above, child ≠ node → other.parent? child = some above →
      forest.parent? child = some above) : other.Acyclic := by
  have appended : (Edit.append parent node).Effect forest (forest.edited (.append parent node)) :=
    wellFormed.effect ⟨knownParent, known⟩ trivial
  refine acyclic_of_fewer (wellFormed.append knownParent known)
    (acyclic_append wellFormed acyclic knownParent known apart) wellFormedThen
    fun child above found => ?_
  by_cases same : child = node
  · rw [same, here] at found
    rw [same, appended.2.1, found]
  · rw [appended.2.2.parent? child fun listed => same (List.mem_singleton.mp listed)]
    exact elsewhere child above same found

/-- **No admissible edit makes a cycle.** -/
theorem Acyclic.edited (admissible : edit.Admissible forest) : (forest.edited edit).Acyclic := by
  have known := admissible.known
  have wellFormedThen := wellFormed.edited known
  have apart : ∀ node parent, (node, parent) ∈ edit.seat? forest → ¬ forest.Climbs parent node :=
    fun node parent seat climbs => by
      have within := (isInclusiveAncestor_iff wellFormed acyclic).mpr climbs
      exact Bool.false_ne_true ((admissible.apart _ seat).symm.trans within)
  by_cases possible : edit.Possible forest
  · have effect := wellFormed.effect known possible
    cases edit with
    | setText node text =>
      exact acyclic_of_fewer wellFormed acyclic wellFormedThen fun child above found =>
        effect.2.1 child ▸ found
    | append parent node =>
      exact acyclic_append wellFormed acyclic known.1 known.2 (apart node parent rfl)
    | insertAfter reference node =>
      obtain ⟨parent, above⟩ := Option.isSome_iff_exists.mp possible.1
      have knownParent := forest.lt_size_of_mem_children parent (wellFormed.mem_of_parent? above)
      refine acyclic_of_hung wellFormed acyclic wellFormedThen knownParent known
        (apart node parent ?_) (effect.2.1.trans above) fun child up other found => ?_
      · rw [Edit.seat?, above]
        rfl
      · rw [← effect.2.2.parent? child fun listed => other (List.mem_singleton.mp listed), found]
    | replace old node =>
      rw [Edit.Effect] at effect
      split at effect
      · rw [effect]
        exact acyclic
      · next different =>
        obtain ⟨parent, above⟩ := Option.isSome_iff_exists.mp (possible.resolve_right different)
        have knownParent := forest.lt_size_of_mem_children parent (wellFormed.mem_of_parent? above)
        obtain ⟨_, aboveThen, loose, rehung⟩ := effect
        refine acyclic_of_hung wellFormed acyclic wellFormedThen knownParent known
          (apart node parent ?_) (aboveThen.trans above) fun child up other found => ?_
        · rw [Edit.seat?, if_neg different, above]
          rfl
        · have stays : child ≠ old := fun gone => by
            rw [gone, loose] at found
            cases found
          rw [← rehung.parent? child (by simp [other, stays]), found]
    | remove node => exact acyclic_loosened wellFormed acyclic
  · obtain same | ⟨node, _, same⟩ := edited_of_not_possible wellFormed possible
    · rw [same]
      exact acyclic
    · rw [same]
      exact acyclic_loosened wellFormed acyclic

end Cycles

end Forest

end Polyglot
