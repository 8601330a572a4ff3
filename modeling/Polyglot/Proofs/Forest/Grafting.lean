import Polyglot.Proofs.Forest.Edits

/-!
# Forests that grew from trees

Trees are put into a forest from the top down: each node is made after its parent and
then seated as the last child of it. A forest that came about in this way has parents
and children in agreement, and no cycles, since numbers rise on the way down (`Grown`).

Grafting leaves the nodes that were there as they were, apart from the list of the one
that the trees are seated below, and that one gets their topmost nodes in order
(`grafted_graftBelow`). So it goes for a document that is read (`grown_ofTrees`).
-/

set_option autoImplicit false

namespace Polyglot.Forest

/-- Parents and children agree, and every node was made after its parent. -/
structure Grown (forest : Forest) : Prop where
  wellFormed : forest.WellFormed
  later : ∀ child parent, forest.parent? child = some parent → parent < child

namespace Grown

variable {forest : Forest} (grown : forest.Grown)
include grown

theorem acyclic : forest.Acyclic := by
  refine acyclic_of_falls (fun id => forest.size - id) grown.wellFormed
    fun parent child listed => ?_
  have later := grown.later child parent (grown.wellFormed.parent?_of_mem listed)
  have known := Nat.lt_trans later (grown.wellFormed.lt_size listed)
  exact Nat.sub_lt_sub_left known later

theorem add (content : Content) : (forest.add content).1.Grown where
  wellFormed := grown.wellFormed.add content
  later child parent found := grown.later child parent (parent?_add forest child content ▸ found)

/-- A loose node is made the last child of a node that was made before it. -/
theorem attach {parent child : NodeId} (later : parent < child) (known : child < forest.size)
    (loose : forest.parent? child = none) : (forest.attach parent child).Grown := by
  have knownParent := Nat.lt_trans later known
  rw [attach_eq_seated]
  refine ⟨grown.wellFormed.seated knownParent known loose (List.perm_append_singleton child _),
    fun other above found => ?_⟩
  rw [parent?_seated _ known] at found
  split at found
  · next same =>
    cases found
    exact same ▸ later
  · exact grown.later other above found

end Grown

theorem grown_empty : empty.Grown where
  wellFormed := ((orderly_iff empty).mpr (by decide)).wellFormed
  later child parent found := by
    match child with
    | 0 => cases found
    | child + 1 => cases found

/-! ## What grafting leaves -/

/-- A forest with more nodes, in which the nodes of another one are and stand as they
did; the list of one of them may be longer. -/
structure Extends (before after : Forest) (longer : NodeId → Prop) : Prop where
  size : before.size ≤ after.size
  content? : ∀ id < before.size, after.content? id = before.content? id
  parent? : ∀ id < before.size, after.parent? id = before.parent? id
  children : ∀ id < before.size, ¬ longer id → after.children id = before.children id

theorem Extends.trans {first second third : Forest} {longer : NodeId → Prop}
    (one : first.Extends second longer) (other : second.Extends third longer) :
    first.Extends third longer where
  size := Nat.le_trans one.size other.size
  content? id known :=
    (other.content? id (Nat.lt_of_lt_of_le known one.size)).trans (one.content? id known)
  parent? id known :=
    (other.parent? id (Nat.lt_of_lt_of_le known one.size)).trans (one.parent? id known)
  children id known short :=
    (other.children id (Nat.lt_of_lt_of_le known one.size) short).trans
      (one.children id known short)

/-- A forest with a tree that stands nowhere yet. -/
structure Grafted (before after : Forest) (content : Content) : Prop where
  grown : after.Grown
  kept : before.Extends after fun _ => False
  known : before.size < after.size
  loose : after.parent? before.size = none
  top : after.content? before.size = some content

/-- A forest with trees below a node that was there. -/
structure GraftedBelow (before after : Forest) (parent : NodeId) (contents : List Content) :
    Prop where
  grown : after.Grown
  kept : before.Extends after (· = parent)
  tops : ∃ tops, after.children parent = before.children parent ++ tops ∧
    tops.map after.content? = contents.map some

/-- A node that is made and gets trees below it is the topmost of a tree. -/
theorem Grafted.of_below {before after : Forest} {content : Content} {contents : List Content}
    (below : (before.add content).1.GraftedBelow after before.size contents) :
    before.Grafted after content := by
  have size := size_add before content
  have known : before.size < (before.add content).1.size := size ▸ Nat.lt_succ_self _
  have kept := below.kept
  refine ⟨below.grown, ⟨?_, fun id old => ?_, fun id old => ?_, fun id old _ => ?_⟩, ?_, ?_, ?_⟩
  · exact Nat.le_trans (Nat.le_of_lt known) kept.size
  · rw [kept.content? id (Nat.lt_trans old known), content?_add, if_neg (Nat.ne_of_lt old)]
  · rw [kept.parent? id (Nat.lt_trans old known), parent?_add]
  · rw [kept.children id (Nat.lt_trans old known) (Nat.ne_of_lt old), children_add]
  · exact Nat.lt_of_lt_of_le known kept.size
  · rw [kept.parent? _ known, parent?_add, before.parent?_eq_none_of_size_le _ (Nat.le_refl _)]
  · rw [kept.content? _ known, content?_add, if_pos rfl]

/-- A tree that was grafted is made the first of the further children of a node. -/
theorem Grafted.attach {before after : Forest} {content : Content}
    (grafted : before.Grafted after content) {parent : NodeId} (known : parent < before.size) :
    before.GraftedBelow (after.attach parent before.size) parent [content] := by
  have later := grafted.known
  have knownParent := Nat.lt_trans known later
  have grown := grafted.grown.attach known later grafted.loose
  refine ⟨grown, ?_, ⟨[before.size], ?_, ?_⟩⟩ <;> rw [attach_eq_seated]
  · refine ⟨?_, fun id old => ?_, fun id old => ?_, fun id old elsewhere => ?_⟩
    · rw [size_seated]
      exact grafted.kept.size
    · rw [seated, content?_setParent, content?_setChildren, grafted.kept.content? id old]
    · rw [parent?_seated _ later, if_neg (Nat.ne_of_lt old), grafted.kept.parent? id old]
    · rw [children_seated _ knownParent, if_neg elsewhere, grafted.kept.children id old not_false]
  · rw [children_seated _ knownParent, if_pos rfl, grafted.kept.children parent known not_false]
  · rw [List.map_singleton, List.map_singleton, seated, content?_setParent, content?_setChildren,
      grafted.top]

/-- Trees below a node, and then more of them. -/
theorem GraftedBelow.trans {first second third : Forest} {parent : NodeId}
    {contents more : List Content} (wellFormed : second.WellFormed)
    (one : first.GraftedBelow second parent contents)
    (other : second.GraftedBelow third parent more) :
    first.GraftedBelow third parent (contents ++ more) := by
  obtain ⟨tops, children, shown⟩ := one.tops
  obtain ⟨others, longer, shownThen⟩ := other.tops
  refine ⟨other.grown, one.kept.trans other.kept, tops ++ others, ?_, ?_⟩
  · rw [longer, children, List.append_assoc]
  · have same : tops.map third.content? = tops.map second.content? := by
      refine List.map_congr_left fun top listed => other.kept.content? top ?_
      have below : top ∈ second.children parent := children ▸ List.mem_append_right _ listed
      exact wellFormed.lt_size below
    rw [List.map_append, List.map_append, same, shown, shownThen]

section Graft

variable {α : Type}

mutual

/-- **A tree that is grafted** stands nowhere, and the nodes that were there are as they
were. -/
theorem grafted_graft (tree : Tree α) {forest : Forest} (grown : forest.Grown) :
    forest.Grafted (forest.graft tree).1 tree.content ∧
      (forest.graft tree).2.1 = forest.size := by
  match tree with
  | .node mark content children =>
    have known : forest.size < (forest.add content).1.size :=
      size_add forest content ▸ Nat.lt_succ_self _
    exact ⟨.of_below (grafted_graftBelow children (grown.add content) known), rfl⟩

/-- **Trees that are grafted below a node** are the last of its children, in order. -/
theorem grafted_graftBelow (trees : List (Tree α)) {forest : Forest} {parent : NodeId}
    (grown : forest.Grown) (known : parent < forest.size) :
    forest.GraftedBelow (forest.graftBelow parent trees).1 parent (trees.map Tree.content) := by
  match trees with
  | [] =>
    exact ⟨grown, ⟨Nat.le_refl _, fun _ _ => rfl, fun _ _ => rfl, fun _ _ _ => rfl⟩, [],
      (List.append_nil _).symm, rfl⟩
  | tree :: rest =>
    obtain ⟨grafted, number⟩ := grafted_graft tree grown
    have first := number ▸ grafted.attach known
    have knownThen := Nat.lt_of_lt_of_le known first.kept.size
    exact first.trans first.grown.wellFormed (grafted_graftBelow rest first.grown knownThen)

end

/-- **A document that is read has grown from its trees**, whose topmost nodes are the
children of the document node. -/
theorem grown_ofTrees (trees : List (Tree α)) :
    (ofTrees trees).1.Grown ∧
      ((ofTrees trees).1.children root).map (ofTrees trees).1.content? =
        trees.map fun tree => some tree.content := by
  have below := grafted_graftBelow trees grown_empty (by decide : root < empty.size)
  obtain ⟨tops, children, shown⟩ := below.tops
  refine ⟨below.grown, ?_⟩
  have none' : empty.children root = [] := rfl
  rw [ofTrees, children, none', List.nil_append, shown, List.map_map]
  rfl

end Graft

end Polyglot.Forest
