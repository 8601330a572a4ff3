import Polyglot.Proofs.Forest.Moving

/-!
# Nodes as values

What is below a node can be taken out of a forest as a tree, in which the numbers of the
nodes no longer occur (`value`). In a forest without cycles the bound on the depth does
not matter, so the value of a node is its content with the values of its children
(`value_eq`), and it stays what it is as long as all nodes below it keep their contents
and children (`value_of_same_below`).

`Stands` says of a node which values stand before it and after it among the children of
another one, and which value it has itself. Its content may change, and new siblings may
come right after it: the values of its old siblings remain (`Stands.changed`).
-/

set_option autoImplicit false

namespace Polyglot.Forest

/-- A node and everything below it. -/
def value (forest : Forest) (id : NodeId) : Tree Unit :=
  forest.treeAt (fun _ => ()) id

/-- The children of a node with everything below them. -/
def values (forest : Forest) (parent : NodeId) : List (Tree Unit) :=
  (forest.children parent).map forest.value

/-- A node is a child of another one and has a given value, as have those before it and
those after it. -/
structure Stands (forest : Forest) (parent node : NodeId) (front : List (Tree Unit))
    (here : Tree Unit) (back : List (Tree Unit)) : Prop where
  listed : ∃ left right, forest.children parent = left ++ node :: right ∧
    left.map forest.value = front ∧ right.map forest.value = back
  value : forest.value node = here

theorem Stands.values_eq {forest : Forest} {parent node : NodeId} {front back : List (Tree Unit)}
    {here : Tree Unit} (stands : forest.Stands parent node front here back) :
    forest.values parent = front ++ here :: back := by
  obtain ⟨left, right, split, rfl, rfl⟩ := stands.listed
  rw [values, split, List.map_append, List.map_cons, stands.value]

/-! ## The bound on the depth -/

section Depth

variable {forest : Forest} {height : NodeId → Nat}

/-- A bound that reaches down to the lowest nodes is as good as any greater one. -/
theorem Graded.treeWithin_eq {α : Type} (graded : forest.Graded height) (markOf : NodeId → α)
    (fuel : Nat) : ∀ id more, height id ≤ fuel → fuel ≤ more →
      forest.treeWithin markOf more id = forest.treeWithin markOf fuel id := by
  induction fuel with
  | zero =>
    intro id more low _
    have empty : forest.children id = [] := List.eq_nil_iff_forall_not_mem.mpr fun child listed =>
      Nat.not_lt_zero _ (Nat.lt_of_lt_of_le (graded.falls id child listed) low)
    cases more with
    | zero => rfl
    | succ more => rw [treeWithin, treeWithin, empty, List.map_nil]
  | succ fuel ih =>
    intro id more low greater
    obtain ⟨more, rfl⟩ := Nat.exists_eq_add_one_of_ne_zero (Nat.ne_of_gt (Nat.lt_of_lt_of_le
      (Nat.succ_pos fuel) greater))
    rw [treeWithin, treeWithin]
    refine congrArg _ (List.map_congr_left fun child listed => ?_)
    have lower := graded.falls id child listed
    exact ih child more (by omega) (Nat.le_of_succ_le_succ greater)

/-- **A node has its content and the values of its children.** -/
theorem value_eq (wellFormed : forest.WellFormed) (acyclic : forest.Acyclic) (id : NodeId) :
    forest.value id = .node () ((forest.content? id).getD .document) (forest.values id) := by
  have graded := acyclic.graded wellFormed
  cases size : forest.size with
  | zero =>
    have empty := forest.children_eq_nil_of_size_le id (size ▸ Nat.zero_le id)
    rw [value, treeAt, size, treeWithin, values, empty, List.map_nil]
  | succ fuel =>
    rw [value, treeAt, size, treeWithin]
    refine congrArg _ (List.map_congr_left fun child listed => ?_)
    have lower := graded.falls id child listed
    have bound := graded.le_size id
    rw [value, treeAt, size]
    exact (graded.treeWithin_eq _ fuel child (fuel + 1) (by omega) (Nat.le_succ fuel)).symm

/-- Nodes that agree in what is below them have the same value. -/
theorem WellFormed.treeWithin_congr {α : Type} (wellFormed : forest.WellFormed) {other : Forest}
    (markOf : NodeId → α) (fuel : Nat) : ∀ id,
      (∀ below, forest.Climbs below id → other.content? below = forest.content? below ∧
        other.children below = forest.children below) →
      other.treeWithin markOf fuel id = forest.treeWithin markOf fuel id := by
  induction fuel with
  | zero =>
    intro id same
    rw [treeWithin, treeWithin, (same id .refl).1]
  | succ fuel ih =>
    intro id same
    rw [treeWithin, treeWithin, (same id .refl).1, (same id .refl).2]
    refine congrArg _ (List.map_congr_left fun child listed => ih child fun below climbs => ?_)
    exact same below (climbs.tail (wellFormed.parent?_of_mem listed))

/-- **The value of a node lasts** as long as everything below it stays what it is, also
when there are more nodes. -/
theorem value_of_same_below (wellFormed : forest.WellFormed) (acyclic : forest.Acyclic)
    {other : Forest} (size : forest.size ≤ other.size) {id : NodeId}
    (same : ∀ below, forest.Climbs below id → other.content? below = forest.content? below ∧
      other.children below = forest.children below) : other.value id = forest.value id := by
  have graded := acyclic.graded wellFormed
  rw [value, treeAt, wellFormed.treeWithin_congr _ _ id same]
  exact graded.treeWithin_eq _ forest.size id other.size (graded.le_size id) size

end Depth

/-! ## Siblings that stay what they are -/

/-- What one can climb from to a node that is there is there too. -/
theorem lt_size_of_climbs {forest : Forest} {below id : NodeId} (climbs : forest.Climbs below id)
    (known : id < forest.size) : below < forest.size := by
  rcases climbs.cases_head with rfl | ⟨above, found, _⟩
  · exact known
  · exact forest.lt_size_of_parent? below found

section Siblings

variable {forest other : Forest} {parent node : NodeId}
  (wellFormed : forest.WellFormed) (acyclic : forest.Acyclic)
  (listed : node ∈ forest.children parent) (size : forest.size ≤ other.size)
  (content? : ∀ id < forest.size, id ≠ node → other.content? id = forest.content? id)
  (children : ∀ id < forest.size, id ≠ parent → other.children id = forest.children id)
include wellFormed acyclic listed size content? children

/-- What is below a child of a node is neither that node nor another child of it. -/
theorem value_sibling {sibling : NodeId} (child : sibling ∈ forest.children parent)
    (different : sibling ≠ node) : other.value sibling = forest.value sibling := by
  have graded := acyclic.graded wellFormed
  refine value_of_same_below wellFormed acyclic size fun below climbs => ?_
  have known := lt_size_of_climbs climbs (wellFormed.lt_size child)
  refine ⟨content? below known fun same => different ?_, children below known fun same => ?_⟩
  · exact graded.eq_of_climbs wellFormed (same ▸ climbs) .refl child listed
  · have higher := graded.le_height_of_climbs wellFormed (same ▸ climbs)
    have lower := graded.falls parent sibling child
    omega

/-- Nor is it what is below a child of a child. -/
theorem values_node : other.values node = forest.values node := by
  have graded := acyclic.graded wellFormed
  have lower := graded.falls parent node listed
  have apart : node ≠ parent := fun same => Nat.lt_irrefl _ (same ▸ lower)
  rw [values, values, children node (wellFormed.lt_size listed) apart]
  refine List.map_congr_left fun child listed => ?_
  have lowest := graded.falls node child listed
  refine value_of_same_below wellFormed acyclic size fun below climbs => ?_
  have known := lt_size_of_climbs climbs (wellFormed.lt_size listed)
  have higher := graded.le_height_of_climbs wellFormed climbs
  refine ⟨content? below known fun same => ?_, children below known fun same => ?_⟩
  · rw [same] at higher
    omega
  · rw [same] at higher
    omega

omit listed in
/-- **A node whose content changes, and which gets new siblings right after it**, stands
where it stood, and what is below it and below its old siblings remains. -/
theorem Stands.changed {front back : List (Tree Unit)} {here : Tree Unit}
    (stands : forest.Stands parent node front here back) (fresh : List NodeId)
    (wellFormedThen : other.WellFormed) (acyclicThen : other.Acyclic)
    (split : ∀ left right, forest.children parent = left ++ node :: right →
      other.children parent = left ++ node :: (fresh ++ right)) :
    other.Stands parent node front
      (.node () ((other.content? node).getD .document) here.children)
      (fresh.map other.value ++ back) := by
  obtain ⟨left, right, listed, rfl, rfl⟩ := stands.listed
  have child : node ∈ forest.children parent :=
    listed ▸ List.mem_append_right left List.mem_cons_self
  have same : ∀ sibling ∈ left ++ node :: right, sibling ≠ node →
      other.value sibling = forest.value sibling := fun sibling among different =>
    value_sibling wellFormed acyclic child size content? children (listed ▸ among) different
  have distinct := wellFormed.nodup_children parent
  rw [listed] at distinct
  obtain ⟨_, distinctRight, apart⟩ := List.nodup_append.mp distinct
  refine ⟨⟨left, fresh ++ right, split left right listed, ?_, ?_⟩, ?_⟩
  · exact List.map_congr_left fun sibling among => same sibling (List.mem_append_left _ among)
      (apart sibling among node List.mem_cons_self)
  · rw [List.map_append]
    refine congrArg _ (List.map_congr_left fun sibling among => same sibling ?_ fun here => ?_)
    · exact List.mem_append_right left (List.mem_cons_of_mem node among)
    · exact (List.nodup_cons.mp distinctRight).1 (here ▸ among)
  · rw [value_eq wellFormedThen acyclicThen,
      values_node wellFormed acyclic child size content? children, ← stands.value,
      value_eq wellFormed acyclic]
    rfl

end Siblings

/-! ## What a value says of its node -/

section Content

variable {forest : Forest} {id : NodeId}

theorem content_value (forest : Forest) (id : NodeId) :
    (forest.value id).content = (forest.content? id).getD .document := by
  rw [value, treeAt]
  cases forest.size <;> rfl

theorem comment?_content_value (forest : Forest) (id : NodeId) :
    (forest.value id).content.comment? = forest.comment? id := by
  rw [content_value, comment?]
  cases forest.content? id <;> rfl

theorem text?_content_value (forest : Forest) (id : NodeId) :
    (forest.value id).content.text? = forest.text? id := by
  rw [content_value, text?]
  cases forest.content? id <;> rfl

end Content

end Polyglot.Forest
