import Polyglot.Forest.Walk

/-!
# Looking up after single changes

What the content, the parent and the children of a node are after one of the
single changes that all editing is made of. Each change is seen in one respect at
one node; a node that is not there is not changed.
-/

set_option autoImplicit false

namespace Polyglot.Forest

variable (forest : Forest) (id other : NodeId)

theorem node?_eq_none_of_size_le (beyond : forest.size ≤ id) : forest.node? id = none :=
  Array.getElem?_eq_none beyond

theorem lt_size_of_node? {node : Node} (found : forest.node? id = some node) :
    id < forest.size :=
  (Array.getElem?_eq_some_iff.mp found).1

theorem node?_of_lt_size (known : id < forest.size) : ∃ node, forest.node? id = some node :=
  ⟨_, Array.getElem?_eq_getElem known⟩

theorem lt_size_of_content? {content : Content} (found : forest.content? id = some content) :
    id < forest.size := by
  obtain ⟨node, stored, _⟩ := Option.map_eq_some_iff.mp found
  exact forest.lt_size_of_node? id stored

theorem lt_size_of_text? {text : Text} (found : forest.text? id = some text) :
    id < forest.size := by
  obtain ⟨content, stored, _⟩ := Option.bind_eq_some_iff.mp found
  exact forest.lt_size_of_content? id stored

theorem lt_size_of_parent? {parent : NodeId} (found : forest.parent? id = some parent) :
    id < forest.size := by
  obtain ⟨node, stored, _⟩ := Option.bind_eq_some_iff.mp found
  exact forest.lt_size_of_node? id stored

theorem lt_size_of_mem_children {child : NodeId} (listed : child ∈ forest.children id) :
    id < forest.size := by
  unfold children at listed
  cases stored : forest.node? id with
  | none => simp [stored] at listed
  | some node => exact forest.lt_size_of_node? id stored

theorem parent?_eq_none_of_size_le (beyond : forest.size ≤ id) : forest.parent? id = none := by
  rw [parent?, forest.node?_eq_none_of_size_le id beyond, Option.bind_none]

theorem children_eq_nil_of_size_le (beyond : forest.size ≤ id) : forest.children id = [] := by
  rw [children, forest.node?_eq_none_of_size_le id beyond]

theorem content?_eq_none_of_size_le (beyond : forest.size ≤ id) : forest.content? id = none := by
  rw [content?, forest.node?_eq_none_of_size_le id beyond, Option.map_none]

/-! ## One more node -/

section Add

variable (content : Content)

theorem node?_add :
    (forest.add content).1.node? other =
      if other = forest.size then some ⟨content, none, []⟩ else forest.node? other := by
  rw [add, node?, Array.getElem?_push]
  rfl

@[simp] theorem size_add : (forest.add content).1.size = forest.size + 1 := by
  simp [add, size]

theorem content?_add :
    (forest.add content).1.content? other =
      if other = forest.size then some content else forest.content? other := by
  rw [content?, node?_add]
  split <;> rfl

/-- A new node has no parent. -/
@[simp] theorem parent?_add : (forest.add content).1.parent? other = forest.parent? other := by
  rw [parent?, node?_add]
  split
  · next same =>
    rw [same, forest.parent?_eq_none_of_size_le _ (Nat.le_refl _), Option.bind_some]
  · rfl

/-- A new node has no children. -/
@[simp] theorem children_add : (forest.add content).1.children other = forest.children other := by
  rw [children, node?_add]
  split
  · next node same =>
    split at same
    · next new =>
      cases same
      rw [new, forest.children_eq_nil_of_size_le _ (Nat.le_refl _)]
    · rw [children, same]
  · next same =>
    split at same
    · cases same
    · rw [children, same]

end Add

/-! ## One node changed -/

section Modify

variable (content : Content) (parent : Option NodeId) (list : List NodeId)

/-- What a change of one node leaves alone is as it was everywhere. -/
theorem map_node?_modify {α : Type} (view : Node → α) (change : Node → Node)
    (keeps : ∀ node, view (change node) = view node) :
    ((forest.modify id change).node? other).map view = (forest.node? other).map view := by
  rw [node?_modify]
  split
  · rw [Option.map_map]
    exact congrArg (fun view => (forest.node? other).map view) (funext keeps)
  · rfl

theorem parent?_eq_map : forest.parent? other = ((forest.node? other).map Node.parent?).join := by
  rw [parent?]
  cases forest.node? other <;> rfl

theorem children_eq_map :
    forest.children other = ((forest.node? other).map Node.children).getD [] := by
  rw [children]
  cases forest.node? other <;> rfl

@[simp] theorem size_setContent : (forest.setContent id content).size = forest.size :=
  size_modify forest id _

@[simp] theorem size_setParent : (forest.setParent id parent).size = forest.size :=
  size_modify forest id _

@[simp] theorem size_setChildren : (forest.setChildren id list).size = forest.size :=
  size_modify forest id _

@[simp] theorem parent?_setContent :
    (forest.setContent id content).parent? other = forest.parent? other := by
  rw [parent?_eq_map, parent?_eq_map, setContent, map_node?_modify]
  exact fun _ => rfl

@[simp] theorem children_setContent :
    (forest.setContent id content).children other = forest.children other := by
  rw [children_eq_map, children_eq_map, setContent, map_node?_modify]
  exact fun _ => rfl

@[simp] theorem content?_setParent :
    (forest.setParent id parent).content? other = forest.content? other := by
  rw [content?, content?, setParent, map_node?_modify]
  exact fun _ => rfl

@[simp] theorem children_setParent :
    (forest.setParent id parent).children other = forest.children other := by
  rw [children_eq_map, children_eq_map, setParent, map_node?_modify]
  exact fun _ => rfl

@[simp] theorem content?_setChildren :
    (forest.setChildren id list).content? other = forest.content? other := by
  rw [content?, content?, setChildren, map_node?_modify]
  exact fun _ => rfl

@[simp] theorem parent?_setChildren :
    (forest.setChildren id list).parent? other = forest.parent? other := by
  rw [parent?_eq_map, parent?_eq_map, setChildren, map_node?_modify]
  exact fun _ => rfl

variable {forest} {id}

theorem content?_setContent (known : id < forest.size) :
    (forest.setContent id content).content? other =
      if other = id then some content else forest.content? other := by
  rw [content?, setContent, node?_modify]
  by_cases same : other = id
  · obtain ⟨node, stored⟩ := forest.node?_of_lt_size id known
    rw [if_pos same.symm, if_pos same, same, stored]
    rfl
  · rw [if_neg (Ne.symm same), if_neg same]
    rfl

theorem parent?_setParent (known : id < forest.size) :
    (forest.setParent id parent).parent? other =
      if other = id then parent else forest.parent? other := by
  rw [parent?, setParent, node?_modify]
  by_cases same : other = id
  · obtain ⟨node, stored⟩ := forest.node?_of_lt_size id known
    rw [if_pos same.symm, if_pos same, same, stored]
    rfl
  · rw [if_neg (Ne.symm same), if_neg same]
    rfl

theorem children_setChildren (known : id < forest.size) :
    (forest.setChildren id list).children other =
      if other = id then list else forest.children other := by
  rw [children_eq_map, setChildren, node?_modify]
  by_cases same : other = id
  · obtain ⟨node, stored⟩ := forest.node?_of_lt_size id known
    rw [if_pos same.symm, if_pos same, same, stored]
    rfl
  · rw [if_neg (Ne.symm same), if_neg same, children_eq_map]

end Modify

/-! ## Well-formed forests -/

namespace WellFormed

variable {forest : Forest} {parent child : NodeId}

theorem parent?_of_mem (wellFormed : forest.WellFormed) (listed : child ∈ forest.children parent) :
    forest.parent? child = some parent :=
  (wellFormed.mem_children_iff parent child).mp listed

theorem mem_of_parent? (wellFormed : forest.WellFormed)
    (found : forest.parent? child = some parent) : child ∈ forest.children parent :=
  (wellFormed.mem_children_iff parent child).mpr found

theorem lt_size (wellFormed : forest.WellFormed) (listed : child ∈ forest.children parent) :
    child < forest.size :=
  forest.lt_size_of_parent? child (wellFormed.parent?_of_mem listed)

end WellFormed

end Polyglot.Forest
