import Polyglot.Forest.Basic

/-!
# Trees as values

A tree as a nested value, each of whose nodes carries a mark.  Markup is read
into trees and written from trees; `Forest.graft` puts a tree into a forest and
reports where each mark went, and `Forest.treeAt` takes the tree below a node
out again.
-/

set_option autoImplicit false

namespace Polyglot

/-- A node with its mark, its content and the trees below it. -/
inductive Tree (α : Type) where
  | node (mark : α) (content : Content) (children : List (Tree α))

namespace Tree

variable {α : Type}

instance [Inhabited α] : Inhabited (Tree α) := ⟨node default .document []⟩

/-- The content of the topmost node. -/
def content : Tree α → Content
  | node _ content _ => content

/-- The trees directly below the topmost node. -/
def children : Tree α → List (Tree α)
  | node _ _ children => children

end Tree

namespace Forest

variable {α : Type}

/-! ## From trees to nodes -/

/-- A forest with a new last child for a node. -/
def attach (forest : Forest) (parent child : NodeId) : Forest :=
  (forest.modify parent fun node => { node with children := node.children ++ [child] }).setParent
    child (some parent)

mutual

/-- A forest with a tree added as a loose one, the number of its topmost node,
and the marks of all its nodes in document order. -/
def graft (forest : Forest) : Tree α → Forest × NodeId × List (α × NodeId)
  | .node mark content children =>
    let (forest, id) := forest.add content
    let (forest, marks) := graftBelow forest id children
    (forest, id, (mark, id) :: marks)

/-- A forest with trees added below a node. -/
def graftBelow (forest : Forest) (parent : NodeId) :
    List (Tree α) → Forest × List (α × NodeId)
  | [] => (forest, [])
  | tree :: rest =>
    let (forest, child, marks) := graft forest tree
    let (forest, others) := graftBelow (forest.attach parent child) parent rest
    (forest, marks ++ others)

end

/-! ## From nodes to trees -/

/-- The tree below a node with `fuel` levels at most, its nodes marked by a
function of their numbers. -/
def treeWithin (forest : Forest) (markOf : NodeId → α) : Nat → NodeId → Tree α
  | 0, id => .node (markOf id) ((forest.content? id).getD .document) []
  | fuel + 1, id =>
    .node (markOf id) ((forest.content? id).getD .document)
      ((forest.children id).map (treeWithin forest markOf fuel))

/-- The tree below a node. -/
def treeAt (forest : Forest) (markOf : NodeId → α) (id : NodeId) : Tree α :=
  forest.treeWithin markOf forest.size id

/-- The forest that holds trees below its document node. -/
def ofTrees (trees : List (Tree α)) : Forest × List (α × NodeId) :=
  graftBelow empty root trees

end Forest

end Polyglot
