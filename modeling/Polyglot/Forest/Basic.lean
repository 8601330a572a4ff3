import Polyglot.Text.Basic

/-!
# Forests of nodes

The nodes of a document live in one store and are known by their numbers.  Each
node carries its content, the list of its children and the number of its
parent.  A node that has been taken out of the document stays in the store, so
the store is a forest: the tree below the document node and any number of loose
trees.

Nodes stay in the store for ever.  Nothing is said about how long a node lives
that nobody holds any more: a tree that was taken out can always be put back, and
the parent of a node in it is always there.

This module has the node contents, the store with its look-ups, and the single
changes that all editing is made of.  `WellFormed` says that parents and
children agree.
-/

set_option autoImplicit false

namespace Polyglot

/-- Where the name of an element comes from. -/
inductive Namespace where
  /-- The names of HTML. -/
  | html
  /-- Names without any meaning of their own. -/
  | plain
  deriving DecidableEq, Repr

/-- The name of an element. -/
structure ElementName where
  space : Namespace
  tag : Text
  deriving DecidableEq, Repr

/-- What a node is, apart from its place. -/
inductive Content where
  | document
  | doctype (name : Text)
  | text (text : Text)
  | comment (text : Text)
  | element (name : ElementName) (attributes : List (Text × Text))
  | instruction (target data : Text)
  deriving DecidableEq, Repr

namespace Content

/-- The text of a text node. -/
def text? : Content → Option Text
  | .text t => some t
  | _ => none

/-- The text of a comment. -/
def comment? : Content → Option Text
  | .comment t => some t
  | _ => none

/-- The local name of an element. -/
def elementName? : Content → Option Text
  | .element name _ => some name.tag
  | _ => none

/-- The value of an element's attribute. -/
def attribute? (content : Content) (name : Text) : Option Text :=
  match content with
  | .element _ attributes => attributes.lookup name
  | _ => none

/-- Whether a node is a text. -/
def isText (content : Content) : Bool :=
  content.text?.isSome

end Content

/-- The number of a node. -/
abbrev NodeId : Type := Nat

/-- A node with its place. -/
structure Node where
  content : Content
  parent? : Option NodeId
  children : List NodeId
  deriving DecidableEq, Repr

/-- All nodes of a document, loose ones included. -/
structure Forest where
  nodes : Array Node
  deriving DecidableEq, Repr

namespace Forest

/-- The number of the document node. -/
def root : NodeId := 0

/-- The forest that holds only a document node. -/
def empty : Forest := ⟨#[⟨.document, none, []⟩]⟩

/-- How many nodes there are. -/
def size (forest : Forest) : Nat := forest.nodes.size

/-! ## Looking up -/

/-- A node with its place. -/
def node? (forest : Forest) (id : NodeId) : Option Node :=
  forest.nodes[id]?

/-- What a node is. -/
def content? (forest : Forest) (id : NodeId) : Option Content :=
  (forest.node? id).map Node.content

/-- The parent of a node. -/
def parent? (forest : Forest) (id : NodeId) : Option NodeId :=
  (forest.node? id).bind Node.parent?

/-- The children of a node in order. -/
def children (forest : Forest) (id : NodeId) : List NodeId :=
  match forest.node? id with
  | some node => node.children
  | none => []

/-- The text of a text node. -/
def text? (forest : Forest) (id : NodeId) : Option Text :=
  (forest.content? id).bind Content.text?

/-- The text of a comment. -/
def comment? (forest : Forest) (id : NodeId) : Option Text :=
  (forest.content? id).bind Content.comment?

/-- The local name of an element. -/
def elementName? (forest : Forest) (id : NodeId) : Option Text :=
  (forest.content? id).bind Content.elementName?

/-- The value of an element's attribute. -/
def attribute? (forest : Forest) (id : NodeId) (name : Text) : Option Text :=
  (forest.content? id).bind fun content => content.attribute? name

/-! ## Single changes -/

/-- A forest with one more node, which is loose. -/
def add (forest : Forest) (content : Content) : Forest × NodeId :=
  (⟨forest.nodes.push ⟨content, none, []⟩⟩, forest.size)

/-- A forest with one node changed. -/
def modify (forest : Forest) (id : NodeId) (change : Node → Node) : Forest :=
  ⟨forest.nodes.modify id change⟩

/-- A forest with the content of one node set. -/
def setContent (forest : Forest) (id : NodeId) (content : Content) : Forest :=
  forest.modify id fun node => { node with content := content }

/-- A forest with the parent of one node set. -/
def setParent (forest : Forest) (id : NodeId) (parent? : Option NodeId) : Forest :=
  forest.modify id fun node => { node with parent? := parent? }

/-- A forest with the children of one node set. -/
def setChildren (forest : Forest) (id : NodeId) (children : List NodeId) : Forest :=
  forest.modify id fun node => { node with children := children }

/-- A change is seen at its own node and nowhere else. -/
theorem node?_modify (forest : Forest) (id other : NodeId) (change : Node → Node) :
    (forest.modify id change).node? other
      = if id = other then (forest.node? other).map change else forest.node? other := by
  simp [modify, node?, Array.getElem?_modify]

@[simp] theorem size_modify (forest : Forest) (id : NodeId) (change : Node → Node) :
    (forest.modify id change).size = forest.size := by
  simp [modify, size]

/-! ## Agreement of parents and children -/

/-- Parents and children agree: a node stands among the children of exactly the
node that it names as its parent, and there only once. -/
structure WellFormed (forest : Forest) : Prop where
  mem_children_iff : ∀ parent child,
    child ∈ forest.children parent ↔ forest.parent? child = some parent
  nodup_children : ∀ parent, (forest.children parent).Nodup

end Forest

end Polyglot
