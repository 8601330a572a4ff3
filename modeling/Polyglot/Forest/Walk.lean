import Polyglot.Forest.Basic

/-!
# Walking through a forest

Where a node stands: its ancestors, its next sibling, its index among the
children of another node; and what lies below it: the text nodes in document
order.  Walks up and down are bounded by the number of nodes, which is enough
wherever no node lies below itself.

The parts of an HTML document that a localizer looks for are found here too:
the document element, the body and the declared language.
-/

set_option autoImplicit false

namespace Polyglot.Forest

/-! ## Upwards -/

/-- A node and its ancestors, nearest first, at most `fuel` of them. -/
def lineageWithin (forest : Forest) : Nat → NodeId → List NodeId
  | 0, _ => []
  | fuel + 1, id =>
    id :: match forest.parent? id with
      | some parent => lineageWithin forest fuel parent
      | none => []

/-- A node and its ancestors, nearest first. -/
def lineage (forest : Forest) (id : NodeId) : List NodeId :=
  forest.lineageWithin (forest.size + 1) id

/-- Whether a node is another one or stands above it. -/
def isInclusiveAncestor (forest : Forest) (ancestor id : NodeId) : Bool :=
  (forest.lineage id).contains ancestor

/-! ## Sideways -/

/-- The place of a node among the children of another. -/
def indexOf? (forest : Forest) (parent child : NodeId) : Option Nat :=
  (forest.children parent).idxOf? child

/-- The sibling directly after a node. -/
def nextSibling? (forest : Forest) (id : NodeId) : Option NodeId :=
  match forest.parent? id with
  | none => none
  | some parent =>
    (forest.indexOf? parent id).bind fun index => (forest.children parent)[index + 1]?

/-! ## Downwards -/

/-- The text nodes of a subtree in document order; nothing below a text counts. -/
def textNodesWithin (forest : Forest) : Nat → NodeId → List NodeId
  | 0, _ => []
  | fuel + 1, id =>
    if (forest.text? id).isSome then [id]
    else (forest.children id).flatMap (textNodesWithin forest fuel)

/-- The text nodes below a node in document order, the node itself left out. -/
def textNodes (forest : Forest) (id : NodeId) : List NodeId :=
  (forest.children id).flatMap (forest.textNodesWithin forest.size)

/-- The first child that is an element of a given name. -/
def childNamed? (forest : Forest) (parent : NodeId) (name : Text) : Option NodeId :=
  (forest.children parent).find? fun child => forest.elementName? child == some name

/-! ## The parts of a document -/

/-- The document element. -/
def documentElement? (forest : Forest) : Option NodeId :=
  forest.childNamed? root "html".toList

/-- The body of the document, or the document node where there is none. -/
def body (forest : Forest) : NodeId :=
  ((forest.documentElement?).bind fun html => forest.childNamed? html "body".toList).getD root

/-- The language that the document element declares. -/
def declaredLanguage? (forest : Forest) : Option Text :=
  ((forest.documentElement?).bind fun html => forest.attribute? html "lang".toList).filter
    fun language => !language.isEmpty

end Polyglot.Forest
