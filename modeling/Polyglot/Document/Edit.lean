import Polyglot.Document.Basic

/-!
# Editing a document

The edits: exchanging a text, taking a node out, and putting a node somewhere
else.  A node that is put somewhere is first taken out of where it was, which is
an edit of its own with a report of its own.  Each edit says whether it was
carried out.  An edit that finds, after taking the node out, that the place it
was meant for has gone is not carried out, but the node stays out.
-/

set_option autoImplicit false

namespace Polyglot.Document

/-- A document with its forest exchanged. -/
def withForest (document : Document) (forest : Forest) : Document :=
  { document with forest := forest }

/-- A document with one more loose node. -/
def addNode (document : Document) (content : Content) : Document × NodeId :=
  let (forest, id) := document.forest.add content
  (document.withForest forest, id)

/-- A document with a text node given another text; other nodes have no text to
exchange. -/
def setText (document : Document) (node : NodeId) (text : Text) : Document × Bool :=
  match document.forest.text? node with
  | none => (document, false)
  | some old =>
    ((document.withForest (document.forest.setContent node (.text text))).report (.text node old),
      true)

/-- A document with a node taken out of its parent. -/
def remove (document : Document) (node : NodeId) : Document × Bool :=
  match document.forest.parent? node with
  | none => (document, false)
  | some parent =>
    match document.forest.indexOf? parent node with
    | none => (document.withForest (document.forest.setParent node none), false)
    | some index =>
      let children := (document.forest.children parent).eraseIdx index
      let forest := (document.forest.setChildren parent children).setParent node none
      ((document.withForest forest).report (.children parent [] [node]), true)

/-- A document with a node made the last child of another. -/
def append (document : Document) (parent node : NodeId) : Document :=
  let document := (document.remove node).1
  (document.withForest (document.forest.attach parent node)).report (.children parent [node] [])

/-- A document with a node put directly after another, which must have a parent. -/
def insertAfter (document : Document) (reference node : NodeId) : Document × Bool :=
  match document.forest.parent? reference with
  | none => (document, false)
  | some parent =>
    let document := (document.remove node).1
    match document.forest.indexOf? parent reference with
    | none => (document, false)
    | some index =>
      let children := (document.forest.children parent).insertIdx (index + 1) node
      let forest := (document.forest.setChildren parent children).setParent node (some parent)
      ((document.withForest forest).report (.children parent [node] []), true)

/-- A document with a node put in the place of another, which must have a
parent.  A node is always in its own place. -/
def replace (document : Document) (old node : NodeId) : Document × Bool :=
  if old = node then (document, true)
  else
    match document.forest.parent? old with
    | none => (document, false)
    | some parent =>
      let document := (document.remove node).1
      match document.forest.indexOf? parent old with
      | none => (document, false)
      | some index =>
        let children := (document.forest.children parent).set index node
        let forest := ((document.forest.setChildren parent children).setParent node
          (some parent)).setParent old none
        ((document.withForest forest).report (.children parent [node] [old]), true)

end Polyglot.Document
