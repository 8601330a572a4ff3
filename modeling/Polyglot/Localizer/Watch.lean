import Polyglot.Document.Basic

/-!
# Watching a subtree

A watch is a pair of observers for one subtree, one for its texts and one for
its nodes.  Suspending a watch takes from each observer that is at work what it
has yet to hear of and stops it; resuming starts the observers that were stopped
and gives them back what was taken.  What happens in between is heard by
neither.  Suspending a watch that is suspended already takes nothing, and
resuming from that changes nothing.
-/

set_option autoImplicit false

namespace Polyglot

/-- The observers of a subtree. -/
structure Watch where
  target : NodeId
  /-- The observer of texts that change. -/
  texts : ObserverId
  /-- The observer of nodes that come and leave. -/
  nodes : ObserverId
  deriving DecidableEq, Repr

/-- What was taken from a watch: for each observer that was at work, what it had
yet to hear of. -/
structure Suspension where
  texts? : Option (List Change)
  nodes? : Option (List Change)
  deriving DecidableEq, Repr

namespace Watch

/-- A document with two more observers, and the watch that they make. -/
def new (document : Document) (target : NodeId) : Document × Watch :=
  let (document, texts) := document.addObserver
  let (document, nodes) := document.addObserver
  (document, ⟨target, texts, nodes⟩)

/-- Texts are watched from now on. -/
def startTexts (watch : Watch) (document : Document) : Document :=
  document.observe watch.texts watch.target .texts

/-- Texts are watched no more. -/
def stopTexts (watch : Watch) (document : Document) : Document :=
  document.disconnect watch.texts

/-- Nodes are watched from now on. -/
def startNodes (watch : Watch) (document : Document) : Document :=
  document.observe watch.nodes watch.target .nodes

/-- Nodes are watched no more. -/
def stopNodes (watch : Watch) (document : Document) : Document :=
  document.disconnect watch.nodes

/-- Everything is watched from now on. -/
def start (watch : Watch) (document : Document) : Document :=
  watch.startNodes (watch.startTexts document)

/-- Nothing is watched any more. -/
def stop (watch : Watch) (document : Document) : Document :=
  watch.stopNodes (watch.stopTexts document)

/-- Whether texts are watched. -/
def watchesTexts (watch : Watch) (document : Document) : Bool :=
  document.isObserving watch.texts

/-- Whether nodes are watched. -/
def watchesNodes (watch : Watch) (document : Document) : Bool :=
  document.isObserving watch.nodes

/-- A document in which nobody else holds the observers of a watch any more. -/
def release (watch : Watch) (document : Document) : Document :=
  (document.release watch.texts).release watch.nodes

/-- A document in which an observer is stopped, and what it had yet to hear of if
it was at work. -/
def withhold (document : Document) (id : ObserverId) : Document × Option (List Change) :=
  if document.isObserving id then
    let (document, changes) := document.takeChanges id
    (document.disconnect id, some changes)
  else (document, none)

/-- A document in which a watch is suspended, and what was taken from it. -/
def suspend (watch : Watch) (document : Document) : Document × Suspension :=
  let (document, texts?) := withhold document watch.texts
  let (document, nodes?) := withhold document watch.nodes
  (document, ⟨texts?, nodes?⟩)

/-- A document in which a watch is at work again as far as it was. -/
def resume (watch : Watch) (suspension : Suspension) (document : Document) : Document :=
  let document := match suspension.texts? with
    | some changes => (watch.startTexts document).requeue watch.texts changes
    | none => document
  match suspension.nodes? with
  | some changes => (watch.startNodes document).requeue watch.nodes changes
  | none => document

end Watch

end Polyglot
