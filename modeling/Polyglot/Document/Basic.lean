import Polyglot.Forest.Tree
import Polyglot.Forest.Walk

/-!
# Documents under observation

A document is a forest together with its observers.  An observer is registered
for nodes, each time with what it wants to hear of; every edit is reported as a
`Change`, and an observer keeps the changes that concern it in a queue until the
document delivers them.

Observers are known by numbers in the order in which they were made.  The
document lists in `pending` the observers to be called next and, while it
delivers, in `batch` those that it has taken off that list; an observer that
nobody else holds any more lives for as long as it is on one of the two lists.
Nodes, unlike observers, never die: a node that is watched is there for as long as
the document is.
-/

set_option autoImplicit false

namespace Polyglot

/-- The number of an observer. -/
abbrev ObserverId : Type := Nat

/-- One edit, as observers are told of it. -/
inductive Change where
  /-- Nodes came to the children of a node or left them. -/
  | children (target : NodeId) (added removed : List NodeId)
  /-- A text node got another text. -/
  | text (target : NodeId) (old : Text)
  deriving DecidableEq, Repr

namespace Change

/-- The node that an edit was made to. -/
def target : Change → NodeId
  | children target _ _ => target
  | text target _ => target

/-- The nodes that came. -/
def added : Change → List NodeId
  | children _ added _ => added
  | text _ _ => []

/-- The nodes that left. -/
def removed : Change → List NodeId
  | children _ _ removed => removed
  | text _ _ => []

/-- The text before the edit. -/
def old? : Change → Option Text
  | children _ _ _ => none
  | text _ old => some old

/-- Whether the edit was made to a text. -/
def isText : Change → Bool
  | children _ _ _ => false
  | text _ _ => true

end Change

/-- What an observer wants to hear of at a node. -/
structure Interest where
  /-- Nodes that come and leave. -/
  children : Bool
  /-- Texts that change. -/
  text : Bool
  /-- Also what happens below the node. -/
  subtree : Bool
  deriving DecidableEq, Repr

namespace Interest

/-- Nodes that come and leave anywhere in a subtree. -/
def nodes : Interest := ⟨true, false, true⟩

/-- Texts that change anywhere in a subtree. -/
def texts : Interest := ⟨false, true, true⟩

/-- Whether changes of a kind are wanted. -/
def accepts (interest : Interest) (change : Change) : Bool :=
  if change.isText then interest.text else interest.children

end Interest

/-- An observer's wish to hear of what happens at a node. -/
structure Registration where
  observer : ObserverId
  target : NodeId
  interest : Interest
  deriving DecidableEq, Repr

/-- The state of an observer. -/
structure Observer where
  /-- The changes that have not been delivered yet. -/
  queue : List Change
  /-- Whether the observer was put on the list of those to be called when a change
  came in, and nobody has taken its changes since. -/
  queued : Bool
  /-- Whether anybody but the document holds the observer. -/
  held : Bool
  deriving DecidableEq, Repr

/-- A forest with its observers. -/
structure Document where
  forest : Forest
  observers : Array Observer
  registrations : List Registration
  /-- The observers to be called, those that were first to have something to
  hear first. -/
  pending : List ObserverId
  /-- The observers that the delivery under way has yet to deal with; the first
  is being dealt with. -/
  batch : List ObserverId
  /-- Whether a delivery is under way. -/
  delivering : Bool
  /-- The observers that are being called. -/
  running : List ObserverId
  deriving DecidableEq, Repr

namespace Document

/-- A document that nobody observes. -/
def ofForest (forest : Forest) : Document :=
  ⟨forest, #[], [], [], [], false, []⟩

/-! ## Observers -/

/-- The state of an observer. -/
def observer? (document : Document) (id : ObserverId) : Option Observer :=
  document.observers[id]?

/-- The changes that an observer has yet to hear of. -/
def queue (document : Document) (id : ObserverId) : List Change :=
  match document.observer? id with
  | some observer => observer.queue
  | none => []

/-- Whether an observer was put on the list of those to be called. -/
def isQueued (document : Document) (id : ObserverId) : Bool :=
  (document.observer? id).any Observer.queued

/-- Whether anybody but the document holds an observer. -/
def isHeld (document : Document) (id : ObserverId) : Bool :=
  (document.observer? id).any Observer.held

/-- Whether an observer still lives. -/
def isLive (document : Document) (id : ObserverId) : Bool :=
  document.isHeld id || document.pending.contains id || document.batch.contains id

/-- A document with one more observer, which observes nothing yet. -/
def addObserver (document : Document) : Document × ObserverId :=
  ({ document with observers := document.observers.push ⟨[], false, true⟩ }, document.observers.size)

/-- A document with the state of one observer changed. -/
def modifyObserver (document : Document) (id : ObserverId) (change : Observer → Observer) :
    Document :=
  { document with observers := document.observers.modify id change }

/-- A document one of whose observers nobody else holds any more. -/
def release (document : Document) (id : ObserverId) : Document :=
  document.modifyObserver id fun observer => { observer with held := false }

/-- A change of one observer is seen at that observer only. -/
theorem observer?_modifyObserver (document : Document) (id other : ObserverId)
    (change : Observer → Observer) :
    (document.modifyObserver id change).observer? other
      = if id = other then (document.observer? other).map change
        else document.observer? other := by
  simp [modifyObserver, observer?, Array.getElem?_modify]

/-! ## Waiting changes -/

/-- Whether any observer is to be called. -/
def hasPending (document : Document) : Bool :=
  !document.pending.isEmpty

/-- A document in which an observer has one more change to hear of.  An observer
that was not queued joins the list of those to be called. -/
def enqueue (document : Document) (change : Change) (id : ObserverId) : Document :=
  let next := document.modifyObserver id fun observer =>
    { observer with queue := observer.queue ++ [change], queued := true }
  if document.isQueued id then next else { next with pending := document.pending ++ [id] }

/-- A document in which an observer has several more changes to hear of. -/
def requeue (document : Document) (id : ObserverId) (changes : List Change) : Document :=
  changes.foldl (fun document change => document.enqueue change id) document

/-- The changes that an observer has yet to hear of, and the document without
them.  The observer stays on the list of those to be called, but counts as
queued no more. -/
def takeChanges (document : Document) (id : ObserverId) : Document × List Change :=
  (document.modifyObserver id fun observer => { observer with queue := [], queued := false },
    document.queue id)

/-! ## Registrations -/

/-- Registrations with one more; a second one of the same observer for the same
node exchanges the interest of the first. -/
def insertRegistration (new : Registration) : List Registration → List Registration
  | [] => [new]
  | first :: rest =>
    if first.observer = new.observer ∧ first.target = new.target then new :: rest
    else first :: insertRegistration new rest

/-- A document in which an observer is registered for a node; registrations of
observers that live no more are dropped on this occasion. -/
def observe (document : Document) (id : ObserverId) (target : NodeId) (interest : Interest) :
    Document :=
  { document with
    registrations := insertRegistration ⟨id, target, interest⟩
      (document.registrations.filter fun registration => document.isLive registration.observer) }

/-- Whether an observer is registered for any node. -/
def isObserving (document : Document) (id : ObserverId) : Bool :=
  document.registrations.any fun registration => registration.observer == id

/-- A document in which an observer is registered for nothing and has nothing to
hear of; registrations of observers that live no more are dropped on this
occasion, too. -/
def disconnect (document : Document) (id : ObserverId) : Document :=
  ({ document with
      registrations := document.registrations.filter fun registration =>
        document.isLive registration.observer && registration.observer != id
      pending := document.pending.filter (· != id) }.takeChanges id).1

/-! ## Routing -/

/-- The observers that a change concerns by way of one node: they are registered
for it, want to hear of such changes, and the node is the change's own or they
want to hear of its whole subtree. -/
def concernedAt (document : Document) (change : Change) (node : NodeId) : List ObserverId :=
  document.registrations.filterMap fun registration =>
    if registration.target = node ∧ (node = change.target ∨ registration.interest.subtree = true)
        ∧ registration.interest.accepts change = true
        ∧ document.isLive registration.observer = true then
      some registration.observer
    else none

/-- The observers that a change concerns, each once: first those registered for
its own node, then those registered for the node's ancestors, nearest first. -/
def concerned (document : Document) (change : Change) : List ObserverId :=
  ((document.forest.lineage change.target).flatMap (document.concernedAt change)).eraseDups

/-- A document in which a change is reported to everyone it concerns. -/
def report (document : Document) (change : Change) : Document :=
  (document.concerned change).foldl (fun document id => document.enqueue change id) document

end Document

end Polyglot
