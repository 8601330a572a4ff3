import Polyglot.Document.Basic

/-!
# Delivering changes

A delivery goes in rounds.  A round takes the list of the observers to be called
and deals with them one after the other: it empties the observer's queue and, if
there was anything in it, calls the observer with it.  What the calls change is
delivered in a later round of the same delivery, which ends when a round finds
nobody to be called.  A delivery asked for during a delivery does nothing.

What a call does is left open: it may change the document and anything else
besides, so delivering works on any state that has a document in it.  Calls can
keep each other busy for ever, so the number of rounds is limited, and a
delivery that would need more has no result.
-/

set_option autoImplicit false

namespace Polyglot

/-- A kind of state with a document in it, whose observers can be called. -/
structure Stage (World : Type) where
  document : World → Document
  withDocument : World → Document → World
  /-- What happens when an observer is called with changes. -/
  call : ObserverId → List Change → World → World
  /-- What happens when an observer is passed over with changes that it will not
  hear of, because it is being called already. -/
  passOver : ObserverId → List Change → World → World

namespace Stage

variable {World : Type} (stage : Stage World)

/-- A world with its document changed. -/
def update (world : World) (change : Document → Document) : World :=
  stage.withDocument world (change (stage.document world))

/-- A world in which an observer has been told what it had yet to hear of, and
the number of calls made: one, or none if there was nothing to tell or the
observer was passed over. -/
def deliverTo (id : ObserverId) (world : World) : World × Nat :=
  let (document, changes) := (stage.document world).takeChanges id
  let taken := stage.withDocument world document
  if changes.isEmpty then (taken, 0)
  else if document.running.contains id then (stage.passOver id changes taken, 0)
  else
    let called := stage.call id changes
      (stage.update taken fun document => { document with running := id :: document.running })
    (stage.update called fun document => { document with running := document.running.erase id }, 1)

/-- A world in which several observers have been told in order, and the number
of calls made.  An observer that has been dealt with leaves the batch. -/
def deliverAll : List ObserverId → World → World × Nat
  | [], world => (world, 0)
  | id :: rest, world =>
    let (told, calls) := stage.deliverTo id world
    let (world, others) :=
      deliverAll rest (stage.update told fun document => { document with batch := rest })
    (world, calls + others)

/-- A world in which rounds were made until nobody was left to be called, and
the number of calls; none if the limit is too low. -/
def rounds : Nat → World → Option (World × Nat)
  | 0, _ => none
  | limit + 1, world =>
    match (stage.document world).pending with
    | [] => some (world, 0)
    | batch =>
      let started := stage.update world fun document =>
        { document with pending := [], batch := batch }
      let (world, calls) := stage.deliverAll batch started
      (rounds limit world).map fun (world, others) => (world, calls + others)

/-- A world in which everything has been delivered, and the number of calls. -/
def deliver? (limit : Nat) (world : World) : Option (World × Nat) :=
  if (stage.document world).delivering then some (world, 0)
  else
    let started := stage.update world fun document => { document with delivering := true }
    (stage.rounds limit started).map fun (world, calls) =>
      (stage.update world fun document => { document with delivering := false }, calls)

end Stage

end Polyglot
