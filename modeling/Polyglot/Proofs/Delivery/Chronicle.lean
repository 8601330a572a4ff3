import Polyglot.Proofs.Delivery.History
import Polyglot.Proofs.Delivery.Rule
import Polyglot.Proofs.Document.Moves

/-!
# Runs and what they leave on record

A run is what somebody does to a document, step by step: edits, the operations
on observers, and deliveries. What an observer does when it is called is again a
list of such deeds, which a `Client` chooses, and it may choose by everything
that has happened. A `Chronicle` is a document in the middle of a run together
with the moments of the run so far: what happened, and the document after it.

An edit is carried out as a whole; what it leaves on record are its strokes, one
by one. A delivery that is asked for during a call does nothing, as
`Stage.deliver?_of_delivering` says, and is put on record as refused.
-/

set_option autoImplicit false

namespace Polyglot

/-- Something that is done to a document. -/
inductive Deed where
  | addNode (content : Content)
  | edit (edit : Edit)
  | addObserver
  | release (id : ObserverId)
  | observe (id : ObserverId) (target : NodeId) (interest : Interest)
  | disconnect (id : ObserverId)
  | take (id : ObserverId)
  | giveBack (id : ObserverId) (changes : List Change)
  | deliver
  deriving DecidableEq, Repr

/-- Something that happened, and the document after it. -/
structure Moment where
  event : Event
  document : Document

/-- A document in the middle of a run, whatever else there is, and the moments
of the run so far. -/
structure Chronicle (σ : Type) where
  document : Document
  state : σ
  moments : List Moment

/-- Whoever decides what the observers do when they are called. -/
structure Client (σ : Type) where
  react : ObserverId → List Change → Chronicle σ → List Deed × σ

/-! ## What edits leave on record -/

namespace Document

/-- What happens with a stroke. -/
def strokeEvent (document : Document) (stroke : Stroke) : Event :=
  match stroke.change? with
  | none => .other
  | some change => .reported change ((document.withForest stroke.forest).concerned change)

/-- The moments of playing strokes. -/
def strokeMoments : Document → List Stroke → List Moment
  | _, [] => []
  | document, stroke :: rest =>
    ⟨document.strokeEvent stroke, document.stroke stroke⟩ ::
      strokeMoments (document.stroke stroke) rest

end Document

/-! ## Deeds -/

namespace Chronicle

variable {σ : Type}

/-- A run that has not begun. -/
def start (forest : Forest) (state : σ) : Chronicle σ :=
  ⟨.ofForest forest, state, []⟩

/-- What has happened. -/
def history (chronicle : Chronicle σ) : History :=
  chronicle.moments.map Moment.event

/-- A chronicle with one more moment. -/
def note (chronicle : Chronicle σ) (event : Event) (document : Document) : Chronicle σ :=
  { chronicle with
    document := document
    moments := chronicle.moments ++ [⟨event, document⟩] }

/-- A chronicle after an edit. -/
def edit (chronicle : Chronicle σ) (edit : Edit) : Chronicle σ :=
  { chronicle with
    document := edit.carryOut chronicle.document
    moments := chronicle.moments ++
      chronicle.document.strokeMoments (edit.strokes chronicle.document.forest) }

/-- A chronicle after something was done to an observer; to one that has not been
made nothing can be done. -/
def onObserver (chronicle : Chronicle σ) (id : ObserverId) (event : Event) (document : Document) :
    Chronicle σ :=
  if chronicle.document.Knows id then chronicle.note event document else chronicle

/-- A chronicle after a deed, where a delivery is refused. -/
def act (chronicle : Chronicle σ) : Deed → Chronicle σ
  | .addNode content => chronicle.note .other (chronicle.document.addNode content).1
  | .edit edit => chronicle.edit edit
  | .addObserver => chronicle.note .other chronicle.document.addObserver.1
  | .release id => chronicle.onObserver id .other (chronicle.document.release id)
  | .observe id target interest =>
    chronicle.onObserver id .other (chronicle.document.observe id target interest)
  | .disconnect id => chronicle.onObserver id (.stopped id) (chronicle.document.disconnect id)
  | .take id =>
    let (document, changes) := chronicle.document.takeChanges id
    chronicle.onObserver id (.taken id changes) document
  | .giveBack id changes =>
    chronicle.onObserver id (.returned id changes) (chronicle.document.requeue id changes)
  | .deliver => chronicle.note .refused chronicle.document

end Chronicle

/-! ## Runs -/

namespace Client

variable {σ : Type} (client : Client σ)

/-- Chronicles as a stage: an observer that is called does the deeds that the
client chooses. -/
def stage : Stage (Chronicle σ) where
  document := Chronicle.document
  withDocument chronicle document := { chronicle with document := document }
  call id changes chronicle :=
    let called := chronicle.note (.called id changes) chronicle.document
    let (deeds, state) := client.react id changes called
    { deeds.foldl Chronicle.act called with state := state }
  passOver id changes chronicle := chronicle.note (.passedOver id changes) chronicle.document

/-- A chronicle after a run of deeds, whose deliveries may take some rounds each.
A delivery that does not come to its end within them is never over, so the run
ends there. -/
def run (limit : Nat) (chronicle : Chronicle σ) : List Deed → Chronicle σ
  | [] => chronicle
  | deed :: rest =>
    if deed = .deliver then
      match client.stage.deliverWithin limit chronicle with
      | (after, true) => run limit (after.note .delivered after.document) rest
      | (after, false) => after
    else run limit (chronicle.act deed) rest

end Client

/-! ## Deeds step by step -/

namespace Chronicle

variable {σ : Type} (chronicle : Chronicle σ)

/-- A chronicle after a stroke. -/
def stroke (stroke : Stroke) : Chronicle σ :=
  chronicle.note (chronicle.document.strokeEvent stroke) (chronicle.document.stroke stroke)

theorem history_note (event : Event) (document : Document) :
    (chronicle.note event document).history = chronicle.history ++ [event] := by
  simp [history, note]

theorem foldl_stroke (strokes : List Stroke) :
    ∀ chronicle : Chronicle σ, strokes.foldl Chronicle.stroke chronicle =
      { chronicle with
        document := chronicle.document.play strokes
        moments := chronicle.moments ++ chronicle.document.strokeMoments strokes } := by
  induction strokes with
  | nil =>
    intro chronicle
    simp [Document.play, Document.strokeMoments]
  | cons first rest ih =>
    intro chronicle
    rw [List.foldl_cons, ih]
    simp [stroke, note, Document.play, Document.strokeMoments]

/-- An edit is on record stroke by stroke. -/
theorem edit_eq_foldl_stroke (edit : Edit) :
    chronicle.edit edit = (edit.strokes chronicle.document.forest).foldl stroke chronicle := by
  rw [foldl_stroke, Chronicle.edit, Edit.carryOut_eq_play]

/-- What strokes keep, edits keep. -/
theorem edit_induction (keeps : Chronicle σ → Prop)
    (step : ∀ chronicle stroke, keeps chronicle → keeps (chronicle.stroke stroke))
    (start : keeps chronicle) (edit : Edit) : keeps (chronicle.edit edit) := by
  rw [edit_eq_foldl_stroke]
  generalize edit.strokes chronicle.document.forest = strokes
  induction strokes generalizing chronicle with
  | nil => exact start
  | cons first rest ih => exact ih _ (step chronicle first start)

/-- What is done to a document with an observer in mind. -/
theorem onObserver_induction (keeps : Chronicle σ → Prop) {id : ObserverId} {event : Event}
    {document : Document} (start : keeps chronicle)
    (step : chronicle.document.Knows id → keeps (chronicle.note event document)) :
    keeps (chronicle.onObserver id event document) := by
  unfold onObserver
  split
  · next known => exact step known
  · exact start

/-- No deed disturbs the delivery under way. -/
theorem sameDelivery_act (deed : Deed) :
    Document.SameDelivery chronicle.document (chronicle.act deed).document := by
  have onObserver : ∀ id event document,
      Document.SameDelivery chronicle.document document →
        Document.SameDelivery chronicle.document
          (chronicle.onObserver id event document).document :=
    fun id event document same => chronicle.onObserver_induction
      (fun after => Document.SameDelivery chronicle.document after.document) (.refl _) fun _ => same
  cases deed with
  | edit edit =>
    refine chronicle.edit_induction
      (fun after => Document.SameDelivery chronicle.document after.document)
      (fun middle stroke same => same.trans ?_) (.refl _) edit
    have moves : Document.Moves Document.nobody _ _ := Document.moves_stroke middle.document stroke
    exact moves.sameDelivery
  | giveBack id changes =>
    have move : Document.Move (· = id) _ _ := .giveBack chronicle.document changes rfl
    exact onObserver id _ _ move.sameDelivery
  | release id => exact onObserver id _ _ ⟨rfl, rfl, rfl⟩
  | observe id target interest => exact onObserver id _ _ ⟨rfl, rfl, rfl⟩
  | disconnect id => exact onObserver id _ _ ⟨rfl, rfl, rfl⟩
  | take id => exact onObserver id _ _ ⟨rfl, rfl, rfl⟩
  | _ => exact ⟨rfl, rfl, rfl⟩

end Chronicle

end Polyglot
