import Mathlib.Logic.Relation
import Polyglot.Proofs.Document.Strokes

/-!
# Moves of a document

Everything that is done to a document is made of a few moves: its forest is
exchanged, a change is reported, an observer is made or let go, registered or
stopped, and changes are taken from its queue or given back. Edits may be made
by anybody; the moves on an observer belong to those who own it, so a move is
described together with the observers that it may touch.

What holds of every move is proved once, here. A delivery under way is not
disturbed (`Moves.sameDelivery`); an observer that somebody holds and that no
move may touch keeps its registrations, and what it has to hear of as long as it
is registered for nothing (`Moves.spares`); and whoever has something to hear of
stays on a list of those to be called (`Moves.awaited`).
-/

set_option autoImplicit false

namespace Polyglot.Document

/-- One move that touches no other observers than those of `own`. -/
inductive Move (own : ObserverId → Prop) : Document → Document → Prop where
  | reshape (document : Document) (forest : Forest) : Move own document (document.withForest forest)
  | report (document : Document) (change : Change) : Move own document (document.report change)
  | addObserver (document : Document) : Move own document document.addObserver.1
  | release (document : Document) {id : ObserverId} (mine : own id) :
      Move own document (document.release id)
  | observe (document : Document) {id : ObserverId} (target : NodeId) (interest : Interest)
      (mine : own id) : Move own document (document.observe id target interest)
  | disconnect (document : Document) {id : ObserverId} (mine : own id) :
      Move own document (document.disconnect id)
  | take (document : Document) {id : ObserverId} (mine : own id) :
      Move own document (document.takeChanges id).1
  | giveBack (document : Document) {id : ObserverId} (changes : List Change) (mine : own id) :
      Move own document (document.requeue id changes)

/-- Any number of moves. -/
abbrev Moves (own : ObserverId → Prop) : Document → Document → Prop :=
  Relation.ReflTransGen (Move own)

/-- The observers of nobody: the moves that remain are edits. -/
def nobody : ObserverId → Prop := fun _ => False

variable {own more : ObserverId → Prop} {before after : Document}

theorem Move.mono (subset : ∀ id, own id → more id) (move : Move own before after) :
    Move more before after := by
  cases move with
  | reshape forest => exact .reshape _ forest
  | report change => exact .report _ change
  | addObserver => exact .addObserver _
  | release mine => exact .release _ (subset _ mine)
  | observe target interest mine => exact .observe _ target interest (subset _ mine)
  | disconnect mine => exact .disconnect _ (subset _ mine)
  | take mine => exact .take _ (subset _ mine)
  | giveBack changes mine => exact .giveBack _ changes (subset _ mine)

theorem Moves.mono (subset : ∀ id, own id → more id) (moves : Moves own before after) :
    Moves more before after :=
  Relation.ReflTransGen.mono (fun _ _ move => Move.mono subset move) _ _ moves

/-- Edits are open to everybody. -/
theorem Moves.of_nobody (moves : Moves nobody before after) : Moves own before after :=
  moves.mono fun _ mine => mine.elim

/-! ## Edits are moves -/

theorem moves_withForest (document : Document) (forest : Forest) :
    Moves own document (document.withForest forest) :=
  .single (.reshape document forest)

theorem moves_stroke (document : Document) (stroke : Stroke) :
    Moves own document (document.stroke stroke) := by
  unfold Document.stroke
  split
  · exact moves_withForest document stroke.forest
  · exact (moves_withForest document stroke.forest).tail (.report _ _)

theorem moves_play (strokes : List Stroke) :
    ∀ document : Document, Moves own document (document.play strokes) := by
  induction strokes with
  | nil => exact fun _ => .refl
  | cons stroke rest ih => exact fun document => (moves_stroke document stroke).trans (ih _)

theorem moves_carryOut (document : Document) (edit : Edit) :
    Moves own document (edit.carryOut document) := by
  rw [Edit.carryOut_eq_play]
  exact moves_play _ document

theorem moves_addNode (document : Document) (content : Content) :
    Moves own document (document.addNode content).1 :=
  moves_withForest document _

/-! ## The delivery under way -/

/-- Two documents agree on the delivery under way. -/
structure SameDelivery (before after : Document) : Prop where
  delivering : after.delivering = before.delivering
  batch : after.batch = before.batch
  running : after.running = before.running

theorem SameDelivery.refl (document : Document) : SameDelivery document document :=
  ⟨rfl, rfl, rfl⟩

theorem SameDelivery.trans {middle : Document} (first : SameDelivery before middle)
    (second : SameDelivery middle after) : SameDelivery before after :=
  ⟨second.delivering.trans first.delivering, second.batch.trans first.batch,
    second.running.trans first.running⟩

theorem sameDelivery_enqueue (document : Document) (change : Change) (id : ObserverId) :
    SameDelivery document (document.enqueue change id) :=
  ⟨delivering_enqueue document change id, batch_enqueue document change id,
    running_enqueue document change id⟩

theorem Move.sameDelivery (move : Move own before after) : SameDelivery before after := by
  cases move with
  | report change =>
    exact report_induction before change
      (fun middle id same => same.trans (sameDelivery_enqueue middle change id)) (.refl before)
  | giveBack changes mine =>
    exact requeue_induction before _ changes
      (fun middle change same => same.trans (sameDelivery_enqueue middle change _)) (.refl before)
  | _ => exact ⟨rfl, rfl, rfl⟩

/-- **Moves leave the delivery under way alone.** -/
theorem Moves.sameDelivery (moves : Moves own before after) : SameDelivery before after := by
  induction moves with
  | refl => exact .refl before
  | tail _ move ih => exact ih.trans move.sameDelivery

/-! ## Observers that are not touched -/

/-- What an observer keeps that is held and not touched. -/
structure Spares (id : ObserverId) (before after : Document) : Prop where
  held : after.isHeld id = true
  registrations : after.registrationsOf id = before.registrationsOf id
  queue : before.registrationsOf id = [] → after.queue id = before.queue id

theorem Spares.trans {middle : Document} {id : ObserverId} (first : Spares id before middle)
    (second : Spares id middle after) : Spares id before after where
  held := second.held
  registrations := second.registrations.trans first.registrations
  queue unregistered :=
    (second.queue (first.registrations.trans unregistered)).trans (first.queue unregistered)

/-- A move spares an observer that is held and that it may not touch. -/
theorem Move.spares {id : ObserverId} (move : Move own before after)
    (held : before.isHeld id = true) (untouched : ¬ own id) : Spares id before after := by
  have differs : ∀ {other}, own other → id ≠ other := fun mine same => untouched (same ▸ mine)
  cases move with
  | reshape forest => exact ⟨held, rfl, fun _ => rfl⟩
  | report change =>
    refine ⟨(isHeld_report before change id).trans held, ?_, fun unregistered => ?_⟩
    · simp [registrationsOf]
    · exact queue_report_of_not_mem before change fun member =>
        registrationsOf_ne_nil_of_mem_concerned before change member unregistered
  | addObserver => exact ⟨isHeld_addObserver held, rfl, fun _ => queue_addObserver before id⟩
  | release mine =>
    exact ⟨(isHeld_release_of_ne before (differs mine)).trans held, rfl,
      fun _ => queue_release before _ id⟩
  | observe target interest mine =>
    exact ⟨held, registrationsOf_observe_of_ne before held (differs mine), fun _ => rfl⟩
  | disconnect mine =>
    exact ⟨(isHeld_disconnect before _ id).trans held,
      registrationsOf_disconnect_of_ne before _ id held (differs mine),
      fun _ => queue_disconnect_of_ne before _ id (differs mine)⟩
  | take mine =>
    exact ⟨(isHeld_takeChanges before _ id).trans held, rfl,
      fun _ => queue_takeChanges_of_ne before _ id (differs mine)⟩
  | giveBack changes mine =>
    refine ⟨(isHeld_requeue before _ id changes).trans held, ?_,
      fun _ => queue_requeue_of_ne before _ id changes (differs mine)⟩
    simp [registrationsOf]

/-- **An observer that is held and that no move may touch keeps its registrations,
and its queue for as long as it is registered for nothing.** -/
theorem Moves.spares {id : ObserverId} (moves : Moves own before after)
    (held : before.isHeld id = true) (untouched : ¬ own id) : Spares id before after := by
  induction moves with
  | refl => exact ⟨held, rfl, fun _ => rfl⟩
  | tail _ move ih => exact ih.trans (move.spares ih.held untouched)

/-! ## Observers that are known -/

theorem Move.size_le (move : Move own before after) :
    before.observers.size ≤ after.observers.size := by
  cases move with
  | addObserver => simp
  | release mine => simp [Document.release]
  | _ => simp [withForest, Document.observe]

theorem Moves.size_le (moves : Moves own before after) :
    before.observers.size ≤ after.observers.size := by
  induction moves with
  | refl => exact Nat.le_refl _
  | tail _ move ih => exact Nat.le_trans ih move.size_le

theorem Moves.knows {id : ObserverId} (moves : Moves own before after) (known : before.Knows id) :
    after.Knows id :=
  Nat.lt_of_lt_of_le known moves.size_le

/-- Registrations are those of observers that have been made. -/
def RegistersKnown (document : Document) : Prop :=
  ∀ registration ∈ document.registrations, document.Knows registration.observer

/-- A document whose registrations are among those of another, but for some of an
observer that is known. -/
theorem RegistersKnown.of_subset (registers : RegistersKnown before)
    (size : before.observers.size ≤ after.observers.size)
    (subset : ∀ registration ∈ after.registrations,
      registration ∈ before.registrations ∨ after.Knows registration.observer) :
    RegistersKnown after := fun registration listed =>
  (subset registration listed).elim
    (fun old => Nat.lt_of_lt_of_le (registers registration old) size) id

/-- A change concerns only observers that have been made. -/
theorem RegistersKnown.knows_of_mem_concerned {document : Document}
    (registers : RegistersKnown document) (change : Change) :
    ∀ id ∈ document.concerned change, document.Knows id := fun _ member => by
  obtain ⟨registration, listed, rfl, _⟩ :=
    document.exists_registration_of_mem_concerned change member
  exact registers registration listed

theorem RegistersKnown.takeChanges {document : Document} (registers : RegistersKnown document)
    (id : ObserverId) : RegistersKnown (document.takeChanges id).1 :=
  registers.of_subset (by simp) fun _ listed => .inl listed

theorem Move.registersKnown (move : Move own before after)
    (known : ∀ id, own id → before.Knows id) (registers : RegistersKnown before) :
    RegistersKnown after := by
  have size := move.size_le
  cases move with
  | report change => exact registers.of_subset size fun _ listed => .inl (by simpa using listed)
  | giveBack changes mine =>
    exact registers.of_subset size fun _ listed => .inl (by simpa using listed)
  | observe target interest mine =>
    refine registers.of_subset size fun registration listed => ?_
    rcases mem_insertRegistration listed with rfl | old
    · exact .inr (known _ mine)
    · exact .inl (List.mem_filter.mp old).1
  | disconnect mine =>
    exact registers.of_subset size fun _ listed => .inl (List.mem_filter.mp listed).1
  | _ => exact registers.of_subset size fun _ listed => .inl listed

theorem Moves.registersKnown (moves : Moves own before after)
    (known : ∀ id, own id → before.Knows id) (registers : RegistersKnown before) :
    RegistersKnown after := by
  induction moves with
  | refl => exact registers
  | tail earlier move ih =>
    exact move.registersKnown (fun id mine => Moves.knows earlier (known id mine)) ih

/-- An observer that is still to be made is registered for nothing. -/
theorem RegistersKnown.registrationsOf_eq_nil {document : Document}
    (registers : RegistersKnown document) {id : ObserverId} (unknown : ¬ document.Knows id) :
    document.registrationsOf id = [] := by
  refine List.filter_eq_nil_iff.mpr fun registration listed => ?_
  have known := registers registration listed
  simp only [beq_iff_eq]
  exact fun same => unknown (same ▸ known)

/-! ## Observers to be called -/

/-- Whoever has something to hear of, and only such an observer, counts as queued,
and it is to be called: at a later round, or in the rest of the present one. -/
structure Awaited (rest : List ObserverId) (document : Document) : Prop where
  flagged : document.Flagged
  listed : ∀ id, document.queue id ≠ [] → id ∈ document.pending ∨ id ∈ rest

namespace Awaited

variable {rest : List ObserverId} {document : Document} (awaited : Awaited rest document)
include awaited

theorem enqueue (change : Change) (id : ObserverId) :
    Awaited rest (document.enqueue change id) where
  flagged := awaited.flagged.enqueue change id
  listed other busy := by
    rw [pending_enqueue, awaited.flagged.isQueued_eq]
    by_cases same : other = id
    · subst same
      by_cases idle : document.queue other = []
      · exact .inl (by simp [idle])
      · exact (awaited.listed other idle).imp_left fun listed => by simpa [idle] using listed
    · rw [queue_enqueue_of_ne document change id other same] at busy
      refine (awaited.listed other busy).imp_left fun listed => ?_
      split
      · exact listed
      · exact List.mem_append_left _ listed

theorem takeChanges (id : ObserverId) : Awaited rest (document.takeChanges id).1 where
  flagged := awaited.flagged.takeChanges id
  listed other busy := by
    have different : other ≠ id := fun same => busy (same ▸ queue_takeChanges_self document id)
    rw [queue_takeChanges_of_ne document id other different] at busy
    exact awaited.listed other busy

omit awaited in
/-- An observer that has been dealt with need not be dealt with again. -/
theorem dealt {id : ObserverId} (awaited : Awaited (id :: rest) document) :
    Awaited rest (document.takeChanges id).1 where
  flagged := awaited.flagged.takeChanges id
  listed other busy := by
    have different : other ≠ id := fun same => busy (same ▸ queue_takeChanges_self document id)
    refine ((awaited.takeChanges id).listed other busy).imp_right fun listed => ?_
    exact (List.mem_cons.mp listed).resolve_left different

theorem disconnect (id : ObserverId) : Awaited rest (document.disconnect id) where
  flagged := awaited.flagged.disconnect id
  listed other busy := by
    have different : other ≠ id := fun same => busy (same ▸ queue_disconnect_self document id)
    rw [queue_disconnect_of_ne document id other different] at busy
    exact (awaited.listed other busy).imp_left fun listed =>
      List.mem_filter.mpr ⟨listed, by simp [different]⟩

end Awaited

variable {rest : List ObserverId}

theorem Move.awaited (move : Move own before after) (awaited : Awaited rest before) :
    Awaited rest after := by
  cases move with
  | reshape forest => exact ⟨awaited.flagged, awaited.listed⟩
  | report change =>
    exact report_induction before change (fun _ id kept => kept.enqueue change id) awaited
  | addObserver =>
    exact ⟨awaited.flagged.addObserver, fun id busy =>
      awaited.listed id (queue_addObserver before id ▸ busy)⟩
  | release mine =>
    exact ⟨awaited.flagged.modifyObserver _ fun _ tidy => tidy, fun id busy =>
      awaited.listed id (queue_release before _ id ▸ busy)⟩
  | observe target interest mine => exact ⟨awaited.flagged, awaited.listed⟩
  | disconnect mine => exact awaited.disconnect _
  | take mine => exact awaited.takeChanges _
  | giveBack changes mine =>
    exact requeue_induction before _ changes (fun _ change kept => kept.enqueue change _) awaited

/-- **Whoever has something to hear of stays on a list of those to be called.** -/
theorem Moves.awaited (moves : Moves own before after) (awaited : Awaited rest before) :
    Awaited rest after := by
  induction moves with
  | refl => exact awaited
  | tail _ move ih => exact move.awaited ih

end Polyglot.Document
