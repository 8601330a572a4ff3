import Polyglot.Localizer.Watch
import Polyglot.Proofs.Document.Moves

/-!
# Suspending a watch leaves no trace

An observer of a watch is at work, registered for the watch's node with its own
interest, or it is stopped and has nothing to hear of (`Attends`). Suspending a
watch stops both observers, so that edits made meanwhile concern neither of them,
and resuming registers again those that were registered and gives back what was
taken from them. After that each of them is as it was (`Watch.undisturbed`),
whichever of the two were at work.

Suspending goes through two observers one after the other, and what is done to
the one is to be invisible at the other. `Undisturbed` is the relation that says
so; it composes, and each operation on an observer leaves every other observer
undisturbed.
-/

set_option autoImplicit false

namespace Polyglot

open Document

/-- An observer is as it was: registered for the same nodes with the same
interests, with the same changes to hear of in the same order, and held by
somebody if it was. -/
structure Undisturbed (id : ObserverId) (before after : Document) : Prop where
  registrations : after.registrationsOf id = before.registrationsOf id
  queue : after.queue id = before.queue id
  held : after.isHeld id = before.isHeld id

namespace Undisturbed

variable {id other : ObserverId} {before middle after : Document}

theorem refl (id : ObserverId) (document : Document) : Undisturbed id document document :=
  ⟨rfl, rfl, rfl⟩

theorem trans (first : Undisturbed id before middle) (second : Undisturbed id middle after) :
    Undisturbed id before after :=
  ⟨second.registrations.trans first.registrations, second.queue.trans first.queue,
    second.held.trans first.held⟩

/-- An undisturbed observer is observing exactly if it was. -/
theorem isObserving (same : Undisturbed id before after) :
    after.isObserving id = before.isObserving id :=
  isObserving_eq_of_registrationsOf same.registrations

/-! ## What is done to other observers -/

theorem observe (document : Document) (target : NodeId) (interest : Interest)
    (held : document.isHeld id = true) (different : id ≠ other) :
    Undisturbed id document (document.observe other target interest) :=
  ⟨registrationsOf_observe_of_ne document held different, rfl, rfl⟩

theorem takeChanges (document : Document) (different : id ≠ other) :
    Undisturbed id document (document.takeChanges other).1 :=
  ⟨rfl, queue_takeChanges_of_ne document other id different,
    isHeld_takeChanges document other id⟩

theorem disconnect (document : Document) (held : document.isHeld id = true)
    (different : id ≠ other) : Undisturbed id document (document.disconnect other) :=
  ⟨registrationsOf_disconnect_of_ne document other id held different,
    queue_disconnect_of_ne document other id different, isHeld_disconnect document other id⟩

theorem requeue (document : Document) (changes : List Change) (different : id ≠ other) :
    Undisturbed id document (document.requeue other changes) where
  registrations := by simp [registrationsOf]
  queue := queue_requeue_of_ne document other id changes different
  held := isHeld_requeue document other id changes

/-- What a document says about the delivery under way does not matter. -/
theorem of_observers (observers : after.observers = before.observers)
    (registrations : after.registrations = before.registrations) : Undisturbed id before after := by
  constructor
  · unfold registrationsOf
    rw [registrations]
  · exact queue_eq_of_observers_eq observers id
  · unfold isHeld Document.observer?
    rw [observers]

theorem addObserver {document : Document} (held : document.isHeld id = true) :
    Undisturbed id document document.addObserver.1 :=
  ⟨rfl, queue_addObserver document id, (isHeld_addObserver held).trans held.symm⟩

end Undisturbed

/-! ## One observer of a watch -/

/-- An observer is held by somebody, and it is registered just as it should be, or
else for nothing and has nothing to hear of. -/
structure Attends (document : Document) (registration : Registration) : Prop where
  held : document.isHeld registration.observer = true
  registered : document.registrationsOf registration.observer = [] ∧
      document.queue registration.observer = [] ∨
    document.registrationsOf registration.observer = [registration]

/-- An observer is held by somebody, registered for nothing, and has nothing to
hear of. -/
structure Rests (id : ObserverId) (document : Document) : Prop where
  held : document.isHeld id = true
  registrations : document.registrationsOf id = []
  queue : document.queue id = []

namespace Rests

variable {id : ObserverId} {before after : Document}

theorem of_undisturbed (rests : Rests id before) (same : Undisturbed id before after) :
    Rests id after :=
  ⟨same.held.trans rests.held, same.registrations.trans rests.registrations,
    same.queue.trans rests.queue⟩

theorem of_spares (rests : Rests id before) (spares : Spares id before after) : Rests id after :=
  ⟨spares.held, spares.registrations.trans rests.registrations,
    (spares.queue rests.registrations).trans rests.queue⟩

/-- A new observer is at rest. -/
theorem addObserver {document : Document} (registers : document.RegistersKnown) :
    Rests document.addObserver.2 document.addObserver.1 where
  held := isHeld_addObserver_self document
  registrations := registers.registrationsOf_eq_nil (not_knows_addObserver document)
  queue := (queue_addObserver document _).trans
    (queue_eq_nil_of_not_knows (not_knows_addObserver document))

theorem attends {registration : Registration} (rests : Rests registration.observer after) :
    Attends after registration :=
  ⟨rests.held, .inl ⟨rests.registrations, rests.queue⟩⟩

end Rests

namespace Attends

variable {before after : Document} {registration : Registration}

/-- Moves that do not touch an observer leave it registered as it should be. -/
theorem of_spares (attends : Attends before registration)
    (spares : Spares registration.observer before after) : Attends after registration where
  held := spares.held
  registered := attends.registered.imp
    (fun ⟨unregistered, nothing⟩ => ⟨spares.registrations.trans unregistered,
      (spares.queue unregistered).trans nothing⟩)
    fun registered => spares.registrations.trans registered

theorem of_undisturbed (attends : Attends before registration)
    (same : Undisturbed registration.observer before after) : Attends after registration :=
  attends.of_spares ⟨same.held.trans attends.held, same.registrations, fun _ => same.queue⟩

theorem observe (attends : Attends before registration) :
    Attends (before.observe registration.observer registration.target registration.interest)
      registration where
  held := attends.held
  registered := .inr (registrationsOf_observe_self before attends.held
    (attends.registered.imp_left And.left))

/-- Taking what waits for an observer leaves every observer registered as it should
be. -/
theorem takeChanges (attends : Attends before registration) (id : ObserverId) :
    Attends (before.takeChanges id).1 registration := by
  by_cases mine : registration.observer = id
  · refine ⟨(isHeld_takeChanges before id _).trans attends.held,
      attends.registered.imp_left fun ⟨unregistered, _⟩ => ⟨unregistered, ?_⟩⟩
    rw [mine, queue_takeChanges_self]
  · exact attends.of_undisturbed (.takeChanges before mine)

theorem disconnect (attends : Attends before registration) :
    Rests registration.observer (before.disconnect registration.observer) :=
  ⟨(isHeld_disconnect before _ _).trans attends.held, registrationsOf_disconnect_self before _,
    queue_disconnect_self before _⟩

theorem rests_of_not_isObserving (attends : Attends before registration)
    (idle : before.isObserving registration.observer = false) :
    Rests registration.observer before := by
  have unregistered : before.registrationsOf registration.observer = [] := by
    refine Decidable.byContradiction fun registered => ?_
    rw [(isObserving_eq_true_iff before _).mpr registered] at idle
    cases idle
  rcases attends.registered with ⟨_, nothing⟩ | registered
  · exact ⟨attends.held, unregistered, nothing⟩
  · rw [registered] at unregistered
    cases unregistered

theorem registrationsOf_of_isObserving (attends : Attends before registration)
    (busy : before.isObserving registration.observer = true) :
    before.registrationsOf registration.observer = [registration] :=
  attends.registered.resolve_left fun idle =>
    (isObserving_eq_true_iff before _).mp busy idle.1

end Attends

/-! ## Withholding and restoring -/

namespace Watch

/-- A document in which an observer is registered again and has back what was
taken from it, if anything was. -/
def restore (document : Document) (registration : Registration) :
    Option (List Change) → Document
  | some changes =>
    (document.observe registration.observer registration.target registration.interest).requeue
      registration.observer changes
  | none => document

variable {document : Document} {registration : Registration}

theorem moves_withhold (document : Document) (id : ObserverId) :
    Moves (· = id) document (withhold document id).1 := by
  unfold withhold
  split
  · exact .tail (.single (.take document rfl)) (.disconnect _ rfl)
  · exact .refl

theorem moves_restore (document : Document) (registration : Registration)
    (changes? : Option (List Change)) :
    Moves (· = registration.observer) document (restore document registration changes?) := by
  cases changes? with
  | none => exact .refl
  | some changes => exact .tail (.single (.observe document _ _ rfl)) (.giveBack _ changes rfl)

theorem rests_withhold (attends : Attends document registration) :
    Rests registration.observer (withhold document registration.observer).1 := by
  unfold withhold
  split
  · refine Attends.disconnect ⟨?_, .inr ?_⟩
    · exact (isHeld_takeChanges document _ _).trans attends.held
    · next busy => exact attends.registrationsOf_of_isObserving busy
  · next idle => exact attends.rests_of_not_isObserving (by simpa using idle)

theorem undisturbed_withhold {id other : ObserverId} (held : document.isHeld id = true)
    (different : id ≠ other) : Undisturbed id document (withhold document other).1 := by
  unfold withhold
  split
  · have taken := Undisturbed.takeChanges document different
    exact taken.trans (.disconnect _ (taken.held.trans held) different)
  · exact .refl id document

theorem undisturbed_restore (document : Document) {id : ObserverId}
    (changes? : Option (List Change)) (held : document.isHeld id = true)
    (different : id ≠ registration.observer) :
    Undisturbed id document (restore document registration changes?) := by
  cases changes? with
  | none => exact .refl id document
  | some changes =>
    exact (Undisturbed.observe document _ _ held different).trans (.requeue _ changes different)

/-- **An observer that was withheld and is restored is as it was**, if in between
it was at rest. -/
theorem undisturbed_restore_withhold (attends : Attends document registration)
    {middle : Document} (rests : Rests registration.observer middle) :
    Undisturbed registration.observer document
      (restore middle registration (withhold document registration.observer).2) := by
  unfold withhold
  by_cases busy : document.isObserving registration.observer = true
  · rw [if_pos busy]
    have registered := registrationsOf_observe_self middle rests.held
      (.inl rests.registrations : _ ∨ _ = [registration])
    refine ⟨?_, ?_, ?_⟩
    · have same := registered.trans (attends.registrationsOf_of_isObserving busy).symm
      simpa [restore, registrationsOf] using same
    · have known : (middle.observe registration.observer registration.target
          registration.interest).Knows registration.observer := knows_of_isHeld rests.held
      simp only [restore, queue_requeue_self _ _ _ known, queue_observe, rests.queue]
      rfl
    · simp [restore, rests.held, attends.held]
  · rw [if_neg busy]
    have idle := attends.rests_of_not_isObserving (by simpa using busy)
    exact ⟨rests.registrations.trans idle.registrations.symm, rests.queue.trans idle.queue.symm,
      rests.held.trans idle.held.symm⟩

end Watch

/-! ## A watch -/

namespace Watch

variable (watch : Watch)

/-- The registration of the observer of texts. -/
def textsRegistration : Registration := ⟨watch.texts, watch.target, .texts⟩

/-- The registration of the observer of nodes. -/
def nodesRegistration : Registration := ⟨watch.nodes, watch.target, .nodes⟩

/-- Whether an observer is one of those of a watch. -/
def Owns (id : ObserverId) : Prop := id = watch.texts ∨ id = watch.nodes

/-- A watch whose observers are two, each of them at work or at rest. -/
structure Sound (document : Document) : Prop where
  different : watch.texts ≠ watch.nodes
  texts : Attends document watch.textsRegistration
  nodes : Attends document watch.nodesRegistration

/-- Both observers of a watch are as they were. -/
structure Unmoved (before after : Document) : Prop where
  texts : Undisturbed watch.texts before after
  nodes : Undisturbed watch.nodes before after

variable {watch} {before middle after : Document}

theorem Unmoved.refl (watch : Watch) (document : Document) : watch.Unmoved document document :=
  ⟨.refl _ _, .refl _ _⟩

theorem Sound.of_unmoved (sound : watch.Sound before) (same : watch.Unmoved before after) :
    watch.Sound after :=
  ⟨sound.different, sound.texts.of_undisturbed same.texts, sound.nodes.of_undisturbed same.nodes⟩

/-- Moves that touch neither observer of a watch leave it sound. -/
theorem Sound.of_moves (sound : watch.Sound before) {own : ObserverId → Prop}
    (moves : Moves own before after) (texts : ¬ own watch.texts) (nodes : ¬ own watch.nodes) :
    watch.Sound after :=
  ⟨sound.different, sound.texts.of_spares (moves.spares sound.texts.held texts),
    sound.nodes.of_spares (moves.spares sound.nodes.held nodes)⟩

theorem resume_eq_restore (watch : Watch) (suspension : Suspension) (document : Document) :
    watch.resume suspension document =
      restore (restore document watch.textsRegistration suspension.texts?)
        watch.nodesRegistration suspension.nodes? := by
  unfold resume
  cases suspension.texts? <;> cases suspension.nodes? <;> rfl

theorem moves_suspend (watch : Watch) (document : Document) :
    Moves watch.Owns document (watch.suspend document).1 :=
  ((moves_withhold document watch.texts).mono fun _ mine => .inl mine).trans
    ((moves_withhold _ watch.nodes).mono fun _ mine => .inr mine)

theorem moves_resume (watch : Watch) (suspension : Suspension) (document : Document) :
    Moves watch.Owns document (watch.resume suspension document) := by
  rw [resume_eq_restore]
  exact ((moves_restore document watch.textsRegistration _).mono fun _ mine => .inl mine).trans
    ((moves_restore _ watch.nodesRegistration _).mono fun _ mine => .inr mine)

/-- **Whatever edits are made while a watch is suspended, both of its observers are
afterwards as they were.** -/
theorem unmoved_resume (sound : watch.Sound before)
    (edits : Moves nobody (watch.suspend before).1 middle) :
    watch.Unmoved before (watch.resume (watch.suspend before).2 middle) := by
  have textsFirst := rests_withhold sound.texts
  have nodesKept : Undisturbed watch.nodes before (withhold before watch.texts).1 :=
    undisturbed_withhold sound.nodes.held sound.different.symm
  have nodesAttend : Attends (withhold before watch.texts).1 watch.nodesRegistration :=
    sound.nodes.of_undisturbed nodesKept
  have nodesRest : Rests watch.nodes middle :=
    (rests_withhold nodesAttend).of_spares (edits.spares (rests_withhold nodesAttend).held id)
  have textsThen : Rests watch.texts (watch.suspend before).1 :=
    textsFirst.of_undisturbed (undisturbed_withhold textsFirst.held sound.different)
  have textsRest : Rests watch.texts middle :=
    textsThen.of_spares (edits.spares textsThen.held id)
  have textsBack : Undisturbed watch.texts before _ :=
    undisturbed_restore_withhold sound.texts textsRest
  have nodesStill : Undisturbed watch.nodes middle
      (restore middle watch.textsRegistration (withhold before watch.texts).2) :=
    undisturbed_restore middle _ nodesRest.held sound.different.symm
  have nodesBack : Undisturbed watch.nodes (withhold before watch.texts).1 _ :=
    undisturbed_restore_withhold nodesAttend (nodesRest.of_undisturbed nodesStill)
  rw [resume_eq_restore]
  refine ⟨textsBack.trans (undisturbed_restore _ _ ?_ sound.different), nodesKept.trans nodesBack⟩
  exact textsBack.held.trans sound.texts.held

/-! ## Starting and stopping -/

theorem Sound.takeChanges (sound : watch.Sound before) (id : ObserverId) :
    watch.Sound (before.takeChanges id).1 :=
  ⟨sound.different, sound.texts.takeChanges id, sound.nodes.takeChanges id⟩

theorem Sound.startTexts (sound : watch.Sound before) : watch.Sound (watch.startTexts before) :=
  ⟨sound.different, sound.texts.observe, sound.nodes.of_undisturbed
    (.observe before _ _ sound.nodes.held sound.different.symm)⟩

theorem Sound.startNodes (sound : watch.Sound before) : watch.Sound (watch.startNodes before) :=
  ⟨sound.different, sound.texts.of_undisturbed
    (.observe before _ _ sound.texts.held sound.different), sound.nodes.observe⟩

theorem Sound.stopTexts (sound : watch.Sound before) : watch.Sound (watch.stopTexts before) :=
  ⟨sound.different, sound.texts.disconnect.attends,
    sound.nodes.of_undisturbed (.disconnect before sound.nodes.held sound.different.symm)⟩

theorem Sound.stopNodes (sound : watch.Sound before) : watch.Sound (watch.stopNodes before) :=
  ⟨sound.different, sound.texts.of_undisturbed
    (.disconnect before sound.texts.held sound.different),
    sound.nodes.disconnect.attends⟩

/-- A new watch is sound. -/
theorem sound_new {document : Document} (registers : document.RegistersKnown) (target : NodeId) :
    (Watch.new document target).2.Sound (Watch.new document target).1 := by
  have texts : Rests document.addObserver.2 document.addObserver.1 := .addObserver registers
  have both : document.addObserver.1.RegistersKnown :=
    (Move.addObserver document : Move nobody _ _).registersKnown (fun _ mine => mine.elim) registers
  have nodes : Rests document.addObserver.1.addObserver.2 document.addObserver.1.addObserver.1 :=
    .addObserver both
  refine ⟨fun same => ?_, (texts.of_undisturbed (.addObserver texts.held)).attends, nodes.attends⟩
  have new : document.addObserver.2 = document.addObserver.1.addObserver.2 := same
  exact not_knows_addObserver document.addObserver.1 (new ▸ knows_of_isHeld texts.held)

end Watch

end Polyglot
