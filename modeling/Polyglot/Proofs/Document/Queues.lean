import Polyglot.Document.Basic

/-!
# Queues and registrations under the operations of a document

What each operation does to the queue of an observer, to its registrations, and
to whether somebody holds it. Everything later on is derived from these
equations; the operations themselves are opened here and nowhere else.

A change goes into the queue of each observer that it concerns, once
(`queue_report`), and into no other; an observer that is registered for nothing
is concerned by nothing (`registrationsOf_ne_nil_of_mem_concerned`).
-/

set_option autoImplicit false

namespace Polyglot.Document

/-- The registrations of one observer. -/
def registrationsOf (document : Document) (id : ObserverId) : List Registration :=
  document.registrations.filter fun registration => registration.observer == id

/-- Whether an observer has been made. -/
def Knows (document : Document) (id : ObserverId) : Prop :=
  id < document.observers.size

instance (document : Document) (id : ObserverId) : Decidable (document.Knows id) :=
  inferInstanceAs (Decidable (id < document.observers.size))

theorem isObserving_eq_true_iff (document : Document) (id : ObserverId) :
    document.isObserving id = true ↔ document.registrationsOf id ≠ [] := by
  simp [isObserving, registrationsOf, List.filter_eq_nil_iff]

theorem isObserving_eq_of_registrationsOf {before after : Document} {id : ObserverId}
    (same : after.registrationsOf id = before.registrationsOf id) :
    after.isObserving id = before.isObserving id := by
  rw [Bool.eq_iff_iff, isObserving_eq_true_iff, isObserving_eq_true_iff, same]

theorem queue_eq_of_observers_eq {before after : Document}
    (same : after.observers = before.observers) (id : ObserverId) :
    after.queue id = before.queue id := by
  unfold queue observer?
  rw [same]

/-- Nothing waits for an observer that is still to be made. -/
theorem queue_eq_nil_of_not_knows {document : Document} {id : ObserverId}
    (unknown : ¬ document.Knows id) : document.queue id = [] := by
  have beyond : document.observers.size ≤ id := Nat.le_of_not_lt unknown
  simp [queue, observer?, Array.getElem?_eq_none beyond]

theorem knows_of_isHeld {document : Document} {id : ObserverId}
    (held : document.isHeld id = true) : document.Knows id := by
  refine Nat.lt_of_not_le fun beyond => ?_
  simp [isHeld, observer?, Array.getElem?_eq_none beyond] at held

/-- An observer counts as queued just when it has something to hear of. -/
def Flagged (document : Document) : Prop :=
  ∀ id observer, document.observer? id = some observer →
    observer.queued = !observer.queue.isEmpty

theorem Flagged.isQueued_eq {document : Document} (flagged : document.Flagged)
    (id : ObserverId) : document.isQueued id = !(document.queue id).isEmpty := by
  unfold isQueued queue
  cases found : document.observer? id with
  | none => rfl
  | some observer => exact flagged id observer found

/-! ## Changing the state of one observer -/

section ModifyObserver

variable (document : Document) (id other : ObserverId) (change : Observer → Observer)

@[simp] theorem size_modifyObserver :
    (document.modifyObserver id change).observers.size = document.observers.size := by
  simp [modifyObserver]

theorem queue_modifyObserver_of_ne (different : other ≠ id) :
    (document.modifyObserver id change).queue other = document.queue other := by
  simp [queue, observer?_modifyObserver, different.symm]

theorem isHeld_modifyObserver_of_ne (different : other ≠ id) :
    (document.modifyObserver id change).isHeld other = document.isHeld other := by
  simp [isHeld, observer?_modifyObserver, different.symm]

/-- A change that leaves alone whether an observer is held. -/
theorem isHeld_modifyObserver (keeps : ∀ observer, (change observer).held = observer.held) :
    (document.modifyObserver id change).isHeld other = document.isHeld other := by
  simp only [isHeld, observer?_modifyObserver]
  split
  · cases document.observer? other <;> simp [keeps]
  · rfl

/-- A change that leaves the queue of an observer alone. -/
theorem queue_modifyObserver (keeps : ∀ observer, (change observer).queue = observer.queue) :
    (document.modifyObserver id change).queue other = document.queue other := by
  simp only [queue, observer?_modifyObserver]
  by_cases same : id = other
  · rw [if_pos same]
    cases document.observer? other <;> simp [keeps]
  · rw [if_neg same]

/-- A change after which an observer counts as queued just when it should. -/
theorem Flagged.modifyObserver {document : Document} (flagged : document.Flagged)
    (id : ObserverId) {change : Observer → Observer}
    (keeps : ∀ observer, observer.queued = (!observer.queue.isEmpty) →
      (change observer).queued = !(change observer).queue.isEmpty) :
    (document.modifyObserver id change).Flagged := by
  intro other observer found
  rw [observer?_modifyObserver] at found
  split at found
  · obtain ⟨old, before, rfl⟩ := Option.map_eq_some_iff.mp found
    exact keeps old (flagged other old before)
  · exact flagged other observer found

end ModifyObserver

/-! ## Making and letting go -/

@[simp] theorem size_addObserver (document : Document) :
    document.addObserver.1.observers.size = document.observers.size + 1 := by
  simp [addObserver]

/-- A new observer has nothing to hear of. -/
@[simp] theorem queue_addObserver (document : Document) (id : ObserverId) :
    document.addObserver.1.queue id = document.queue id := by
  simp only [queue, observer?, addObserver, Array.getElem?_push]
  by_cases new : id = document.observers.size
  · simp [new]
  · rw [if_neg new]

theorem Flagged.addObserver {document : Document} (flagged : document.Flagged) :
    document.addObserver.1.Flagged := by
  intro id observer found
  simp only [observer?, Document.addObserver, Array.getElem?_push] at found
  split at found
  · cases found
    rfl
  · exact flagged id observer found

theorem isHeld_addObserver {document : Document} {id : ObserverId}
    (held : document.isHeld id = true) : document.addObserver.1.isHeld id = true := by
  have known : id ≠ document.observers.size := Nat.ne_of_lt (knows_of_isHeld held)
  simpa [isHeld, observer?, addObserver, Array.getElem?_push, known] using held

/-- A new observer is held by whoever made it. -/
theorem isHeld_addObserver_self (document : Document) :
    document.addObserver.1.isHeld document.addObserver.2 = true := by
  simp [isHeld, observer?, addObserver]

theorem not_knows_addObserver (document : Document) :
    ¬ document.Knows document.addObserver.2 :=
  Nat.lt_irrefl _

theorem isHeld_release_of_ne (document : Document) {id other : ObserverId}
    (different : other ≠ id) : (document.release id).isHeld other = document.isHeld other :=
  isHeld_modifyObserver_of_ne document id other _ different

@[simp] theorem queue_release (document : Document) (id other : ObserverId) :
    (document.release id).queue other = document.queue other :=
  queue_modifyObserver document id other _ fun _ => rfl

/-! ## One more change -/

section Enqueue

variable (document : Document) (change : Change) (id other : ObserverId)

/-- An observer joins the list of those to be called unless it is queued. -/
theorem pending_enqueue :
    (document.enqueue change id).pending =
      if document.isQueued id then document.pending else document.pending ++ [id] := by
  unfold enqueue
  split <;> rfl

theorem observers_enqueue :
    (document.enqueue change id).observers =
      (document.modifyObserver id fun observer =>
        { observer with queue := observer.queue ++ [change], queued := true }).observers := by
  unfold enqueue
  split <;> rfl

@[simp] theorem registrations_enqueue :
    (document.enqueue change id).registrations = document.registrations := by
  unfold enqueue
  split <;> rfl

@[simp] theorem forest_enqueue : (document.enqueue change id).forest = document.forest := by
  unfold enqueue
  split <;> rfl

@[simp] theorem batch_enqueue : (document.enqueue change id).batch = document.batch := by
  unfold enqueue
  split <;> rfl

@[simp] theorem delivering_enqueue :
    (document.enqueue change id).delivering = document.delivering := by
  unfold enqueue
  split <;> rfl

@[simp] theorem running_enqueue : (document.enqueue change id).running = document.running := by
  unfold enqueue
  split <;> rfl

@[simp] theorem size_enqueue :
    (document.enqueue change id).observers.size = document.observers.size := by
  rw [observers_enqueue, size_modifyObserver]

theorem queue_enqueue_of_ne (different : other ≠ id) :
    (document.enqueue change id).queue other = document.queue other := by
  have same := queue_modifyObserver_of_ne document id other
    (fun observer => { observer with queue := observer.queue ++ [change], queued := true })
    different
  simpa only [queue, observer?, observers_enqueue] using same

theorem queue_enqueue_self (known : document.Knows id) :
    (document.enqueue change id).queue id = document.queue id ++ [change] := by
  simp [queue, observer?, observers_enqueue, modifyObserver, Array.getElem?_modify,
    Array.getElem?_eq_getElem known]

@[simp] theorem isHeld_enqueue :
    (document.enqueue change id).isHeld other = document.isHeld other := by
  have same := isHeld_modifyObserver document id other
    (fun observer => { observer with queue := observer.queue ++ [change], queued := true })
    fun _ => rfl
  simpa only [isHeld, observer?, observers_enqueue] using same

theorem Flagged.enqueue {document : Document} (flagged : document.Flagged) (change : Change)
    (id : ObserverId) : (document.enqueue change id).Flagged := by
  have joined : (document.modifyObserver id fun observer =>
      { observer with queue := observer.queue ++ [change], queued := true }).Flagged :=
    flagged.modifyObserver id fun observer _ => by simp
  intro other observer found
  rw [observer?, observers_enqueue] at found
  exact joined other observer found

end Enqueue

/-! ## Several more changes -/

section Requeue

variable (document : Document) (id other : ObserverId) (changes : List Change)

/-- What enqueueing keeps, giving back several changes keeps. -/
theorem requeue_induction {keeps : Document → Prop}
    (step : ∀ document change, keeps document → keeps (document.enqueue change id))
    (start : keeps document) : keeps (document.requeue id changes) := by
  unfold requeue
  induction changes generalizing document with
  | nil => exact start
  | cons change rest ih => exact ih _ (step document change start)

@[simp] theorem registrations_requeue :
    (document.requeue id changes).registrations = document.registrations :=
  requeue_induction document id changes
    (fun middle change same => (registrations_enqueue middle change id).trans same) rfl

@[simp] theorem forest_requeue : (document.requeue id changes).forest = document.forest :=
  requeue_induction document id changes
    (fun middle change same => (forest_enqueue middle change id).trans same) rfl

@[simp] theorem size_requeue :
    (document.requeue id changes).observers.size = document.observers.size :=
  requeue_induction document id changes
    (fun middle change same => (size_enqueue middle change id).trans same) rfl

@[simp] theorem isHeld_requeue :
    (document.requeue id changes).isHeld other = document.isHeld other :=
  requeue_induction document id changes
    (fun middle change same => (isHeld_enqueue middle change id other).trans same) rfl

theorem queue_requeue_of_ne (different : other ≠ id) :
    (document.requeue id changes).queue other = document.queue other :=
  requeue_induction document id changes
    (fun middle change same =>
      (queue_enqueue_of_ne middle change id other different).trans same) rfl

/-- What is given back comes behind what is waiting, in its own order. -/
theorem queue_requeue_self (known : document.Knows id) :
    (document.requeue id changes).queue id = document.queue id ++ changes := by
  unfold requeue
  induction changes generalizing document with
  | nil => simp
  | cons change rest ih =>
    have later := ih (document.enqueue change id) (by simpa [Knows] using known)
    rw [List.foldl_cons, later, queue_enqueue_self document change id known, List.append_assoc,
      List.singleton_append]

end Requeue

/-! ## Taking and stopping -/

section Take

variable (document : Document) (id other : ObserverId)

@[simp] theorem queue_takeChanges_self : (document.takeChanges id).1.queue id = [] := by
  simp only [takeChanges, queue, observer?_modifyObserver, if_pos]
  cases document.observer? id <;> rfl

theorem queue_takeChanges_of_ne (different : other ≠ id) :
    (document.takeChanges id).1.queue other = document.queue other :=
  queue_modifyObserver_of_ne document id other _ different

@[simp] theorem takeChanges_snd : (document.takeChanges id).2 = document.queue id := rfl

@[simp] theorem isHeld_takeChanges :
    (document.takeChanges id).1.isHeld other = document.isHeld other :=
  isHeld_modifyObserver document id other _ fun _ => rfl

@[simp] theorem size_takeChanges :
    (document.takeChanges id).1.observers.size = document.observers.size :=
  size_modifyObserver document id _

theorem Flagged.takeChanges {document : Document} (flagged : document.Flagged)
    (id : ObserverId) : (document.takeChanges id).1.Flagged :=
  flagged.modifyObserver id fun _ _ => rfl

theorem Flagged.disconnect {document : Document} (flagged : document.Flagged)
    (id : ObserverId) : (document.disconnect id).Flagged := by
  refine Flagged.takeChanges ?_ id
  exact flagged

@[simp] theorem queue_disconnect_self : (document.disconnect id).queue id = [] :=
  queue_takeChanges_self _ id

theorem queue_disconnect_of_ne (different : other ≠ id) :
    (document.disconnect id).queue other = document.queue other :=
  queue_takeChanges_of_ne _ id other different

@[simp] theorem isHeld_disconnect :
    (document.disconnect id).isHeld other = document.isHeld other :=
  isHeld_takeChanges _ id other

@[simp] theorem size_disconnect :
    (document.disconnect id).observers.size = document.observers.size :=
  size_takeChanges _ id

@[simp] theorem registrationsOf_disconnect_self :
    (document.disconnect id).registrationsOf id = [] := by
  simp only [disconnect, takeChanges, modifyObserver, registrationsOf, List.filter_filter]
  refine List.filter_eq_nil_iff.mpr fun registration _ => ?_
  by_cases mine : registration.observer = id
  · simp [mine]
  · simp [mine]

/-- Dropping the registrations of observers that live no more leaves alone those
of an observer that is held. -/
theorem registrationsOf_disconnect_of_ne (held : document.isHeld other = true)
    (different : other ≠ id) :
    (document.disconnect id).registrationsOf other = document.registrationsOf other := by
  simp only [disconnect, takeChanges, modifyObserver, registrationsOf, List.filter_filter]
  refine List.filter_congr fun registration _ => ?_
  by_cases mine : registration.observer = other
  · simp [mine, different, isLive, held]
  · simp [mine]

end Take

/-! ## Registering -/

theorem mem_insertRegistration {new registration : Registration} :
    ∀ {registrations : List Registration}, registration ∈ insertRegistration new registrations →
      registration = new ∨ registration ∈ registrations
  | [], member => .inl (List.mem_singleton.mp member)
  | first :: rest, member => by
    simp only [insertRegistration] at member
    split at member
    · rcases List.mem_cons.mp member with same | later
      · exact .inl same
      · exact .inr (List.mem_cons_of_mem _ later)
    · rcases List.mem_cons.mp member with same | later
      · exact .inr (same ▸ List.mem_cons_self)
      · exact (mem_insertRegistration later).imp id (List.mem_cons_of_mem _)

/-- Registering one observer leaves those of the others as they are. -/
theorem filter_insertRegistration_of_ne {new : Registration} {other : ObserverId}
    (different : other ≠ new.observer) :
    ∀ registrations : List Registration,
      (insertRegistration new registrations).filter (fun r => r.observer == other)
        = registrations.filter fun r => r.observer == other
  | [] => by simp [insertRegistration, different.symm]
  | first :: rest => by
    simp only [insertRegistration]
    split
    · next same => simp [same.1, different.symm]
    · simp only [List.filter_cons, filter_insertRegistration_of_ne different rest]

/-- An observer with no registration but one is left with just that one. -/
theorem filter_insertRegistration_self (new : Registration) :
    ∀ {registrations : List Registration},
      (registrations.filter (fun r => r.observer == new.observer) = [] ∨
        registrations.filter (fun r => r.observer == new.observer) = [new]) →
      (insertRegistration new registrations).filter (fun r => r.observer == new.observer) = [new]
  | [], _ => by simp [insertRegistration]
  | first :: rest, only => by
    simp only [insertRegistration]
    by_cases mine : first.observer = new.observer
    · have alone : first = new ∧ rest.filter (fun r => r.observer == new.observer) = [] := by
        simpa [mine] using only
      simp [alone.1, alone.2]
    · have later : rest.filter (fun r => r.observer == new.observer) = [] ∨
          rest.filter (fun r => r.observer == new.observer) = [new] := by simpa [mine] using only
      simp [mine, filter_insertRegistration_self new later]

section Observe

variable (document : Document) {id other : ObserverId} {target : NodeId} {interest : Interest}

/-- Dropping the registrations of observers that live no more leaves alone those
of an observer that is held. -/
theorem filter_isLive_registrations (held : document.isHeld other = true) :
    (document.registrations.filter fun r => document.isLive r.observer).filter
        (fun r => r.observer == other)
      = document.registrationsOf other := by
  rw [List.filter_filter]
  refine List.filter_congr fun registration _ => ?_
  by_cases mine : registration.observer = other
  · simp [mine, isLive, held]
  · simp [mine]

theorem registrationsOf_observe_of_ne (held : document.isHeld other = true)
    (different : other ≠ id) :
    (document.observe id target interest).registrationsOf other
      = document.registrationsOf other := by
  unfold registrationsOf observe
  rw [filter_insertRegistration_of_ne different]
  exact filter_isLive_registrations document held

theorem registrationsOf_observe_self (held : document.isHeld id = true)
    (only : document.registrationsOf id = [] ∨
      document.registrationsOf id = [⟨id, target, interest⟩]) :
    (document.observe id target interest).registrationsOf id = [⟨id, target, interest⟩] := by
  rw [← filter_isLive_registrations document held] at only
  exact filter_insertRegistration_self ⟨id, target, interest⟩ only

@[simp] theorem queue_observe :
    (document.observe id target interest).queue other = document.queue other := rfl

@[simp] theorem isHeld_observe :
    (document.observe id target interest).isHeld other = document.isHeld other := rfl

end Observe

/-! ## Reporting -/

/-- Dropping repetitions leaves none. -/
theorem nodup_eraseDups {α : Type} [BEq α] [LawfulBEq α] : ∀ list : List α, list.eraseDups.Nodup
  | [] => by simp
  | first :: rest => by
    rw [List.eraseDups_cons, List.nodup_cons]
    exact ⟨by simp [List.mem_eraseDups], nodup_eraseDups _⟩
termination_by list => list.length
decreasing_by
  exact Nat.lt_succ_of_le (List.length_filter_le _ _)

section Report

variable (document : Document) (change : Change) {id : ObserverId}

/-- An observer that a change concerns is registered and lives. -/
theorem exists_registration_of_mem_concerned (member : id ∈ document.concerned change) :
    ∃ registration ∈ document.registrations,
      registration.observer = id ∧ document.isLive id = true := by
  simp only [concerned, List.mem_eraseDups, List.mem_flatMap, concernedAt,
    List.mem_filterMap] at member
  obtain ⟨_, _, registration, listed, wanted⟩ := member
  split at wanted
  · next wish =>
    cases wanted
    exact ⟨registration, listed, rfl, wish.2.2.2⟩
  · cases wanted

theorem registrationsOf_ne_nil_of_mem_concerned (member : id ∈ document.concerned change) :
    document.registrationsOf id ≠ [] := by
  obtain ⟨registration, listed, mine, _⟩ :=
    exists_registration_of_mem_concerned document change member
  exact List.ne_nil_of_mem (List.mem_filter.mpr ⟨listed, by simp [mine]⟩)

theorem nodup_concerned : (document.concerned change).Nodup :=
  nodup_eraseDups _

/-- What enqueueing keeps, reporting keeps. -/
theorem report_induction {keeps : Document → Prop}
    (step : ∀ middle id, keeps middle → keeps (middle.enqueue change id))
    (start : keeps document) : keeps (document.report change) := by
  unfold report
  generalize document.concerned change = ids
  induction ids generalizing document with
  | nil => exact start
  | cons id rest ih => exact ih _ (step document id start)

@[simp] theorem forest_report : (document.report change).forest = document.forest :=
  report_induction document change
    (fun middle id same => (forest_enqueue middle change id).trans same) rfl

@[simp] theorem registrations_report :
    (document.report change).registrations = document.registrations :=
  report_induction document change
    (fun middle id same => (registrations_enqueue middle change id).trans same) rfl

@[simp] theorem size_report :
    (document.report change).observers.size = document.observers.size :=
  report_induction document change
    (fun middle id same => (size_enqueue middle change id).trans same) rfl

@[simp] theorem isHeld_report (other : ObserverId) :
    (document.report change).isHeld other = document.isHeld other :=
  report_induction document change
    (fun middle id same => (isHeld_enqueue middle change id other).trans same) rfl

/-- Enqueueing a change for several observers, each listed once. -/
theorem queue_foldl_enqueue :
    ∀ (ids : List ObserverId) (document : Document), ids.Nodup →
      (∀ id ∈ ids, document.Knows id) →
      (ids.foldl (fun document id => document.enqueue change id) document).queue id
        = if id ∈ ids then document.queue id ++ [change] else document.queue id
  | [], _, _, _ => by simp
  | first :: rest, document, nodup, known => by
    obtain ⟨fresh, nodup⟩ := List.nodup_cons.mp nodup
    have knows : document.Knows first := known first List.mem_cons_self
    have later := queue_foldl_enqueue rest (document.enqueue change first) nodup
      fun id member => by
        have listed := known id (List.mem_cons_of_mem _ member)
        simpa [Knows] using listed
    rw [List.foldl_cons, later]
    by_cases same : id = first
    · subst same
      simp [fresh, queue_enqueue_self document change id knows]
    · simp [same, queue_enqueue_of_ne document change first id same]

/-- **A change joins the queue of each observer that it concerns, once, and no
other queue.** -/
theorem queue_report (known : ∀ id ∈ document.concerned change, document.Knows id) :
    (document.report change).queue id
      = if id ∈ document.concerned change then document.queue id ++ [change]
        else document.queue id :=
  queue_foldl_enqueue change (document.concerned change) document
    (nodup_concerned document change) known

theorem queue_report_of_not_mem (unconcerned : id ∉ document.concerned change) :
    (document.report change).queue id = document.queue id := by
  unfold report
  revert unconcerned
  generalize document.concerned change = ids
  intro unconcerned
  induction ids generalizing document with
  | nil => rfl
  | cons first rest ih =>
    obtain ⟨different, later⟩ := List.ne_and_not_mem_of_not_mem_cons unconcerned
    rw [List.foldl_cons, ih _ later, queue_enqueue_of_ne document change first id different]

end Report

end Polyglot.Document
