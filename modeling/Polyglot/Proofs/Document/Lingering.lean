import Polyglot.Proofs.Document.Moves

/-!
# Observers that are to be called for nothing

A document lists the observers to be called, and it can be asked whether there are any.
Whoever has something to hear of is on that list (`Awaited`), so the answer is right
just when nobody is on it in vain. An observer lingers when it is: it is to be called
although it has nothing to hear of.

Taking the changes of an observer leaves it lingering; no other move makes anybody
linger (`Moves.lingers`), and none but a stop takes anybody off the list
(`Moves.mem_pending`).
-/

set_option autoImplicit false

namespace Polyglot.Document

/-- An observer is to be called, but has nothing to hear of. -/
def Lingers (document : Document) (id : ObserverId) : Prop :=
  id ∈ document.pending ∧ document.queue id = []

theorem hasPending_eq_true_iff (document : Document) :
    document.hasPending = true ↔ ∃ id, id ∈ document.pending := by
  cases listed : document.pending <;> simp [hasPending, listed]

/-- **Somebody is to be called just when somebody has something to hear of or lingers.** -/
theorem Awaited.hasPending_eq_true_iff {document : Document} (awaited : Awaited [] document) :
    document.hasPending = true ↔
      (∃ id, document.queue id ≠ []) ∨ ∃ id, document.Lingers id := by
  rw [Document.hasPending_eq_true_iff]
  constructor
  · rintro ⟨id, listed⟩
    by_cases nothing : document.queue id = []
    · exact .inr ⟨id, listed, nothing⟩
    · exact .inl ⟨id, nothing⟩
  · rintro (⟨id, waits⟩ | ⟨id, listed, _⟩)
    · exact ⟨id, (awaited.listed id waits).resolve_right List.not_mem_nil⟩
    · exact ⟨id, listed⟩

/-! ## Who is on the list -/

section Listed

variable (document : Document) (change : Change) (changes : List Change) {id other : ObserverId}

theorem mem_pending_enqueue (listed : id ∈ document.pending) :
    id ∈ (document.enqueue change other).pending := by
  rw [pending_enqueue]
  split
  · exact listed
  · exact List.mem_append_left _ listed

theorem mem_pending_of_enqueue (listed : id ∈ (document.enqueue change other).pending) :
    id ∈ document.pending ∨ id = other := by
  rw [pending_enqueue] at listed
  split at listed
  · exact .inl listed
  · exact (List.mem_append.mp listed).imp_right List.mem_singleton.mp

theorem mem_pending_report (listed : id ∈ document.pending) :
    id ∈ (document.report change).pending :=
  report_induction document change
    (fun middle _ still => mem_pending_enqueue middle change still) listed

theorem mem_pending_requeue (listed : id ∈ document.pending) :
    id ∈ (document.requeue other changes).pending :=
  requeue_induction document other changes
    (fun middle change still => mem_pending_enqueue middle change still) listed

theorem mem_pending_of_requeue (listed : id ∈ (document.requeue other changes).pending) :
    id ∈ document.pending ∨ id = other := by
  unfold requeue at listed
  induction changes generalizing document with
  | nil => exact .inl listed
  | cons change rest ih =>
    rcases ih (document.enqueue change other) listed with earlier | same
    · exact mem_pending_of_enqueue document change earlier
    · exact .inr same

theorem mem_pending_foldl_enqueue (ids : List ObserverId) :
    ∀ document : Document,
      id ∈ (ids.foldl (fun document id => document.enqueue change id) document).pending →
        id ∈ document.pending ∨ id ∈ ids := by
  induction ids with
  | nil => exact fun _ listed => .inl listed
  | cons first rest ih =>
    intro document listed
    rcases ih (document.enqueue change first) listed with earlier | later
    · rcases mem_pending_of_enqueue document change earlier with old | rfl
      · exact .inl old
      · exact .inr List.mem_cons_self
    · exact .inr (List.mem_cons_of_mem _ later)

/-- A report adds to the list only those that it concerns. -/
theorem mem_pending_of_report (listed : id ∈ (document.report change).pending) :
    id ∈ document.pending ∨ id ∈ document.concerned change :=
  mem_pending_foldl_enqueue change (document.concerned change) document listed

end Listed

/-! ## Moves that make nobody linger -/

namespace Lingers

variable {document : Document} {id other : ObserverId}

/-- Whoever is reported to has something to hear of. -/
theorem of_report (registers : document.RegistersKnown) {change : Change}
    (lingers : (document.report change).Lingers id) : document.Lingers id := by
  obtain ⟨listed, nothing⟩ := lingers
  by_cases concerned : id ∈ document.concerned change
  · rw [queue_report document change (registers.knows_of_mem_concerned change),
      if_pos concerned] at nothing
    simp at nothing
  · rw [queue_report_of_not_mem document change concerned] at nothing
    exact ⟨(mem_pending_of_report document change listed).resolve_right concerned, nothing⟩

/-- Whoever has changes given back has something to hear of, if there are any. -/
theorem of_requeue (known : document.Knows other) {changes : List Change}
    (lingers : (document.requeue other changes).Lingers id) : document.Lingers id := by
  obtain ⟨listed, nothing⟩ := lingers
  by_cases same : id = other
  · subst same
    rw [queue_requeue_self document id changes known] at nothing
    obtain ⟨before, rfl⟩ := List.append_eq_nil_iff.mp nothing
    exact ⟨listed, before⟩
  · rw [queue_requeue_of_ne document other id changes same] at nothing
    exact ⟨(mem_pending_of_requeue document changes listed).resolve_right same, nothing⟩

/-- Whoever is stopped does not linger. -/
theorem of_disconnect (lingers : (document.disconnect other).Lingers id) :
    id ≠ other ∧ document.Lingers id := by
  obtain ⟨listed, nothing⟩ := lingers
  obtain ⟨before, differs⟩ := List.mem_filter.mp listed
  have different : id ≠ other := by simpa using differs
  rw [queue_disconnect_of_ne document other id different] at nothing
  exact ⟨different, before, nothing⟩

/-- Taking the changes of an observer leaves nobody else lingering. -/
theorem of_takeChanges (different : id ≠ other)
    (lingers : (document.takeChanges other).1.Lingers id) : document.Lingers id := by
  obtain ⟨listed, nothing⟩ := lingers
  rw [queue_takeChanges_of_ne document other id different] at nothing
  exact ⟨listed, nothing⟩

end Lingers

variable {own : ObserverId → Prop} {before after : Document} {id : ObserverId}

/-- A move makes nobody linger that it may not touch. -/
theorem Move.lingers (move : Move own before after) (registers : before.RegistersKnown)
    (known : ∀ id, own id → before.Knows id) (untouched : ¬ own id) (lingers : after.Lingers id) :
    before.Lingers id := by
  cases move with
  | reshape forest => exact lingers
  | report change => exact lingers.of_report registers
  | addObserver => exact ⟨lingers.1, (queue_addObserver before id).symm.trans lingers.2⟩
  | release mine => exact ⟨lingers.1, (queue_release before _ id).symm.trans lingers.2⟩
  | observe target interest mine => exact lingers
  | disconnect mine => exact lingers.of_disconnect.2
  | take mine => exact lingers.of_takeChanges fun same => untouched (same ▸ mine)
  | giveBack changes mine => exact lingers.of_requeue (known _ mine)

/-- **Moves make nobody linger that they may not touch.** -/
theorem Moves.lingers (moves : Moves own before after) (registers : before.RegistersKnown)
    (known : ∀ id, own id → before.Knows id) (untouched : ¬ own id) (lingers : after.Lingers id) :
    before.Lingers id := by
  induction moves with
  | refl => exact lingers
  | tail earlier move ih =>
    have knownThen : ∀ other, own other → Document.Knows _ other := fun other mine =>
      Moves.knows earlier (known other mine)
    exact ih (move.lingers (Moves.registersKnown earlier known registers) knownThen untouched
      lingers)

theorem Move.mem_pending (move : Move own before after) (untouched : ¬ own id)
    (listed : id ∈ before.pending) : id ∈ after.pending := by
  cases move with
  | report change => exact mem_pending_report before change listed
  | disconnect mine =>
    have different : id ≠ _ := fun same => untouched (same ▸ mine)
    exact List.mem_filter.mpr ⟨listed, by simpa using different⟩
  | giveBack changes mine => exact mem_pending_requeue before changes listed
  | _ => exact listed

/-- **Moves that may not touch an observer leave it on the list.** -/
theorem Moves.mem_pending (moves : Moves own before after) (untouched : ¬ own id)
    (listed : id ∈ before.pending) : id ∈ after.pending := by
  induction moves with
  | refl => exact listed
  | tail _ move ih => exact move.mem_pending untouched ih

end Polyglot.Document
