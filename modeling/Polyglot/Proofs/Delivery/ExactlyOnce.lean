import Polyglot.Proofs.Delivery.Chronicle

/-!
# Every change arrives once and in order

In every run, and whatever the observers do when they are called, each observer
is handed exactly the changes that concerned it, in order and once each, less
those that still waited when it was stopped (`Client.run_faithful`). Nobody who
has something to hear of is forgotten, nobody is passed over, and a delivery that
comes to its end leaves nothing waiting.

The invariant `Kept` adds to the accounts of all observers that whoever has
something to hear of is on a list of those to be called. Of the deeds each keeps
it by what it does to one queue; a delivery keeps it because an observer leaves
the batch in the moment in which its queue is emptied.
-/

set_option autoImplicit false

namespace Polyglot

/-- What an event tells of the document after it: nobody is passed over, a delivery
is refused only during another one, and one that is over has left nothing. -/
def Event.Fair (document : Document) : Event → Prop
  | passedOver _ _ => False
  | refused => document.delivering = true
  | delivered => ∀ id, document.queue id = []
  | _ => True

/-- What holds at a moment, given all that happened up to it: for every observer,
what was handed over and what waits are together what survives of that which came
in; whoever has something to hear of is to be called, by a later round or by what
the present one has yet to deal with. -/
structure Faithful (history : History) (moment : Moment) : Prop where
  account : ∀ id, history.handed id ++ moment.document.queue id = history.surviving id
  awaited : Document.Awaited moment.document.batch.tail moment.document
  fair : moment.event.Fair moment.document

/-- The record of a run whose every moment is faithful. -/
def Chronicle.Exact {σ : Type} (chronicle : Chronicle σ) : Prop :=
  ∀ earlier moment later, chronicle.moments = earlier ++ moment :: later →
    Faithful ((earlier ++ [moment]).map Moment.event) moment

/-- What holds at every moment of a run, given those that the round has yet to
deal with. -/
structure Chronicle.Kept {σ : Type} (rest : List ObserverId) (chronicle : Chronicle σ) : Prop where
  accounts : ∀ id, Accounts id chronicle.history (chronicle.document.queue id)
  awaited : chronicle.document.Awaited rest
  registers : chronicle.document.RegistersKnown
  exact : chronicle.Exact

namespace Chronicle

variable {σ : Type} {chronicle : Chronicle σ}

/-- One more faithful moment. -/
theorem Exact.note (exact : chronicle.Exact) {event : Event} {document : Document}
    (faithful : Faithful (chronicle.history ++ [event]) ⟨event, document⟩) :
    (chronicle.note event document).Exact := by
  intro earlier moment later split
  rcases List.eq_nil_or_concat later with rfl | ⟨middle, last, rfl⟩
  · obtain ⟨rfl, same⟩ := List.append_inj' split rfl
    cases same
    simpa [history] using faithful
  · have front : chronicle.moments = earlier ++ moment :: middle := by
      have both : chronicle.moments ++ [⟨event, document⟩]
          = (earlier ++ moment :: middle) ++ [last] := by
        simpa [Chronicle.note] using split
      exact (List.append_inj' both rfl).1
    exact exact earlier moment middle front

end Chronicle

namespace Chronicle.Kept

variable {σ : Type} {rest : List ObserverId} {chronicle : Chronicle σ}

/-! ## Deeds -/

/-- One more moment, after a move. -/
theorem note (kept : Kept rest chronicle) {own : ObserverId → Prop} {event : Event}
    {document : Document} (batch : chronicle.document.batch.tail = rest)
    (moves : Document.Moves own chronicle.document document)
    (known : ∀ id, own id → chronicle.document.Knows id) (fair : event.Fair document)
    (accounts : ∀ id, Accounts id (chronicle.history ++ [event]) (document.queue id)) :
    Kept rest (chronicle.note event document) := by
  have awaited : document.Awaited rest := moves.awaited kept.awaited
  have dealing : document.batch.tail = rest := by rw [moves.sameDelivery.batch, batch]
  have faithful : Faithful (chronicle.history ++ [event]) ⟨event, document⟩ :=
    ⟨fun id => (accounts id).surviving.symm, dealing.symm ▸ awaited, fair⟩
  refine ⟨fun id => ?_, awaited, moves.registersKnown known kept.registers,
    kept.exact.note faithful⟩
  rw [Chronicle.history_note]
  exact accounts id

/-- One more moment at which no queue changes. -/
theorem note_other (kept : Kept rest chronicle) {own : ObserverId → Prop} {document : Document}
    (batch : chronicle.document.batch.tail = rest)
    (moves : Document.Moves own chronicle.document document)
    (known : ∀ id, own id → chronicle.document.Knows id)
    (queue : ∀ id, document.queue id = chronicle.document.queue id) :
    Kept rest (chronicle.note .other document) :=
  kept.note batch moves known trivial fun id => by
    rw [queue]
    exact (kept.accounts id).pass .other rfl rfl rfl

theorem stroke (kept : Kept rest chronicle) (batch : chronicle.document.batch.tail = rest)
    (stroke : Stroke) : Kept rest (chronicle.stroke stroke) := by
  have moves : Document.Moves Document.nobody _ _ :=
    Document.moves_stroke chronicle.document stroke
  have known : ∀ id, Document.nobody id → chronicle.document.Knows id := fun _ mine => mine.elim
  unfold Chronicle.stroke
  cases reports : stroke.change? with
  | none =>
    have event : chronicle.document.strokeEvent stroke = .other := by
      simp only [Document.strokeEvent, reports]
    rw [event]
    refine kept.note_other batch moves known fun id => ?_
    simp only [Document.stroke, reports]
    rfl
  | some change =>
    have event : chronicle.document.strokeEvent stroke =
        .reported change ((chronicle.document.withForest stroke.forest).concerned change) := by
      simp only [Document.strokeEvent, reports]
    rw [event]
    refine kept.note batch moves known trivial fun id => ?_
    have registers : (chronicle.document.withForest stroke.forest).RegistersKnown :=
      kept.registers
    have queue : ((chronicle.document.withForest stroke.forest).report change).queue id = _ :=
      Document.queue_report _ change (registers.knows_of_mem_concerned change)
    have arrived := (kept.accounts id).arrive (.reported change
      ((chronicle.document.withForest stroke.forest).concerned change)) rfl rfl
    have after : (chronicle.document.stroke stroke).queue id = chronicle.document.queue id ++
        Event.incoming id (.reported change
          ((chronicle.document.withForest stroke.forest).concerned change)) := by
      simp only [Document.stroke, reports, queue, Event.incoming]
      split
      · rfl
      · exact (List.append_nil _).symm
    rw [after]
    exact arrived

/-- Something was done to an observer that has been made. -/
theorem onObserver (kept : Kept rest chronicle) {id : ObserverId} {event : Event}
    {document : Document} (batch : chronicle.document.batch.tail = rest)
    (move : Document.Move (· = id) chronicle.document document) (fair : event.Fair document)
    (mine : chronicle.document.Knows id →
      Accounts id (chronicle.history ++ [event]) (document.queue id))
    (others : ∀ other, other ≠ id →
      Accounts other (chronicle.history ++ [event]) (document.queue other)) :
    Kept rest (chronicle.onObserver id event document) := by
  refine chronicle.onObserver_induction (Kept rest) kept fun known => ?_
  refine kept.note batch (.single move) (fun other same => same ▸ known) fair fun other => ?_
  by_cases same : other = id
  · exact same ▸ mine known
  · exact others other same

/-- **A deed keeps the accounts.** -/
theorem act (kept : Kept rest chronicle) (batch : chronicle.document.batch.tail = rest)
    (deed : Deed) (allowed : deed = .deliver → chronicle.document.delivering = true) :
    Kept rest (chronicle.act deed) := by
  have nobody : ∀ id, Document.nobody id → chronicle.document.Knows id := fun _ mine => mine.elim
  have pass : ∀ id (event : Event), event.fate? id = none → event.handed id = [] →
      event.incoming id = [] →
        Accounts id (chronicle.history ++ [event]) (chronicle.document.queue id) :=
    fun id event => (kept.accounts id).pass event
  cases deed with
  | addNode content =>
    exact kept.note_other batch (Document.moves_addNode _ content) nobody fun _ => rfl
  | edit edit =>
    refine (chronicle.edit_induction
      (fun chronicle => Kept rest chronicle ∧ chronicle.document.batch.tail = rest)
      (fun chronicle stroke both => ?_) ⟨kept, batch⟩ edit).1
    have moves : Document.Moves Document.nobody _ _ :=
      Document.moves_stroke chronicle.document stroke
    refine ⟨both.1.stroke both.2 stroke, ?_⟩
    exact (congrArg List.tail moves.sameDelivery.batch).trans both.2
  | addObserver =>
    exact kept.note_other batch (.single (.addObserver _)) nobody
      (Document.queue_addObserver chronicle.document)
  | release id =>
    have same := Document.queue_release chronicle.document id
    refine kept.onObserver batch (.release _ rfl) trivial (fun _ => ?_) fun other _ => ?_
    · exact same id ▸ pass id .other rfl rfl rfl
    · exact same other ▸ pass other .other rfl rfl rfl
  | observe id target interest =>
    refine kept.onObserver batch (.observe _ target interest rfl) trivial (fun _ => ?_)
      fun other _ => ?_
    · exact pass id .other rfl rfl rfl
    · exact pass other .other rfl rfl rfl
  | disconnect id =>
    refine kept.onObserver batch (.disconnect _ rfl) trivial (fun _ => ?_) fun other differs => ?_
    · rw [Document.queue_disconnect_self]
      exact (kept.accounts id).drop (.stopped id) (by simp [Event.fate?]) rfl rfl
    · rw [Document.queue_disconnect_of_ne _ _ _ differs]
      exact pass other (.stopped id) (by simp [Event.fate?, differs.symm]) rfl rfl
  | take id =>
    have took : Kept rest (chronicle.onObserver id (.taken id (chronicle.document.queue id))
        (chronicle.document.takeChanges id).1) := by
      refine kept.onObserver batch (.take _ rfl) trivial (fun _ => ?_) fun other differs => ?_
      · rw [Document.queue_takeChanges_self]
        exact (kept.accounts id).handOver (.taken id _) (by simp [Event.fate?])
          (by simp [Event.handed]) rfl
      · rw [Document.queue_takeChanges_of_ne _ _ _ differs]
        exact pass other (.taken id _) (by simp [Event.fate?, differs.symm])
          (by simp [Event.handed, differs.symm]) rfl
    exact took
  | giveBack id changes =>
    refine kept.onObserver batch (.giveBack _ changes rfl) trivial (fun known => ?_)
      fun other differs => ?_
    · rw [Document.queue_requeue_self _ _ _ known]
      have arrived := (kept.accounts id).arrive (.returned id changes) rfl rfl
      simpa [Event.incoming] using arrived
    · rw [Document.queue_requeue_of_ne _ _ _ _ differs]
      exact pass other (.returned id changes) rfl rfl (by simp [Event.incoming, differs.symm])
  | deliver =>
    exact kept.note batch .refl nobody (allowed rfl) fun id => pass id .refused rfl rfl rfl

/-- Deeds keep the accounts, one after the other. -/
theorem acts (deeds : List Deed) :
    ∀ {chronicle : Chronicle σ}, Kept rest chronicle → chronicle.document.batch.tail = rest →
      chronicle.document.delivering = true →
        Kept rest (deeds.foldl Chronicle.act chronicle) ∧
          Document.SameDelivery chronicle.document
            (deeds.foldl Chronicle.act chronicle).document := by
  induction deeds with
  | nil => exact fun kept _ _ => ⟨kept, .refl _⟩
  | cons deed later ih =>
    intro chronicle kept batch delivering
    have same := chronicle.sameDelivery_act deed
    have next := kept.act batch deed fun _ => delivering
    obtain ⟨done, unchanged⟩ := ih next ((congrArg List.tail same.batch).trans batch)
      (same.delivering.trans delivering)
    exact ⟨done, same.trans unchanged⟩

end Chronicle.Kept

/-! ## Deliveries -/

/-- What holds between two calls of a delivery. -/
structure Chronicle.Busy {σ : Type} (rest : List ObserverId) (chronicle : Chronicle σ) : Prop where
  kept : Kept rest chronicle
  delivering : chronicle.document.delivering = true
  batch : chronicle.document.batch = rest
  idle : chronicle.document.running = []

namespace Client

open Chronicle

variable {σ : Type} (client : Client σ)

/-- An observer that has nothing to hear of leaves the batch. -/
theorem busy_of_queue_eq_nil {id : ObserverId} {rest : List ObserverId} {chronicle : Chronicle σ}
    (busy : Busy (id :: rest) chronicle) (nothing : chronicle.document.queue id = []) :
    Busy rest (client.stage.update (client.stage.emptied id chronicle) fun document =>
      { document with batch := rest }) := by
  have awaited := busy.kept.awaited.dealt
  refine ⟨⟨fun other => ?_, ⟨awaited.flagged, awaited.listed⟩, busy.kept.registers.takeChanges id,
    busy.kept.exact⟩, busy.delivering, rfl, busy.idle⟩
  have same :
      (chronicle.document.takeChanges id).1.queue other = chronicle.document.queue other := by
    by_cases self : other = id
    · rw [self, Document.queue_takeChanges_self, nothing]
    · exact Document.queue_takeChanges_of_ne _ _ _ self
  exact same ▸ busy.kept.accounts other

/-- An observer that has something to hear of is called with it, and leaves the
batch. -/
theorem busy_of_queue_ne_nil {id : ObserverId} {rest : List ObserverId} {chronicle : Chronicle σ}
    (busy : Busy (id :: rest) chronicle) :
    Busy rest (client.stage.update
      (client.stage.called id (chronicle.document.queue id) (client.stage.emptied id chronicle))
      fun document => { document with batch := rest }) := by
  have awaited := busy.kept.awaited.dealt
  let calling : Document := { (chronicle.document.takeChanges id).1 with running := [id] }
  let event : Event := .called id (chronicle.document.queue id)
  have begun : Kept rest (chronicle.note event calling) := by
    have accounts : ∀ other, Accounts other (chronicle.history ++ [event])
        ((chronicle.document.takeChanges id).1.queue other) := by
      intro other
      by_cases self : other = id
      · subst self
        rw [Document.queue_takeChanges_self]
        exact (busy.kept.accounts other).handOver event (by simp [event, Event.fate?])
          (by simp [event, Event.handed]) rfl
      · rw [Document.queue_takeChanges_of_ne _ _ _ self]
        exact (busy.kept.accounts other).pass event (by simp [event, Event.fate?, Ne.symm self])
          (by simp [event, Event.handed, Ne.symm self]) rfl
    have dealing : calling.batch.tail = rest := congrArg List.tail busy.batch
    refine ⟨fun other => ?_, ⟨awaited.flagged, awaited.listed⟩,
      busy.kept.registers.takeChanges id,
      busy.kept.exact.note ⟨fun other => (accounts other).surviving.symm, ?_, trivial⟩⟩
    · rw [Chronicle.history_note]
      exact accounts other
    · exact dealing.symm ▸ ⟨awaited.flagged, awaited.listed⟩
  obtain ⟨done, same⟩ := begun.acts
    (client.react id (chronicle.document.queue id) (chronicle.note event calling)).1
    (congrArg List.tail busy.batch) busy.delivering
  have called : client.stage.called id (chronicle.document.queue id)
      (client.stage.emptied id chronicle) = client.stage.update
        (client.stage.call id (chronicle.document.queue id)
          { chronicle with document := calling }) fun document =>
            { document with running := document.running.erase id } := by
    have running : (chronicle.document.takeChanges id).1.running = [] := busy.idle
    simp only [Stage.called, Stage.emptied, Stage.update, Client.stage, running, calling]
  rw [called]
  refine ⟨⟨done.accounts, ⟨done.awaited.flagged, done.awaited.listed⟩, done.registers,
    done.exact⟩, same.delivering.trans busy.delivering, rfl, ?_⟩
  exact (congrArg (List.erase · id) same.running).trans (by simp [Chronicle.note, calling])

/-- **What holds between two calls is kept by a delivery.** -/
theorem rule : client.stage.Rule Busy where
  round _ busy :=
    { kept := ⟨busy.kept.accounts, ⟨busy.kept.awaited.flagged, fun id waits =>
        .inr ((busy.kept.awaited.listed id waits).elim (fun listed => listed) nofun)⟩,
        busy.kept.registers, busy.kept.exact⟩
      delivering := busy.delivering
      batch := rfl
      idle := busy.idle }
  deal id rest chronicle busy := by
    by_cases nothing : chronicle.document.queue id = []
    · rw [Stage.deal_of_queue_eq_nil client.stage nothing]
      exact client.busy_of_queue_eq_nil busy nothing
    · rw [Stage.deal_of_queue_ne_nil client.stage nothing busy.idle]
      exact client.busy_of_queue_ne_nil busy

/-! ## Runs -/

/-- What holds between the deeds of a run: everything is on record, and no
delivery is under way. -/
structure Settled (chronicle : Chronicle σ) : Prop where
  kept : Kept [] chronicle
  delivering : chronicle.document.delivering = false
  batch : chronicle.document.batch = []
  idle : chronicle.document.running = []

theorem settled_start (forest : Forest) (state : σ) :
    Settled (Chronicle.start forest state) where
  kept :=
    { accounts := Accounts.nil
      awaited := ⟨fun id observer found => by simp [Chronicle.start, Document.ofForest,
        Document.observer?] at found, fun id busy => absurd rfl busy⟩
      registers := nofun
      exact := fun earlier moment later split => by simp [Chronicle.start] at split }
  delivering := rfl
  batch := rfl
  idle := rfl

theorem Settled.act {chronicle : Chronicle σ} (settled : Settled chronicle) {deed : Deed}
    (other : deed ≠ .deliver) : Settled (chronicle.act deed) := by
  have same := chronicle.sameDelivery_act deed
  have batch : chronicle.document.batch.tail = [] := congrArg List.tail settled.batch
  exact ⟨settled.kept.act batch deed fun same => absurd same other,
    same.delivering.trans settled.delivering, same.batch.trans settled.batch,
    same.running.trans settled.idle⟩

/-- A delivery that comes to its end leaves nothing waiting. -/
theorem Settled.delivered {last : Chronicle σ} (busy : Busy [] last)
    (nobody : last.document.pending = []) :
    Settled ((client.stage.finish last).note .delivered (client.stage.finish last).document) := by
  have queues : ∀ id, last.document.queue id = [] := by
    intro id
    refine Decidable.byContradiction fun waits => ?_
    rcases busy.kept.awaited.listed id waits with listed | listed
    · rw [nobody] at listed
      exact List.not_mem_nil listed
    · exact List.not_mem_nil listed
  have finished : Kept [] (client.stage.finish last) :=
    ⟨busy.kept.accounts, ⟨busy.kept.awaited.flagged, busy.kept.awaited.listed⟩,
      busy.kept.registers, busy.kept.exact⟩
  have batch : (client.stage.finish last).document.batch = [] := busy.batch
  have nothing : ∀ id, Document.nobody id → (client.stage.finish last).document.Knows id :=
    fun _ mine => mine.elim
  refine ⟨finished.note (congrArg List.tail batch) .refl nothing queues fun id => ?_, rfl, batch,
    busy.idle⟩
  exact (finished.accounts id).pass .delivered rfl rfl rfl

theorem exact_of_settled (limit : Nat) (deeds : List Deed) :
    ∀ {chronicle : Chronicle σ}, Settled chronicle → (client.run limit chronicle deeds).Exact := by
  induction deeds with
  | nil => exact fun settled => settled.kept.exact
  | cons deed rest ih =>
    intro chronicle settled
    rw [run]
    by_cases deliver : deed = .deliver
    · rw [if_pos deliver]
      have begun : Busy [] (client.stage.commence chronicle) :=
        ⟨⟨settled.kept.accounts, ⟨settled.kept.awaited.flagged, settled.kept.awaited.listed⟩,
          settled.kept.registers, settled.kept.exact⟩, rfl, settled.batch, settled.idle⟩
      have outcome := client.rule.deliverWithin limit settled.delivering begun
      generalize client.stage.deliverWithin limit chronicle = result at outcome
      obtain ⟨after, ended⟩ := result
      rcases outcome with ⟨rfl, last, busy, nobody, rfl⟩ | ⟨rfl, busy⟩
      · exact ih (Settled.delivered client busy nobody)
      · exact busy.kept.exact
    · rw [if_neg deliver]
      exact ih (settled.act deliver)

/-- **In every run each observer is handed what concerned it, in order and once
each, less what still waited when it was stopped; whoever has something to hear of
is to be called; nobody is passed over; and a delivery that is over leaves nothing
waiting.** -/
theorem exact_run (limit : Nat) (forest : Forest) (state : σ) (deeds : List Deed) :
    (client.run limit (Chronicle.start forest state) deeds).Exact :=
  client.exact_of_settled limit deeds (settled_start forest state)

end Client

end Polyglot
