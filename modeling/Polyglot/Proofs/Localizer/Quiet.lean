import Polyglot.Proofs.Localizer.Play

/-!
# A localizer does not keep itself busy

Where one localizer is at work and nobody else does anything when called, a
delivery comes to its end, and in it each observer of the localizer is called
once if anything waited for it and not at all otherwise (`Guest.deliver?_quiet`).

The first round deals with both observers of the localizer: what waits for either
of them is among those that the round has yet to deal with, and stays there while
the other one is called, since a call leaves both queues as they were. So the calls
made and the calls due add up to the same number throughout (`Scene.Tallies`). What
the localizer writes is for others to hear, who are called in the second round and
write nothing; the third finds nobody.
-/

set_option autoImplicit false

namespace Polyglot

/-- How often an observer is to be called: once if anything waits for it. -/
def Document.due (document : Document) (id : ObserverId) : Nat :=
  if document.queue id = [] then 0 else 1

/-- Observers that were made in a scene do nothing when they are called. -/
def Guest.Passive {σ : Type} (guest : Guest σ) : Prop :=
  ∀ id changes play, (guest.react id changes play).1 = []

/-- There is one localizer in a scene, and the calls that were made to each of its
observers and those that are due come to a number. -/
def Scene.Tallies (scene : Scene) (watch : Watch) (texts nodes : Nat) : Prop :=
  ∃ localizer, scene.localizers = [localizer] ∧ localizer.watch = watch ∧
    localizer.textCalls + scene.document.due watch.texts = texts ∧
    localizer.nodeCalls + scene.document.due watch.nodes = nodes

namespace Play

variable {σ : Type}

/-- The first round: whatever waits for the localizer is dealt with in the rest of
it. -/
structure Opening (watch : Watch) (texts nodes : Nat) (rest : List ObserverId) (play : Play σ) :
    Prop where
  busy : play.Busy rest
  tallies : play.scene.Tallies watch texts nodes
  listed : ∀ id, watch.Owns id → play.scene.document.queue id ≠ [] → id ∈ rest

/-- A later round: nothing waits for the localizer, and nobody is to be called in
another round. -/
structure Ending (watch : Watch) (texts nodes : Nat) (rest : List ObserverId) (play : Play σ) :
    Prop where
  busy : play.Busy rest
  tallies : play.scene.Tallies watch texts nodes
  heard : ∀ id, watch.Owns id → play.scene.document.queue id = []
  nobody : play.scene.document.pending = []

end Play

namespace Document

theorem queue_takeChanges (document : Document) (id other : ObserverId) :
    (document.takeChanges id).1.queue other = if other = id then [] else document.queue other := by
  split
  · next same => rw [same, queue_takeChanges_self]
  · next different => exact queue_takeChanges_of_ne document id other different

theorem due_of_queue_eq {before after : Document} {id : ObserverId}
    (same : after.queue id = before.queue id) : after.due id = before.due id := by
  rw [due, same, due]

/-- Nothing is due any more to an observer whose changes have been taken. -/
theorem due_takeChanges_self (document : Document) (id : ObserverId) :
    (document.takeChanges id).1.due id = 0 :=
  if_pos (queue_takeChanges_self document id)

theorem due_takeChanges_of_ne (document : Document) {id other : ObserverId}
    (different : other ≠ id) : (document.takeChanges id).1.due other = document.due other :=
  due_of_queue_eq (queue_takeChanges_of_ne document id other different)

end Document

/-! ## Calls -/

namespace Localizer

variable (localizer : Localizer) (document : Document) (changes : List Change)

/-- A call to the observer of texts is counted there. -/
theorem calls_hear_texts :
    (localizer.hear document localizer.watch.texts changes).1.textCalls
        = localizer.textCalls + 1 ∧
      (localizer.hear document localizer.watch.texts changes).1.nodeCalls
        = localizer.nodeCalls := by
  rw [hear, if_pos rfl]
  exact ⟨rfl, rfl⟩

/-- A call to the observer of nodes is counted there. -/
theorem calls_hear_nodes (different : localizer.watch.texts ≠ localizer.watch.nodes) :
    (localizer.hear document localizer.watch.nodes changes).1.textCalls
        = localizer.textCalls ∧
      (localizer.hear document localizer.watch.nodes changes).1.nodeCalls
        = localizer.nodeCalls + 1 := by
  rw [hear, if_neg different]
  exact ⟨localizer.textCalls_hearNodes document changes,
    localizer.nodeCalls_hearNodes document changes⟩

end Localizer

namespace Scene

variable {scene : Scene} {watch : Watch} {texts nodes : Nat}

/-- The watch of the only localizer is sound. -/
theorem Proper.sound_of_localizers {rest : List ObserverId} (proper : Proper rest scene)
    {localizer : Localizer} (alone : scene.localizers = [localizer]) :
    localizer.watch.Sound scene.document :=
  proper.sound _ (mem_watches (alone ▸ List.mem_singleton_self localizer))

/-- What holds of each localizer holds of the only one. -/
theorem exists_localizer (one : scene.localizers.length = 1) {P : Localizer → Prop}
    (all : ∀ localizer ∈ scene.localizers, P localizer) :
    ∃ localizer, scene.localizers = [localizer] ∧ P localizer := by
  obtain ⟨localizer, alone⟩ := List.length_eq_one_iff.mp one
  exact ⟨localizer, alone, all localizer (alone ▸ List.mem_singleton_self localizer)⟩

/-- Only its own observers are the only localizer's. -/
theorem hear_of_not_owns {localizer : Localizer} (alone : scene.localizers = [localizer])
    {id : ObserverId} (stranger : ¬ localizer.watch.Owns id) (changes : List Change) :
    scene.hear id changes = scene := by
  have nobody : scene.localizer? id = none := by
    have neither : ¬ (localizer.watch.texts = id ∨ localizer.watch.nodes = id) :=
      fun owns => stranger (owns.imp Eq.symm Eq.symm)
    simpa [localizer?, alone] using neither
  rw [hear, nobody]

theorem hear_of_owns {localizer : Localizer} (alone : scene.localizers = [localizer])
    {id : ObserverId} (mine : localizer.watch.Owns id) (changes : List Change) :
    scene.hear id changes =
      { scene with
        document := (localizer.hear scene.document id changes).2
        localizers := [(localizer.hear scene.document id changes).1] } := by
  have found : scene.localizer? id = some localizer := by
    have owns : localizer.watch.texts = id ∨ localizer.watch.nodes = id :=
      mine.imp Eq.symm Eq.symm
    rw [localizer?, alone, List.find?_cons_of_pos (by simpa using owns)]
  have same := localizer.watch_hear scene.document id changes
  simp [hear, found, put, alone, withDocument, same]

/-- **A call that is made to the localizer is due no more, and makes none due.** -/
theorem tallies_hear (tallies : scene.Tallies watch texts nodes)
    (sound : watch.Sound scene.document) {id : ObserverId} (mine : watch.Owns id)
    (something : scene.document.queue id ≠ []) {document : Document}
    (taken : watch.Unmoved (scene.document.takeChanges id).1 document) (changes : List Change) :
    ((scene.withDocument document).hear id changes).Tallies watch texts nodes ∧
      ∀ other, watch.Owns other →
        ((scene.withDocument document).hear id changes).document.queue other
          = (scene.document.takeChanges id).1.queue other := by
  obtain ⟨localizer, alone, rfl, texts, nodes⟩ := tallies
  have alone' : (scene.withDocument document).localizers = [localizer] := alone
  have unmoved := (localizer.unheard_hear document id changes).unmoved
    ((sound.takeChanges id).of_unmoved taken)
  have textsQueue := unmoved.texts.queue.trans taken.texts.queue
  have nodesQueue := unmoved.nodes.queue.trans taken.nodes.queue
  have textsDue := Document.due_of_queue_eq textsQueue
  have nodesDue := Document.due_of_queue_eq nodesQueue
  have due : scene.document.due id = 1 := if_neg something
  rw [hear_of_owns alone' mine]
  refine ⟨⟨_, rfl, localizer.watch_hear document id changes, ?_, ?_⟩, ?_⟩
  · rcases mine with rfl | rfl
    · have calls := (localizer.calls_hear_texts document changes).1
      rw [Document.due_takeChanges_self] at textsDue
      simp only [withDocument, textsDue, calls]
      omega
    · have calls := (localizer.calls_hear_nodes document changes sound.different).1
      rw [Document.due_takeChanges_of_ne _ sound.different] at textsDue
      simp only [withDocument, textsDue, calls]
      exact texts
  · rcases mine with rfl | rfl
    · have calls := (localizer.calls_hear_texts document changes).2
      rw [Document.due_takeChanges_of_ne _ sound.different.symm] at nodesDue
      simp only [withDocument, nodesDue, calls]
      exact nodes
    · have calls := (localizer.calls_hear_nodes document changes sound.different).2
      rw [Document.due_takeChanges_self] at nodesDue
      simp only [withDocument, nodesDue, calls]
      omega
  · rintro other (rfl | rfl)
    · exact textsQueue
    · exact nodesQueue

/-- What is due depends on the queues alone. -/
theorem Tallies.withDocument (tallies : scene.Tallies watch texts nodes) {document : Document}
    (queues : ∀ id, watch.Owns id → document.queue id = scene.document.queue id) :
    (scene.withDocument document).Tallies watch texts nodes := by
  obtain ⟨localizer, alone, rfl, texts, nodes⟩ := tallies
  refine ⟨localizer, alone, rfl, ?_, ?_⟩
  · rw [← texts, Scene.withDocument, Document.due_of_queue_eq (queues _ (.inl rfl))]
  · rw [← nodes, Scene.withDocument, Document.due_of_queue_eq (queues _ (.inr rfl))]

end Scene

/-! ## Rounds -/

namespace Guest

open Play

variable {σ : Type} (guest : Guest σ) (passive : guest.Passive) {watch : Watch}
  {texts nodes : Nat} {rest : List ObserverId} {play : Play σ}

include passive in
/-- A call to an observer that is not the localizer's does nothing. -/
theorem scene_call_of_not_owns {localizer : Localizer} (alone : play.scene.localizers = [localizer])
    {id : ObserverId} (stranger : ¬ localizer.watch.Owns id) (changes : List Change) :
    (guest.stage.call id changes play).scene = play.scene := by
  simp only [stage]
  split
  · rw [passive id changes play]
    rfl
  · exact Scene.hear_of_not_owns alone stranger changes

include passive in
/-- Dealing with an observer that is not the localizer's, or for which nothing waits,
only takes what waits for it. -/
theorem scene_deal_of_not_owns {id : ObserverId} (busy : play.Busy (id :: rest))
    {localizer : Localizer} (alone : play.scene.localizers = [localizer])
    (nothing : localizer.watch.Owns id → play.scene.document.queue id = []) :
    (guest.stage.deal id rest play).scene = play.scene.withDocument
      { (play.scene.document.takeChanges id).1 with batch := rest } := by
  by_cases idle : play.scene.document.queue id = []
  · have dealt : guest.stage.deal id rest play = _ :=
      guest.stage.deal_of_queue_eq_nil idle rest
    rw [dealt]
    rfl
  · have alone' : (calling play id).scene.localizers = [localizer] := alone
    have same := guest.scene_call_of_not_owns passive alone' (fun mine => idle (nothing mine))
      (play.scene.document.queue id)
    have running : (play.scene.document.takeChanges id).1.running = [] := busy.idle
    rw [guest.deal_eq_calling busy idle]
    simp only [Stage.update, stage, Scene.withDocument] at same ⊢
    rw [same]
    simp [calling, Scene.withDocument, ← running]

/-- Dealing with an observer of the localizer for which something waits. -/
theorem scene_deal_of_owns {id : ObserverId} (busy : play.Busy (id :: rest))
    {localizer : Localizer} (alone : play.scene.localizers = [localizer])
    (mine : localizer.watch.Owns id) (something : play.scene.document.queue id ≠ []) :
    ∃ document : Document,
      document.observers = ((calling play id).scene.hear id
        (play.scene.document.queue id)).document.observers ∧
      document.forest = ((calling play id).scene.hear id
        (play.scene.document.queue id)).document.forest ∧
      (guest.stage.deal id rest play).scene =
        ((calling play id).scene.hear id (play.scene.document.queue id)).withDocument document := by
  have foreign : id ∉ (calling play id).scene.handles := fun listed =>
    busy.kept.proper.foreign id listed localizer.watch
      (Scene.mem_watches (alone ▸ List.mem_singleton_self localizer)) mine
  rw [guest.deal_eq_calling busy something]
  refine ⟨_, ?_, ?_, by simp only [Stage.update, stage, if_neg foreign]; rfl⟩
  · rfl
  · rfl

/-- Nothing changes for the localizer when something is taken from others. -/
theorem queue_takeChanges_of_owns {document : Document} {id other : ObserverId}
    (nothing : watch.Owns id → document.queue id = []) (mine : watch.Owns other) :
    (document.takeChanges id).1.queue other = document.queue other := by
  by_cases same : other = id
  · subst same
    exact (Document.queue_takeChanges_self document other).trans (nothing mine).symm
  · exact Document.queue_takeChanges_of_ne document id other same

include passive in
theorem opening_deal (id : ObserverId) (rest : List ObserverId) (play : Play σ)
    (opening : play.Opening watch texts nodes (id :: rest)) :
    (guest.stage.deal id rest play).Opening watch texts nodes rest := by
  have tallies := opening.tallies
  obtain ⟨localizer, alone, rfl, _⟩ := opening.tallies
  have later : ∀ other, other ≠ id → localizer.watch.Owns other →
      play.scene.document.queue other ≠ [] → other ∈ rest := fun other different mine waits =>
    (List.mem_cons.mp (opening.listed other mine waits)).resolve_left different
  have busy := guest.busy_deal opening.busy
  by_cases called : localizer.watch.Owns id ∧ play.scene.document.queue id ≠ []
  · obtain ⟨mine, something⟩ := called
    have sound : localizer.watch.Sound play.scene.document :=
      opening.busy.kept.proper.sound_of_localizers alone
    obtain ⟨document, observers, _, dealt⟩ :=
      guest.scene_deal_of_owns opening.busy alone mine something
    have taken : localizer.watch.Unmoved (play.scene.document.takeChanges id).1
        (calling play id).scene.document := ⟨.of_observers rfl rfl, .of_observers rfl rfl⟩
    obtain ⟨heard, queues⟩ := Scene.tallies_hear tallies sound mine something taken
      (play.scene.document.queue id)
    have same := Document.queue_eq_of_observers_eq observers
    refine ⟨busy, dealt ▸ heard.withDocument fun other _ => same other, fun other also waits => ?_⟩
    have queue : (guest.stage.deal id rest play).scene.document.queue other
        = (play.scene.document.takeChanges id).1.queue other := by
      rw [dealt]
      exact (same other).trans (queues other also)
    rw [queue, Document.queue_takeChanges] at waits
    by_cases self : other = id
    · exact absurd (if_pos self) waits
    · rw [if_neg self] at waits
      exact later other self also waits
  · have nothing : localizer.watch.Owns id → play.scene.document.queue id = [] := fun mine =>
      Decidable.byContradiction fun something => called ⟨mine, something⟩
    have dealt := guest.scene_deal_of_not_owns passive opening.busy alone nothing
    have queues : ∀ other, localizer.watch.Owns other → Document.queue
        { (play.scene.document.takeChanges id).1 with batch := rest } other
          = play.scene.document.queue other :=
      fun other mine => queue_takeChanges_of_owns nothing mine
    refine ⟨busy, dealt ▸ tallies.withDocument queues, fun other mine waits => ?_⟩
    rw [dealt] at waits
    have waited : play.scene.document.queue other ≠ [] := queues other mine ▸ waits
    refine later other (fun same => ?_) mine waited
    exact waited (same ▸ nothing (same ▸ mine))

include passive in
theorem ending_deal (id : ObserverId) (rest : List ObserverId) (play : Play σ)
    (ending : play.Ending watch texts nodes (id :: rest)) :
    (guest.stage.deal id rest play).Ending watch texts nodes rest := by
  have tallies := ending.tallies
  obtain ⟨localizer, alone, rfl, _⟩ := ending.tallies
  have dealt := guest.scene_deal_of_not_owns passive ending.busy alone (ending.heard id)
  have queues : ∀ other, localizer.watch.Owns other → Document.queue
      { (play.scene.document.takeChanges id).1 with batch := rest } other
        = play.scene.document.queue other :=
    fun other mine => queue_takeChanges_of_owns (ending.heard id) mine
  refine ⟨guest.busy_deal ending.busy, dealt ▸ tallies.withDocument queues, fun other mine => ?_,
    ?_⟩
  · rw [dealt]
    exact (queues other mine).trans (ending.heard other mine)
  · rw [dealt]
    exact ending.nobody

/-! ## Deliveries -/

include passive in
/-- When nothing waits for the localizer, one more round is enough for everybody
else. -/
theorem rounds_of_heard (limit : Nat) (busy : play.Busy [])
    (tallies : play.scene.Tallies watch texts nodes)
    (heard : ∀ id, watch.Owns id → play.scene.document.queue id = []) :
    ∃ after calls, guest.stage.rounds (limit + 2) play = some (after, calls) ∧
      after.Ending watch texts nodes [] := by
  by_cases nobody : play.scene.document.pending = []
  · exact ⟨play, 0, guest.stage.rounds_of_pending_eq_nil nobody _, busy, tallies, heard, nobody⟩
  · have begun : (guest.stage.beginRound play).Ending watch texts nodes
        play.scene.document.pending :=
      ⟨guest.busy_beginRound busy, tallies, heard, rfl⟩
    have done := guest.stage.deliverAll_induction (guest.ending_deal passive) _ _ begun
    obtain ⟨calls, ended⟩ := guest.stage.rounds_eq_some nobody
      (guest.stage.rounds_of_pending_eq_nil done.nobody limit)
    exact ⟨_, calls, ended, done⟩

include passive in
/-- Three rounds are enough. -/
theorem rounds_of_busy (limit : Nat) (busy : play.Busy [])
    (tallies : play.scene.Tallies watch texts nodes) :
    ∃ after calls, guest.stage.rounds (limit + 3) play = some (after, calls) ∧
      after.Ending watch texts nodes [] := by
  have listed : ∀ id, play.scene.document.queue id ≠ [] → id ∈ play.scene.document.pending :=
    fun id waits => (busy.kept.proper.awaited.listed id waits).resolve_right List.not_mem_nil
  by_cases nobody : play.scene.document.pending = []
  · refine guest.rounds_of_heard passive (limit + 1) busy tallies fun id _ => ?_
    refine Decidable.byContradiction fun waits => ?_
    exact List.not_mem_nil (nobody ▸ listed id waits)
  · have begun : (guest.stage.beginRound play).Opening watch texts nodes
        play.scene.document.pending :=
      ⟨guest.busy_beginRound busy, tallies, fun id _ waits => listed id waits⟩
    have done := guest.stage.deliverAll_induction (guest.opening_deal passive) _ _ begun
    have heard : ∀ id, watch.Owns id → Document.queue _ id = [] := fun id mine =>
      Decidable.byContradiction fun waits => List.not_mem_nil (done.listed id mine waits)
    obtain ⟨after, calls, ended, ending⟩ :=
      guest.rounds_of_heard passive limit done.busy done.tallies heard
    obtain ⟨total, ended⟩ := guest.stage.rounds_eq_some nobody ended
    exact ⟨after, total, ended, ending⟩

/-- A play that can come about: everything has been done that somebody did in a
document that nobody observed. -/
def Reaches (play : Play σ) : Prop :=
  ∃ limit forest host state actions, guest.run limit (Play.start forest host state) actions = play

/-- A play that can come about, and no delivery is under way. -/
theorem Reaches.settled {guest : Guest σ} (reached : guest.Reaches play)
    (idle : play.scene.document.delivering = false) : play.Settled := by
  obtain ⟨limit, forest, host, state, actions, rfl⟩ := reached
  rcases guest.settled_or_busy_run limit actions (settled_start forest host state) with
    settled | busy
  · exact settled
  · exact absurd busy.delivering (by simp [idle])

/-- **Where one localizer is at work and nobody else does anything when called, a
delivery comes to its end within three rounds; each observer of the localizer is
called in it once if anything waited for it and not at all otherwise; and
afterwards nothing waits for anybody.** -/
theorem deliver?_quiet (passive : guest.Passive) (reached : guest.Reaches play)
    (idle : play.scene.document.delivering = false) {localizer : Localizer}
    (alone : play.scene.localizers = [localizer]) {limit : Nat} (enough : 3 ≤ limit) :
    ∃ after calls localizer', guest.stage.deliver? limit play = some (after, calls) ∧
      after.scene.localizers = [localizer'] ∧ localizer'.watch = localizer.watch ∧
      localizer'.textCalls
        = localizer.textCalls + play.scene.document.due localizer.watch.texts ∧
      localizer'.nodeCalls
        = localizer.nodeCalls + play.scene.document.due localizer.watch.nodes ∧
      ∀ id, after.scene.document.queue id = [] := by
  obtain ⟨more, rfl⟩ := Nat.exists_eq_add_of_le' enough
  have busy := guest.busy_commence (reached.settled idle)
  have tallies : (guest.stage.commence play).scene.Tallies localizer.watch
      (localizer.textCalls + play.scene.document.due localizer.watch.texts)
      (localizer.nodeCalls + play.scene.document.due localizer.watch.nodes) :=
    ⟨localizer, alone, rfl, rfl, rfl⟩
  obtain ⟨last, calls, ended, ending⟩ := guest.rounds_of_busy passive more busy tallies
  have delivered :
      guest.stage.deliver? (more + 3) play = some (guest.stage.finish last, calls) := by
    have opened : guest.stage.deliver? (more + 3) play = _ :=
      guest.stage.deliver?_of_not_delivering idle _
    rw [opened, ended]
    rfl
  have nothing : ∀ id, last.scene.document.queue id = [] := by
    refine fun id => Decidable.byContradiction fun waits => ?_
    rcases ending.busy.kept.proper.awaited.listed id waits with listed | listed
    · exact List.not_mem_nil (ending.nobody ▸ listed)
    · exact List.not_mem_nil listed
  obtain ⟨localizer', alone', watch, texts, nodes⟩ := ending.tallies
  have done : ∀ id, last.scene.document.due id = 0 := fun id => if_pos (nothing id)
  rw [done] at texts nodes
  exact ⟨_, calls, localizer', delivered, alone', watch, texts, nodes, nothing⟩

/-- The guest whose observers do nothing. -/
def silent : Guest Unit := ⟨fun _ _ _ => ([], ())⟩

/-- A play in which somebody edits the only text of a document after a localizer was
attached to it. -/
def edited : Play Unit :=
  silent.run 3
    (Play.start ⟨#[⟨.document, none, [1]⟩, ⟨.text ['a'], some 0, []⟩]⟩ (.new 0) ())
    [.attach ⟨some 0, some ['e'], .ofList [(['e'], [['b']])], some ['e'], none, ⟨[], [], [], [], [], []⟩⟩,
      .edit (.setText 1 ['b'])]

/-- The text was edited, so the observer of texts is called once, and the other one is
not. -/
theorem deliver?_edited :
    edited.scene.document.due 0 = 1 ∧ edited.scene.document.due 1 = 0 ∧
    ∃ localizer after calls localizer', edited.scene.localizers = [localizer] ∧
      silent.stage.deliver? 3 edited = some (after, calls) ∧
      after.scene.localizers = [localizer'] ∧ localizer'.watch = localizer.watch ∧
      localizer'.textCalls
        = localizer.textCalls + edited.scene.document.due localizer.watch.texts ∧
      localizer'.nodeCalls
        = localizer.nodeCalls + edited.scene.document.due localizer.watch.nodes ∧
      ∀ id, after.scene.document.queue id = [] := by
  have one : edited.scene.localizers.length = 1 := by decide
  obtain ⟨localizer, alone⟩ := List.length_eq_one_iff.mp one
  obtain ⟨after, calls, localizer', delivered⟩ :=
    silent.deliver?_quiet (fun _ _ _ => rfl) ⟨_, _, _, _, _, rfl⟩ (by decide) alone (Nat.le_refl 3)
  exact ⟨by decide, by decide, localizer, after, calls, localizer', alone, delivered⟩

end Guest

end Polyglot
