import Polyglot.Proofs.Localizer.Hearing
import Polyglot.Proofs.Localizer.Quiet

/-!
# What a delivery makes of texts

Where one localizer is at work and nobody else does anything when called, a delivery
visits each text as often as that was due when it began, and so the text is known that
it leaves (`Guest.deliver?_wording`).

What a text will be once everything due has been visited is the same throughout the
delivery: a call makes some of the visits that were due, and none due. In the end
nothing is due any more, so the text is what it was to be.
-/

set_option autoImplicit false

namespace Polyglot

namespace Localizer

/-- Two localizers that differ in what they counted at most. -/
structure SameButCounts (one other : Localizer) : Prop where
  watch : other.watch = one.watch
  htmlLanguage : other.htmlLanguage = one.htmlLanguage
  catalog : other.catalog = one.catalog
  fallback? : other.fallback? = one.fallback?
  language : other.language = one.language

namespace SameButCounts

variable {one other third : Localizer}

theorem refl (localizer : Localizer) : localizer.SameButCounts localizer :=
  ⟨rfl, rfl, rfl, rfl, rfl⟩

theorem trans (first : one.SameButCounts other) (second : other.SameButCounts third) :
    one.SameButCounts third :=
  ⟨second.watch.trans first.watch, second.htmlLanguage.trans first.htmlLanguage,
    second.catalog.trans first.catalog, second.fallback?.trans first.fallback?,
    second.language.trans first.language⟩

variable (same : one.SameButCounts other)
include same

theorem counterpart? : other.counterpart? = one.counterpart? := by
  unfold Localizer.counterpart?
  rw [same.catalog, same.language]

theorem resolve : other.resolve = one.resolve := by
  unfold Localizer.resolve
  rw [same.catalog, same.fallback?]

end SameButCounts

variable (localizer : Localizer)

/-- Hearing of changes counts, and changes nothing else of a localizer. -/
theorem sameButCounts_hear (document : Document) (id : ObserverId) (changes : List Change) :
    localizer.SameButCounts (localizer.hear document id changes).1 := by
  rw [hear]
  split
  · exact ⟨rfl, rfl, rfl, rfl, rfl⟩
  · obtain ⟨passes, stats, heard⟩ := localizer.whileHearing_eq document changes
    rw [hearNodes_eq, heard]
    exact ⟨rfl, rfl, rfl, rfl, rfl⟩

/-- How often a text is yet to be visited on account of what waits for a localizer. -/
def outstanding (forest : Forest) (document : Document) (node : NodeId) : Nat :=
  (forest.textsDue localizer.watch.target (document.queue localizer.watch.texts)).count node +
    (forest.nodesDue localizer.watch.target (document.queue localizer.watch.nodes)).count node

variable {localizer}

theorem outstanding_of_queue {before after : Document}
    (queues : ∀ id, localizer.watch.Owns id → after.queue id = before.queue id) (forest : Forest)
    (node : NodeId) :
    localizer.outstanding forest after node = localizer.outstanding forest before node := by
  rw [outstanding, outstanding, queues _ (.inl rfl), queues _ (.inr rfl)]

theorem outstanding_of_nothing {document : Document}
    (nothing : ∀ id, localizer.watch.Owns id → document.queue id = []) (forest : Forest)
    (node : NodeId) : localizer.outstanding forest document node = 0 := by
  rw [outstanding, nothing _ (.inl rfl), nothing _ (.inr rfl)]
  rfl

theorem exists_mem_stops_of_outstanding {forest : Forest} {document : Document} {node : NodeId}
    (due : localizer.outstanding forest document node ≠ 0) :
    ∃ other, node ∈ forest.stops localizer.watch.target other := by
  rw [outstanding] at due
  rcases Nat.add_pos_iff_pos_or_pos.mp (Nat.pos_of_ne_zero due) with texts | nodes
  · exact Forest.exists_mem_stops_of_mem_textsDue (List.count_pos_iff.mp texts)
  · exact Forest.exists_mem_stops_of_mem_nodesDue (List.count_pos_iff.mp nodes)

/-- What is due because of the changes of one observer is due no more when these have
been taken. -/
theorem outstanding_of_taken (different : localizer.watch.texts ≠ localizer.watch.nodes)
    {before after : Document} {id : ObserverId} (mine : localizer.watch.Owns id)
    (queues : ∀ other, localizer.watch.Owns other →
      after.queue other = if other = id then [] else before.queue other)
    (forest : Forest) (node : NodeId) :
    localizer.outstanding forest before node =
      localizer.outstanding forest after node
        + (localizer.dueOf forest id (before.queue id)).count node := by
  rw [outstanding, outstanding, queues _ (.inl rfl), queues _ (.inr rfl), dueOf]
  rcases mine with rfl | rfl
  · have none : forest.textsDue localizer.watch.target [] = [] := rfl
    rw [if_pos rfl, if_neg different.symm, if_pos rfl, none, List.count_nil]
    omega
  · have none : forest.nodesDue localizer.watch.target [] = [] := rfl
    rw [if_neg different, if_pos rfl, if_neg different, none, List.count_nil]
    omega

/-- What a text is to be once everything due has been visited. -/
def prospect (localizer : Localizer) (forest : Forest) (document : Document) (node : NodeId) :
    Option Wording :=
  (document.forest.wording? node).map
    ((Wording.localized (localizer.counterpart? localizer.htmlLanguage))^[
      localizer.outstanding forest document node])

theorem SameButCounts.prospect {one other : Localizer} (same : one.SameButCounts other) :
    other.prospect = one.prospect := by
  unfold Localizer.prospect outstanding
  rw [same.counterpart?, same.htmlLanguage, same.watch]

/-- Visits that were due and have been made change no prospect. -/
theorem prospect_of_taken {forest : Forest} {before after : Document} {due : List NodeId}
    (words : ∀ node, after.forest.wording? node = (before.forest.wording? node).map
      ((Wording.localized (localizer.counterpart? localizer.htmlLanguage))^[due.count node]))
    (fewer : ∀ node, localizer.outstanding forest before node =
      localizer.outstanding forest after node + due.count node) :
    localizer.prospect forest after = localizer.prospect forest before := by
  funext node
  rw [prospect, prospect, words, fewer, Option.map_map, ← Function.iterate_add]

/-- Where nothing is done to texts, nor taken from a localizer, no prospect changes. -/
theorem prospect_of_queue {forest : Forest} {before after : Document}
    (same : after.forest = before.forest)
    (queues : ∀ id, localizer.watch.Owns id → after.queue id = before.queue id) :
    localizer.prospect forest after = localizer.prospect forest before := by
  funext node
  rw [prospect, prospect, same, outstanding_of_queue queues]

end Localizer

/-! ## Calls -/

/-- What holds between two calls of a delivery: one localizer is at work, and texts are
to be what they were to be when it began. -/
structure Play.Expecting {σ : Type} (localizer : Localizer) (original : Forest)
    (Holds : Forest → Prop) (goal : NodeId → Option Wording) (rest : List ObserverId)
    (play : Play σ) : Prop where
  busy : play.Busy rest
  alone : ∃ now, play.scene.localizers = [now] ∧ localizer.SameButCounts now
  holds : Holds play.scene.document.forest
  prospect : localizer.prospect original play.scene.document = goal

/-- Hearing of changes leaves what waits for the localizer. -/
theorem Scene.queue_hear {scene : Scene} {localizer : Localizer}
    (alone : scene.localizers = [localizer]) (sound : localizer.watch.Sound scene.document)
    {id other : ObserverId} (mine : localizer.watch.Owns id) (also : localizer.watch.Owns other)
    (changes : List Change) :
    (scene.hear id changes).document.queue other = scene.document.queue other := by
  have unmoved := (localizer.unheard_hear scene.document id changes).unmoved sound
  rw [hear_of_owns alone mine]
  rcases also with rfl | rfl
  · exact unmoved.texts.queue
  · exact unmoved.nodes.queue

namespace Guest

open Play

variable {σ : Type} (guest : Guest σ) (passive : guest.Passive) {localizer : Localizer}
  {original : Forest} {Holds : Forest → Prop} {goal : NodeId → Option Wording}
  {rest : List ObserverId} {play : Play σ}
  (steady : original.Steady (localizer.counterpart? localizer.htmlLanguage)
    localizer.watch.target Holds)

include passive steady in
/-- **A call makes the visits that were due because of its changes**, and none due. -/
theorem expecting_deal (id : ObserverId) (rest : List ObserverId) (play : Play σ)
    (expecting : play.Expecting localizer original Holds goal (id :: rest)) :
    (guest.stage.deal id rest play).Expecting localizer original Holds goal rest := by
  obtain ⟨now, alone, same⟩ := expecting.alone
  have busy := guest.busy_deal expecting.busy
  by_cases called : now.watch.Owns id ∧ play.scene.document.queue id ≠ []
  · obtain ⟨mine, something⟩ := called
    obtain ⟨document, observers, forest, dealt⟩ :=
      guest.scene_deal_of_owns expecting.busy alone mine something
    have alone' : (calling play id).scene.localizers = [now] := alone
    have sound : now.watch.Sound (calling play id).scene.document :=
      (kept_calling expecting.busy).proper.sound_of_localizers alone'
    have queues : ∀ other, now.watch.Owns other → document.queue other =
        if other = id then [] else play.scene.document.queue other := by
      intro other also
      have heard := Scene.queue_hear alone' sound mine also (play.scene.document.queue id)
      have taken := play.scene.document.queue_takeChanges id other
      exact (Document.queue_eq_of_observers_eq observers other).trans (heard.trans taken)
    have holds : Holds (calling play id).scene.document.forest := expecting.holds
    have steadyNow : original.Steady (now.counterpart? now.htmlLanguage) now.watch.target
        Holds := by
      rw [same.counterpart?, same.htmlLanguage, same.watch]
      exact steady
    rw [Scene.hear_of_owns alone' mine] at forest dealt
    have visits := now.forest_hear_of_steady steadyNow (calling play id).scene.document holds id
      (play.scene.document.queue id)
    obtain ⟨kept, words⟩ := steadyNow.foldl_localize
      (now.dueOf original id (play.scene.document.queue id))
      (fun _ listed => now.exists_mem_stops_of_mem_dueOf listed) _ holds
    rw [← visits, ← forest] at kept words
    refine ⟨busy, ⟨_, by rw [dealt]; rfl, same.trans (now.sameButCounts_hear _ _ _)⟩,
      by rw [dealt]; exact kept, ?_⟩
    rw [dealt, ← expecting.prospect, ← same.prospect]
    exact Localizer.prospect_of_taken words
      (Localizer.outstanding_of_taken sound.different mine queues original)
  · have nothing : now.watch.Owns id → play.scene.document.queue id = [] := fun mine =>
      Decidable.byContradiction fun something => called ⟨mine, something⟩
    have dealt := guest.scene_deal_of_not_owns passive expecting.busy alone nothing
    refine ⟨busy, ⟨now, by rw [dealt]; exact alone, same⟩, by rw [dealt]; exact expecting.holds, ?_⟩
    rw [dealt, ← expecting.prospect, ← same.prospect]
    exact Localizer.prospect_of_queue rfl fun other mine => queue_takeChanges_of_owns nothing mine

/-! ## Deliveries -/

include passive steady in
theorem expecting_rule : guest.stage.Rule (Play.Expecting localizer original Holds goal) where
  round _ expecting :=
    ⟨guest.busy_beginRound expecting.busy, expecting.alone, expecting.holds, expecting.prospect⟩
  deal := guest.expecting_deal passive steady

include passive steady in
/-- **A delivery visits each text as often as that was due when it began.** It comes to
its end within three rounds and leaves nothing due. -/
theorem deliver?_wording (settled : play.Settled) (alone : play.scene.localizers = [localizer])
    (holds : Holds play.scene.document.forest) {limit : Nat} (enough : 3 ≤ limit) :
    ∃ after calls now, guest.stage.deliver? limit play = some (after, calls) ∧
      after.Settled ∧ after.scene.localizers = [now] ∧ localizer.SameButCounts now ∧
      Holds after.scene.document.forest ∧
      ∀ node, after.scene.document.forest.wording? node =
        localizer.prospect original play.scene.document node := by
  obtain ⟨more, rfl⟩ := Nat.exists_eq_add_of_le' enough
  have tallies : (guest.stage.commence play).scene.Tallies localizer.watch
      (localizer.textCalls + play.scene.document.due localizer.watch.texts)
      (localizer.nodeCalls + play.scene.document.due localizer.watch.nodes) :=
    ⟨localizer, alone, rfl, rfl, rfl⟩
  obtain ⟨last, calls, ended, ending⟩ :=
    guest.rounds_of_busy passive more (guest.busy_commence settled) tallies
  have expecting : (guest.stage.commence play).Expecting localizer original Holds
      (localizer.prospect original play.scene.document) [] :=
    ⟨guest.busy_commence settled, ⟨localizer, alone, .refl localizer⟩, holds, rfl⟩
  obtain ⟨done, _⟩ := (guest.expecting_rule passive steady).rounds _ _ _ _ expecting ended
  obtain ⟨now, alone', same⟩ := done.alone
  have delivered :
      guest.stage.deliver? (more + 3) play = some (guest.stage.finish last, calls) := by
    have opened : guest.stage.deliver? (more + 3) play = _ :=
      guest.stage.deliver?_of_not_delivering settled.delivering _
    rw [opened, ended]
    rfl
  refine ⟨_, calls, now, delivered, guest.settled_finish done.busy, alone', same, done.holds,
    fun node => ?_⟩
  have none := Localizer.outstanding_of_nothing ending.heard original node
  rw [← done.prospect, Localizer.prospect, none]
  exact Option.map_id.symm ▸ rfl

end Guest

end Polyglot
