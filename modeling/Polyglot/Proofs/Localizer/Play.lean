import Polyglot.Proofs.Delivery.Rule
import Polyglot.Proofs.Localizer.Scene

/-!
# Suspension leaves no trace, whenever it happens

A play is a scene in which somebody acts: one action after the other, with
deliveries among them, and in the calls of the observers that were made in it. A
`Guest` chooses what is done in those calls, and it may choose by everything that
has happened. The scenes in which an action was about to be taken are kept as the
past of the play, so that they are all those in which anybody but a localizer
itself can ask a localizer for something, within deliveries and without.

In all of them a request to a localizer leaves the localizer's own observers as
they were (`Guest.transparent_run`).
-/

set_option autoImplicit false

namespace Polyglot

/-- A scene, whatever else there is, and the scenes in which somebody acted. -/
structure Play (σ : Type) where
  scene : Scene
  state : σ
  past : List Scene

/-- Whoever decides what the observers do that were made in a scene. -/
structure Guest (σ : Type) where
  react : ObserverId → List Change → Play σ → List Action × σ

namespace Play

variable {σ : Type}

/-- A play that has not begun. -/
def start (forest : Forest) (host : Host) (state : σ) : Play σ :=
  ⟨⟨.ofForest forest, host, [], []⟩, state, []⟩

/-- A play after an action, where a delivery is refused. -/
def act (play : Play σ) (action : Action) : Play σ :=
  { play with
    scene := play.scene.act action
    past := play.past ++ [play.scene] }

end Play

/-- Whatever a localizer of the scene is asked to localize, and whether it can, both
its observers are afterwards as they were. -/
def Scene.Transparent (scene : Scene) : Prop :=
  ∀ localizer ∈ scene.localizers,
    (∀ host language, localizer.watch.Unmoved scene.document
      (localizer.changeLanguage scene.document host language).2.1) ∧
    (∀ node source, localizer.watch.Unmoved scene.document
      (localizer.localizeTextUnheard scene.document node source).1) ∧
    ∀ root source, localizer.watch.Unmoved scene.document
      (localizer.localizeTreeUnheard scene.document root source).2.1

/-- Localizers were transparent whenever somebody acted. -/
def Play.Transparent {σ : Type} (play : Play σ) : Prop :=
  ∀ scene ∈ play.past, scene.Transparent

namespace Guest

variable {σ : Type} (guest : Guest σ)

/-- A play as a stage: an observer that was made in the scene takes the actions that
the guest chooses; others are those of localizers. -/
def stage : Stage (Play σ) where
  document play := play.scene.document
  withDocument play document := { play with scene := play.scene.withDocument document }
  call id changes play :=
    if id ∈ play.scene.handles then
      let (actions, state) := guest.react id changes play
      { actions.foldl Play.act play with state := state }
    else { play with scene := play.scene.hear id changes }
  passOver _ _ play := play

/-- A play after several actions, whose deliveries may take some rounds each. A
delivery that does not come to its end within them is never over, so the play ends
there. -/
def run (limit : Nat) (play : Play σ) : List Action → Play σ
  | [] => play
  | .deliver :: rest =>
    match guest.stage.deliverWithin limit (play.act .deliver) with
    | (after, true) => run limit after rest
    | (after, false) => after
  | action :: rest => run limit (play.act action) rest

end Guest

/-! ## Actions in order -/

/-- A scene and all that were before it are in order. -/
structure Play.Kept {σ : Type} (rest : List ObserverId) (play : Play σ) : Prop where
  proper : play.scene.Proper rest
  past : play.Transparent

namespace Scene.Proper

theorem transparent {rest : List ObserverId} {scene : Scene} (proper : scene.Proper rest) :
    scene.Transparent := by
  intro localizer listed
  have sound := proper.sound _ (mem_watches listed)
  exact ⟨fun host language =>
      (localizer.unheard_changeLanguage scene.document host language).unmoved sound,
    fun node source =>
      (localizer.unheard_localizeTextUnheard scene.document node source).unmoved sound,
    fun root source =>
      (localizer.unheard_localizeTreeUnheard scene.document root source).unmoved sound⟩

end Scene.Proper

namespace Play

variable {σ : Type} {rest : List ObserverId} {play : Play σ}

theorem Kept.act (kept : play.Kept rest) (action : Action) : (play.act action).Kept rest where
  proper := kept.proper.act action
  past scene member := by
    rcases List.mem_append.mp member with old | new
    · exact kept.past scene old
    · exact List.mem_singleton.mp new ▸ kept.proper.transparent

/-- Actions leave everything in order and the delivery under way alone. -/
theorem Kept.acts (actions : List Action) :
    ∀ {play : Play σ}, play.Kept rest → (actions.foldl Play.act play).Kept rest ∧
      Document.SameDelivery play.scene.document (actions.foldl Play.act play).scene.document := by
  induction actions with
  | nil => exact fun kept => ⟨kept, .refl _⟩
  | cons action later ih =>
    intro play kept
    obtain ⟨done, unchanged⟩ := ih (kept.act action)
    exact ⟨done, (Scene.moves_act kept.proper.registers action).sameDelivery.trans unchanged⟩

/-! ## Deliveries -/

/-- What holds between two calls of a delivery. -/
structure Busy (rest : List ObserverId) (play : Play σ) : Prop where
  kept : play.Kept rest
  delivering : play.scene.document.delivering = true
  batch : play.scene.document.batch = rest
  idle : play.scene.document.running = []

/-- What holds between the actions of a play. -/
structure Settled (play : Play σ) : Prop where
  kept : play.Kept []
  delivering : play.scene.document.delivering = false
  batch : play.scene.document.batch = []
  idle : play.scene.document.running = []

end Play

namespace Guest

open Play

variable {σ : Type} (guest : Guest σ) {rest : List ObserverId} {play : Play σ}

/-- The play in which an observer is about to be called. -/
def calling (play : Play σ) (id : ObserverId) : Play σ :=
  { play with
    scene := play.scene.withDocument
      { (play.scene.document.takeChanges id).1 with running := [id] } }

theorem kept_calling {id : ObserverId} (busy : play.Busy (id :: rest)) :
    (calling play id).Kept rest where
  proper := busy.kept.proper.dealt.redeliver rfl rfl
    ⟨busy.kept.proper.awaited.dealt.flagged, busy.kept.proper.awaited.dealt.listed⟩
  past := busy.kept.past

/-- Dealing with an observer that has something to hear of. -/
theorem deal_eq_calling {id : ObserverId} (busy : play.Busy (id :: rest))
    (something : play.scene.document.queue id ≠ []) :
    guest.stage.deal id rest play =
      guest.stage.update
        (guest.stage.update (guest.stage.call id (play.scene.document.queue id) (calling play id))
          fun document => { document with running := document.running.erase id })
        fun document => { document with batch := rest } := by
  have running : (play.scene.document.takeChanges id).1.running = [] := busy.idle
  have dealt : guest.stage.deal id rest play = _ :=
    guest.stage.deal_of_queue_ne_nil something busy.idle rest
  rw [dealt]
  simp only [Stage.called, Stage.emptied, Stage.update, stage, calling, Scene.withDocument, running]

theorem kept_call (id : ObserverId) (changes : List Change) (kept : play.Kept rest) :
    (guest.stage.call id changes play).Kept rest ∧
      Document.SameDelivery play.scene.document
        (guest.stage.call id changes play).scene.document := by
  simp only [stage]
  split
  · obtain ⟨done, same⟩ := kept.acts (guest.react id changes play).1
    exact ⟨⟨done.proper, done.past⟩, same⟩
  · exact ⟨⟨kept.proper.hear id changes, kept.past⟩,
      (play.scene.moves_hear id changes).sameDelivery⟩

/-- After a call the delivery goes on with the rest. -/
theorem busy_of_kept {after : Play σ} {id : ObserverId} (kept : after.Kept rest)
    (delivering : after.scene.document.delivering = true)
    (running : after.scene.document.running = [id]) :
    (guest.stage.update
      (guest.stage.update after fun document =>
        { document with running := document.running.erase id })
      fun document => { document with batch := rest }).Busy rest where
  kept := ⟨kept.proper.redeliver rfl rfl ⟨kept.proper.awaited.flagged, kept.proper.awaited.listed⟩,
    kept.past⟩
  delivering := delivering
  batch := rfl
  idle := (congrArg (List.erase · id) running).trans (by simp)

theorem busy_of_queue_eq_nil {id : ObserverId} (busy : play.Busy (id :: rest)) :
    (guest.stage.update (guest.stage.emptied id play) fun document =>
      { document with batch := rest }).Busy rest where
  kept := ⟨busy.kept.proper.dealt.redeliver rfl rfl
    ⟨busy.kept.proper.awaited.dealt.flagged, busy.kept.proper.awaited.dealt.listed⟩,
    busy.kept.past⟩
  delivering := busy.delivering
  batch := rfl
  idle := busy.idle

theorem busy_deal {id : ObserverId} (busy : play.Busy (id :: rest)) :
    (guest.stage.deal id rest play).Busy rest := by
  by_cases nothing : play.scene.document.queue id = []
  · have dealt : guest.stage.deal id rest play = _ :=
      guest.stage.deal_of_queue_eq_nil nothing rest
    rw [dealt]
    exact guest.busy_of_queue_eq_nil busy
  · rw [guest.deal_eq_calling busy nothing]
    obtain ⟨kept, same⟩ := guest.kept_call id (play.scene.document.queue id) (kept_calling busy)
    exact guest.busy_of_kept kept (same.delivering.trans busy.delivering) same.running

theorem busy_beginRound (busy : play.Busy []) :
    (guest.stage.beginRound play).Busy play.scene.document.pending where
  kept := ⟨busy.kept.proper.redeliver rfl rfl ⟨busy.kept.proper.awaited.flagged, fun id waits =>
      .inr ((busy.kept.proper.awaited.listed id waits).elim (fun listed => listed) nofun)⟩,
    busy.kept.past⟩
  delivering := busy.delivering
  batch := rfl
  idle := busy.idle

/-- What holds between two calls is kept by a delivery. -/
theorem rule : guest.stage.Rule Busy where
  round _ busy := guest.busy_beginRound busy
  deal _ _ _ busy := guest.busy_deal busy

theorem busy_commence (settled : play.Settled) : (guest.stage.commence play).Busy [] where
  kept := ⟨settled.kept.proper.redeliver rfl rfl
    ⟨settled.kept.proper.awaited.flagged, settled.kept.proper.awaited.listed⟩, settled.kept.past⟩
  delivering := rfl
  batch := settled.batch
  idle := settled.idle

theorem settled_finish (busy : play.Busy []) : (guest.stage.finish play).Settled where
  kept := ⟨busy.kept.proper.redeliver rfl rfl
    ⟨busy.kept.proper.awaited.flagged, busy.kept.proper.awaited.listed⟩, busy.kept.past⟩
  delivering := rfl
  batch := busy.batch
  idle := busy.idle

/-! ## Plays -/

theorem settled_start (forest : Forest) (host : Host) (state : σ) :
    (Play.start forest host state).Settled where
  kept :=
    { proper :=
        { sound := nofun
          apart := .nil
          foreign := nofun
          known := nofun
          registers := nofun
          awaited := ⟨fun id observer found => by simp [Play.start, Document.ofForest,
            Document.observer?] at found, fun id busy => absurd rfl busy⟩ }
      past := nofun }
  delivering := rfl
  batch := rfl
  idle := rfl

theorem settled_act (settled : play.Settled) (action : Action) : (play.act action).Settled := by
  have same := (Scene.moves_act settled.kept.proper.registers action).sameDelivery
  exact ⟨settled.kept.act action, same.delivering.trans settled.delivering,
    same.batch.trans settled.batch, same.running.trans settled.idle⟩

/-- A play is settled after it was run, or it was left in the middle of a delivery. -/
theorem settled_or_busy_run (limit : Nat) (actions : List Action) :
    ∀ {play : Play σ}, play.Settled →
      (guest.run limit play actions).Settled ∨ (guest.run limit play actions).Busy [] := by
  induction actions with
  | nil => exact fun settled => .inl settled
  | cons action rest ih =>
    intro play settled
    cases action with
    | deliver =>
      rw [run]
      have outcome := guest.rule.deliverWithin limit (settled_act settled .deliver).delivering
        (guest.busy_commence (settled_act settled .deliver))
      generalize guest.stage.deliverWithin limit (play.act .deliver) = result at outcome
      obtain ⟨after, ended⟩ := result
      rcases outcome with ⟨rfl, last, busy, _, rfl⟩ | ⟨rfl, busy⟩
      · exact ih (guest.settled_finish busy)
      · exact .inr busy
    | _ => exact ih (settled_act settled _)

/-- **Whenever a localizer is asked to change its language, or to localize a text or
a tree, its own observers are afterwards as they were: registered for the same
nodes with the same interests, and with the same changes to hear of in the same
order.** -/
theorem transparent_run (limit : Nat) (forest : Forest) (host : Host) (state : σ)
    (actions : List Action) :
    (guest.run limit (Play.start forest host state) actions).Transparent := by
  rcases guest.settled_or_busy_run limit actions (settled_start forest host state) with
    settled | busy
  · exact settled.kept.past
  · exact busy.kept.past

end Guest

end Polyglot
