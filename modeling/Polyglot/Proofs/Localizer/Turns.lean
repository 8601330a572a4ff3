import Polyglot.Proofs.Delivery.Record
import Polyglot.Proofs.Localizer.Play
import Polyglot.Proofs.Localizer.Visits

/-!
# A run, turn by turn

A run of a play is made of turns: somebody acts in a scene, at will or because an
observer of theirs was called, or an observer of a localizer is called.
`Guest.turns` lists the turns of a run, those within deliveries included, and
`Turn.visits` the texts that are visited in one of them.

What a turn keeps of a scene, a run keeps, and what is true of every turn on that
account is true of all turns of the run (`TurnRule.run`). Where something holds of
forests and all visits keep it, only the edits of others remain to be looked at
(`VisitRule.turn`).
-/

set_option autoImplicit false

namespace Polyglot

/-! ## Turns -/

/-- What is done in a scene. -/
inductive Doing where
  /-- Somebody acts. -/
  | act (action : Action)
  /-- An observer of a localizer is called. -/
  | hear (id : ObserverId) (changes : List Change)

/-- A scene, and what is done in it. -/
structure Turn where
  scene : Scene
  doing : Doing

namespace Scene

/-- The visits that an action leads to. -/
def actVisits (scene : Scene) : Action → List Visit
  | .attach options => Localizer.attachVisits scene.document scene.host options
  | .ask id request =>
    match scene.localizer? id with
    | none => []
    | some localizer => localizer.requestVisits scene.document request
  | _ => []

/-- The visits when an observer of a localizer is called. -/
def hearVisits (scene : Scene) (id : ObserverId) (changes : List Change) : List Visit :=
  match scene.localizer? id with
  | none => []
  | some localizer => localizer.hearVisits scene.document id changes

end Scene

namespace Turn

/-- The scene after a turn. -/
def after (turn : Turn) : Scene :=
  match turn.doing with
  | .act action => turn.scene.act action
  | .hear id changes => turn.scene.hear id changes

/-- The visits of a turn. -/
def visits (turn : Turn) : List Visit :=
  match turn.doing with
  | .act action => turn.scene.actVisits action
  | .hear id changes => turn.scene.hearVisits id changes

end Turn

variable {σ : Type}

/-- The turns of several actions, where a delivery is refused. -/
def Play.turns : Play σ → List Action → List Turn
  | _, [] => []
  | play, action :: rest => ⟨play.scene, .act action⟩ :: turns (play.act action) rest

namespace Guest

variable (guest : Guest σ)

/-- The turns when an observer is called. -/
def called (id : ObserverId) (changes : List Change) (play : Play σ) : List Turn :=
  if id ∈ play.scene.handles then play.turns (guest.react id changes play).1
  else [⟨play.scene, .hear id changes⟩]

/-- The turns of a run. -/
def turns (limit : Nat) (play : Play σ) : List Action → List Turn
  | [] => []
  | .deliver :: rest =>
    ⟨play.scene, .act .deliver⟩ ::
      (guest.stage.recordDelivery guest.called limit (play.act .deliver) ++
        match guest.stage.deliverWithin limit (play.act .deliver) with
        | (after, true) => turns limit after rest
        | (_, false) => [])
  | action :: rest => ⟨play.scene, .act action⟩ :: turns limit (play.act action) rest

section Cons

variable {guest} {limit : Nat} {play : Play σ} {action : Action} (rest : List Action)
  (other : action ≠ .deliver)
include other

theorem run_cons :
    guest.run limit play (action :: rest) = guest.run limit (play.act action) rest := by
  cases action <;> first | rfl | exact absurd rfl other

theorem turns_cons :
    guest.turns limit play (action :: rest) =
      ⟨play.scene, .act action⟩ :: guest.turns limit (play.act action) rest := by
  cases action <;> first | rfl | exact absurd rfl other

end Cons

end Guest

/-! ## What turns keep -/

/-- What an admitted turn keeps of a scene, and what is true of the turn meanwhile. -/
structure TurnRule (Admitted Sound : Turn → Prop) (Holds : Scene → Prop) : Prop where
  withDocument : ∀ (scene : Scene) (document : Document),
    document.forest = scene.document.forest → Holds scene → Holds (scene.withDocument document)
  turn : ∀ turn : Turn, Holds turn.scene → Admitted turn → Holds turn.after ∧ Sound turn

namespace TurnRule

variable {Admitted Sound : Turn → Prop} {Holds : Scene → Prop}
  (rule : TurnRule Admitted Sound Holds)
include rule

/-- Actions that follow each other. -/
theorem acts (actions : List Action) :
    ∀ play : Play σ, Holds play.scene → (∀ turn ∈ play.turns actions, Admitted turn) →
      Holds (actions.foldl Play.act play).scene ∧ ∀ turn ∈ play.turns actions, Sound turn := by
  induction actions with
  | nil => exact fun _ holds _ => ⟨holds, fun _ listed => absurd listed List.not_mem_nil⟩
  | cons action rest ih =>
    intro play holds admitted
    rw [Play.turns, List.forall_mem_cons] at admitted ⊢
    obtain ⟨next, sound⟩ := rule.turn _ holds admitted.1
    obtain ⟨last, others⟩ := ih (play.act action) next admitted.2
    exact ⟨last, sound, others⟩

/-- Calls keep what turns keep. -/
theorem keeps (guest : Guest σ) :
    guest.stage.Keeps guest.called Admitted Sound fun play => Holds play.scene where
  update play change same holds := rule.withDocument play.scene _ (same play.scene.document) holds
  call id changes play holds admitted := by
    by_cases mine : id ∈ play.scene.handles
    · simp only [Guest.called, Guest.stage, if_pos mine] at admitted ⊢
      exact rule.acts _ play holds admitted
    · simp only [Guest.called, Guest.stage, if_neg mine, List.forall_mem_singleton] at admitted ⊢
      exact rule.turn ⟨play.scene, .hear id changes⟩ holds admitted
  passOver _ _ _ holds := holds

/-- **What a turn keeps, a run keeps**, and what is true of a turn meanwhile is true of
every turn of the run. -/
theorem run (guest : Guest σ) (limit : Nat) (actions : List Action) :
    ∀ play : Play σ, Holds play.scene → (∀ turn ∈ guest.turns limit play actions, Admitted turn) →
      Holds (guest.run limit play actions).scene ∧
        ∀ turn ∈ guest.turns limit play actions, Sound turn := by
  induction actions with
  | nil => exact fun _ holds _ => ⟨holds, fun _ listed => absurd listed List.not_mem_nil⟩
  | cons action rest ih =>
    intro play holds admitted
    by_cases delivery : action = .deliver
    · subst delivery
      rw [Guest.turns, List.forall_mem_cons, List.forall_mem_append] at admitted ⊢
      obtain ⟨asked, meanwhile, later⟩ := admitted
      obtain ⟨next, sound⟩ := rule.turn _ holds asked
      obtain ⟨delivered, heard⟩ :=
        (rule.keeps guest).deliverWithin limit (play.act .deliver) next meanwhile
      rw [Guest.run]
      generalize guest.stage.deliverWithin limit (play.act .deliver) = result
        at later delivered ⊢
      obtain ⟨after, ended⟩ := result
      cases ended with
      | true =>
        obtain ⟨last, others⟩ := ih after delivered later
        exact ⟨last, sound, heard, others⟩
      | false =>
        exact ⟨delivered, sound, heard, fun _ listed => absurd listed List.not_mem_nil⟩
    · rw [Guest.turns_cons rest delivery, List.forall_mem_cons] at admitted ⊢
      rw [Guest.run_cons rest delivery]
      obtain ⟨next, sound⟩ := rule.turn _ holds admitted.1
      obtain ⟨last, others⟩ := ih _ next admitted.2
      exact ⟨last, sound, others⟩

end TurnRule

/-! ## Turns and visits -/

/-- Whoever uses an observer without touching the forest leaves it as it is. -/
theorem Scene.forest_onHandle (scene : Scene) (id : ObserverId) {change : Document → Document}
    (same : (change scene.document).forest = scene.document.forest) :
    (scene.onHandle id change).document.forest = scene.document.forest := by
  unfold Scene.onHandle
  split
  · exact same
  · rfl

namespace VisitRule

variable {Holds : Forest → Prop} {Sound : Visit → Prop} (rule : VisitRule Holds Sound)
include rule

/-- **A turn keeps what visits keep**, if it is no edit or an edit that keeps it. -/
theorem turn {turn : Turn} (holds : Holds turn.scene.document.forest)
    (added : ∀ content, turn.doing = .act (.addNode content) →
      Holds (turn.scene.document.forest.add content).1)
    (edited : ∀ edit, turn.doing = .act (.edit edit) →
      Holds (edit.carryOut turn.scene.document).forest) :
    Holds turn.after.document.forest ∧ ∀ visit ∈ turn.visits, Sound visit := by
  have unnoted : ∀ visit ∈ ([] : List Visit), Sound visit :=
    fun _ listed => absurd listed List.not_mem_nil
  obtain ⟨scene, doing⟩ := turn
  have onHandle : ∀ (id : ObserverId) (change : Document → Document),
      (change scene.document).forest = scene.document.forest →
      Holds (scene.onHandle id change).document.forest := by
    intro id change same
    rw [scene.forest_onHandle id same]
    exact holds
  cases doing with
  | hear id changes =>
    simp only [Turn.after, Turn.visits, Scene.hear, Scene.hearVisits]
    cases scene.localizer? id with
    | none => exact ⟨holds, unnoted⟩
    | some localizer => exact rule.hear localizer holds id changes
  | act action =>
    cases action with
    | addNode content => exact ⟨added content rfl, unnoted⟩
    | edit edit => exact ⟨edited edit rfl, unnoted⟩
    | attach options =>
      obtain ⟨done, sound⟩ := rule.attach holds scene.host options
      refine ⟨?_, sound⟩
      simp only [Turn.after, Scene.act]
      cases attached : Localizer.attach scene.document scene.host options with
      | error problem => exact holds
      | ok made => exact done made.1 made.2 attached
    | ask id request =>
      simp only [Turn.after, Turn.visits, Scene.act, Scene.actVisits]
      cases scene.localizer? id with
      | none => exact ⟨holds, unnoted⟩
      | some localizer => exact rule.fulfil localizer holds scene.host request
    | drop id =>
      refine ⟨?_, unnoted⟩
      simp only [Turn.after, Scene.act]
      cases scene.localizer? id <;> exact holds
    | release id => exact ⟨onHandle id _ rfl, unnoted⟩
    | observe id target interest => exact ⟨onHandle id _ rfl, unnoted⟩
    | disconnect id => exact ⟨onHandle id _ rfl, unnoted⟩
    | take id => exact ⟨onHandle id _ rfl, unnoted⟩
    | _ => exact ⟨holds, unnoted⟩

end VisitRule

end Polyglot
