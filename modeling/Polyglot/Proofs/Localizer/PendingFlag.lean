import Polyglot.Proofs.Document.Lingering
import Polyglot.Proofs.Localizer.Quiet
import Polyglot.Proofs.Localizer.Turns

/-!
# Whether a document has anything to deliver

A document counts as having something to deliver when anybody is to be called. Between
the deliveries of a play that is so just when somebody has something to hear of, or when
the changes of an observer were taken from it since the last delivery and it was not
stopped afterwards (`Guest.hasPending_run`): such an observer stays on the list of those
to be called although nothing is left for it.

A localizer takes the changes of its observers too, when it suspends its watch, but it
stops them in the same breath and gives back later what it took, so nothing that it is
asked for leaves an observer lingering (`Watch.lingers_resume`). A delivery that comes to
its end leaves nobody on the list.
-/

set_option autoImplicit false

namespace Polyglot

open Document

namespace Watch

variable {before middle : Document} {id other : ObserverId}

/-- Whoever is withheld is stopped, so nobody lingers that did not before. -/
theorem lingers_withhold (lingers : (withhold before other).1.Lingers id) : before.Lingers id := by
  unfold withhold at lingers
  split at lingers
  · obtain ⟨different, taken⟩ := lingers.of_disconnect
    exact taken.of_takeChanges different
  · exact lingers

theorem lingers_restore {registration : Registration}
    (known : before.Knows registration.observer) {changes? : Option (List Change)}
    (lingers : (restore before registration changes?).Lingers id) : before.Lingers id := by
  cases changes? with
  | none => exact lingers
  | some changes =>
    have observed : (before.observe registration.observer registration.target
        registration.interest).Lingers id := by
      rw [restore] at lingers
      exact lingers.of_requeue known
    exact observed

/-- Starting a watch makes nobody linger. -/
theorem lingers_start (watch : Watch) (lingers : (watch.start before).Lingers id) :
    before.Lingers id :=
  lingers

/-- **Suspending and resuming a watch makes nobody linger**, whatever edits are made
meanwhile. -/
theorem lingers_resume {watch : Watch} (sound : watch.Sound before)
    (registers : before.RegistersKnown) (edits : Moves nobody (watch.suspend before).1 middle)
    (lingers : (watch.resume (watch.suspend before).2 middle).Lingers id) :
    before.Lingers id := by
  have suspended := moves_suspend watch before
  have known : ∀ id, watch.Owns id → middle.Knows id := fun id mine =>
    edits.knows (suspended.knows (sound.knows mine))
  have textsBack := moves_restore middle watch.textsRegistration (watch.suspend before).2.texts?
  rw [resume_eq_restore] at lingers
  have restored := lingers_restore (textsBack.knows (known _ (.inr rfl))) lingers
  have edited := lingers_restore (known _ (.inl rfl)) restored
  have withheld := edits.lingers (suspended.registersKnown (fun _ mine => sound.knows mine)
    registers) (fun _ mine => mine.elim) (fun mine => mine) edited
  exact lingers_withhold (lingers_withhold withheld)

end Watch

/-! ## What a localizer does -/

/-- What becomes of a document when edits are made to it while a watch is suspended, if
any are. -/
inductive Meanwhile (watch : Watch) (before : Document) : Document → Prop where
  | nothing : Meanwhile watch before before
  | edits {middle : Document} (edits : Moves nobody (watch.suspend before).1 middle) :
      Meanwhile watch before (watch.resume (watch.suspend before).2 middle)

theorem Meanwhile.lingers {watch : Watch} {before after : Document} {id : ObserverId}
    (meanwhile : Meanwhile watch before after) (sound : watch.Sound before)
    (registers : before.RegistersKnown) (lingers : after.Lingers id) : before.Lingers id := by
  cases meanwhile with
  | nothing => exact lingers
  | edits edits => exact Watch.lingers_resume sound registers edits lingers

namespace Localizer

variable (localizer : Localizer) (document : Document) (host : Host)

theorem meanwhile_localizeTreeUnheard (root : NodeId) (source : Text) :
    Meanwhile localizer.watch document (localizer.localizeTreeUnheard document root source).2.1 :=
  .edits (localizer.moves_localizeTree _ root source)

theorem meanwhile_localizeTextUnheard (node : NodeId) (source : Text) :
    Meanwhile localizer.watch document (localizer.localizeTextUnheard document node source).1 := by
  unfold localizeTextUnheard
  dsimp only
  split
  · next localized => exact .edits (localizer.moves_localizeText _ localized)
  · exact .edits .refl

theorem meanwhile_changeLanguage (language : Text) :
    Meanwhile localizer.watch document
      (localizer.changeLanguage document host language).2.1 := by
  unfold changeLanguage
  dsimp only
  split
  · exact .nothing
  · exact (localizer.keepLanguage host language).1.meanwhile_localizeTreeUnheard document _ _

variable {localizer document} {id : ObserverId}

/-- Nothing that a localizer is asked for makes anybody linger. -/
theorem lingers_fulfil (sound : localizer.watch.Sound document)
    (registers : document.RegistersKnown) (request : Request)
    (lingers : (localizer.fulfil document host request).2.1.Lingers id) :
    document.Lingers id := by
  cases request with
  | changeLanguage language =>
    exact (localizer.meanwhile_changeLanguage document host language).lingers sound registers
      lingers
  | localizeText node source =>
    exact (localizer.meanwhile_localizeTextUnheard document node source).lingers sound registers
      lingers
  | localizeTree root source =>
    exact (localizer.meanwhile_localizeTreeUnheard document root source).lingers sound registers
      lingers
  | stopTexts => exact lingers.of_disconnect.2
  | stopNodes => exact lingers.of_disconnect.2
  | _ => exact lingers

/-- Attaching a localizer makes nobody linger. -/
theorem lingers_attach (registers : document.RegistersKnown) {options : LocalizerOptions}
    {after : Document} (attached : attach document host options = .ok (localizer, after))
    (lingers : after.Lingers id) : document.Lingers id := by
  rw [attach] at attached
  cases valid : options.catalog.validate with
  | error problem =>
    rw [valid] at attached
    cases attached
  | ok _ =>
    rw [valid] at attached
    cases attached
    have created : Moves nobody document (create document host options).2 :=
      moves_create document host options
    have sound : (create document host options).1.watch.Sound (create document host options).2 :=
      Watch.sound_new registers _
    have pass := (create document host options).1.meanwhile_localizeTreeUnheard
      (create document host options).2 (create document host options).1.watch.target
      (create document host options).1.htmlLanguage
    have before := pass.lingers sound
      (created.registersKnown (fun _ mine => mine.elim) registers) (Watch.lingers_start _ lingers)
    exact created.lingers registers (fun _ mine => mine.elim) (fun mine => mine) before

end Localizer

/-! ## Actions -/

namespace Scene

variable {scene : Scene} {rest : List ObserverId} {id : ObserverId}

theorem mem_handles_act (mine : id ∈ scene.handles) (action : Action) :
    id ∈ (scene.act action).handles := by
  have onHandle : ∀ other change, id ∈ (scene.onHandle other change).handles := by
    intro other change
    unfold Scene.onHandle
    split <;> exact mine
  cases action with
  | addObserver => exact List.mem_cons_of_mem _ mine
  | release other => exact onHandle other _
  | observe other target interest => exact onHandle other _
  | disconnect other => exact onHandle other _
  | take other => exact onHandle other _
  | attach options =>
    unfold Scene.act
    dsimp only
    split <;> exact mine
  | drop other =>
    unfold Scene.act
    dsimp only
    split <;> exact mine
  | ask other request =>
    unfold Scene.act
    dsimp only
    split <;> exact mine
  | _ => exact mine

/-- Something was done to an observer that was made in the scene, or nothing was done. -/
theorem onHandle_cases (other : ObserverId) (change : Document → Document) :
    scene.onHandle other change = scene ∨
      other ∈ scene.handles ∧ scene.onHandle other change =
        scene.withDocument (change scene.document) := by
  unfold onHandle
  split
  · next mine => exact .inr ⟨mine, rfl⟩
  · exact .inl rfl

/-- A localizer was attached, or nothing became of the document. -/
theorem document_attach_cases (options : LocalizerOptions) :
    (scene.act (.attach options)).document = scene.document ∨
      ∃ localizer, Localizer.attach scene.document scene.host options =
        .ok (localizer, (scene.act (.attach options)).document) := by
  simp only [act]
  split
  · exact .inl rfl
  · next localizer document attached => exact .inr ⟨localizer, attached⟩

/-- The observers of a localizer were let go, or nothing became of the document. -/
theorem document_drop_cases (other : ObserverId) :
    (scene.act (.drop other)).document = scene.document ∨
      ∃ watch : Watch, (scene.act (.drop other)).document = watch.release scene.document := by
  simp only [act]
  split
  · exact .inl rfl
  · next localizer _ => exact .inr ⟨localizer.watch, rfl⟩

/-- A localizer of the scene did what it was asked for, or nothing became of the document. -/
theorem document_ask_cases (other : ObserverId) (request : Request) :
    (scene.act (.ask other request)).document = scene.document ∨
      ∃ localizer : Localizer, localizer.watch ∈ scene.watches ∧
        (scene.act (.ask other request)).document =
          (localizer.fulfil scene.document scene.host request).2.1 := by
  simp only [act]
  split
  · exact .inl rfl
  · next localizer found => exact .inr ⟨localizer, mem_watches (localizer?_eq_some found).1, rfl⟩

/-- **Taking what an observer had to hear of is all that makes it linger.** -/
theorem Proper.lingers_act (proper : scene.Proper rest) {action : Action}
    (lingers : (scene.act action).document.Lingers id) :
    scene.document.Lingers id ∨
      action = .take id ∧ id ∈ scene.handles ∧ scene.document.queue id ≠ [] := by
  have edited : ∀ document, Moves nobody scene.document document → document.Lingers id →
      scene.document.Lingers id := fun _ moves =>
    moves.lingers proper.registers (fun _ mine => mine.elim) fun mine => mine
  have onHandle : ∀ other (change : Document → Document),
      (scene.onHandle other change).document.Lingers id →
        scene.document.Lingers id ∨
          other ∈ scene.handles ∧ (change scene.document).Lingers id := by
    intro other change lingers
    rcases scene.onHandle_cases other change with same | ⟨mine, changed⟩
    · rw [same] at lingers
      exact .inl lingers
    · rw [changed] at lingers
      exact .inr ⟨mine, lingers⟩
  cases action with
  | addNode content => exact .inl (edited _ (moves_addNode scene.document content) lingers)
  | edit edit => exact .inl (edited _ (moves_carryOut scene.document edit) lingers)
  | addObserver => exact .inl (edited _ (.single (.addObserver _)) lingers)
  | release other =>
    refine .inl ((onHandle other _ lingers).elim (fun before => before) fun released => ?_)
    exact ⟨released.2.1, (queue_release scene.document other id).symm.trans released.2.2⟩
  | observe other target interest =>
    exact .inl ((onHandle other _ lingers).elim (fun before => before) And.right)
  | disconnect other =>
    exact .inl ((onHandle other _ lingers).elim (fun before => before) fun stopped =>
      stopped.2.of_disconnect.2)
  | take other =>
    rcases onHandle other _ lingers with before | ⟨mine, taken⟩
    · exact .inl before
    · by_cases same : id = other
      · subst same
        by_cases nothing : scene.document.queue id = []
        · exact .inl ⟨taken.1, nothing⟩
        · exact .inr ⟨rfl, mine, nothing⟩
      · exact .inl (taken.of_takeChanges same)
  | attach options =>
    rcases scene.document_attach_cases options with same | ⟨localizer, attached⟩
    · exact .inl (same ▸ lingers)
    · exact .inl (Localizer.lingers_attach scene.host proper.registers attached lingers)
  | drop other =>
    rcases scene.document_drop_cases other with same | ⟨watch, released⟩
    · exact .inl (same ▸ lingers)
    · rw [released] at lingers
      obtain ⟨listed, nothing⟩ := lingers
      simp only [Watch.release, queue_release] at nothing
      exact .inl ⟨listed, nothing⟩
  | ask other request =>
    rcases scene.document_ask_cases other request with same | ⟨localizer, mine, fulfilled⟩
    · exact .inl (same ▸ lingers)
    · rw [fulfilled] at lingers
      have sound := proper.sound _ mine
      exact .inl (Localizer.lingers_fulfil scene.host sound proper.registers request lingers)
  | _ => exact .inl lingers

/-- An observer that was stopped does not linger. -/
theorem not_lingers_disconnect (mine : id ∈ scene.handles) :
    ¬ (scene.act (.disconnect id)).document.Lingers id := by
  intro lingers
  simp only [act, Scene.onHandle, if_pos mine] at lingers
  exact lingers.of_disconnect.1 rfl

/-- **Only by stopping it is an observer taken off the list**, as far as single actions
go. -/
theorem Proper.mem_pending_act (proper : scene.Proper rest) (mine : id ∈ scene.handles)
    (listed : id ∈ scene.document.pending) {action : Action} (spared : action ≠ .disconnect id) :
    id ∈ (scene.act action).document.pending := by
  have edited : ∀ document, Moves nobody scene.document document → id ∈ document.pending :=
    fun _ moves => moves.mem_pending (fun mine => mine) listed
  have onHandle : ∀ other (change : Document → Document),
      id ∈ (change scene.document).pending →
        id ∈ (scene.onHandle other change).document.pending := by
    intro other change still
    rcases scene.onHandle_cases other change with same | ⟨_, changed⟩
    · rw [same]
      exact listed
    · rw [changed]
      exact still
  cases action with
  | addNode content => exact edited _ (moves_addNode scene.document content)
  | edit edit => exact edited _ (moves_carryOut scene.document edit)
  | release other => exact onHandle other _ listed
  | observe other target interest => exact onHandle other _ listed
  | disconnect stopped =>
    have different : id ≠ stopped := fun same => spared (same ▸ rfl)
    exact onHandle stopped _ (List.mem_filter.mpr ⟨listed, by simpa using different⟩)
  | take other => exact onHandle other _ listed
  | attach options =>
    rcases scene.document_attach_cases options with same | ⟨localizer, attached⟩
    · rw [same]
      exact listed
    · obtain ⟨created, made, _, moves, _, new⟩ :=
        localizer.exists_created scene.document proper.registers attached
      have foreign : ¬ localizer.watch.Owns id := fun theirs =>
        new id theirs (proper.known id mine)
      exact moves.mem_pending foreign (edited created made)
  | drop other =>
    rcases scene.document_drop_cases other with same | ⟨watch, released⟩
    · rw [same]
      exact listed
    · rw [released]
      exact listed
  | ask other request =>
    rcases scene.document_ask_cases other request with same | ⟨localizer, theirs, fulfilled⟩
    · rw [same]
      exact listed
    · rw [fulfilled]
      have foreign := proper.foreign id mine _ theirs
      exact (localizer.moves_fulfil scene.document scene.host request).mem_pending foreign listed
  | _ => exact listed

end Scene

/-! ## Plays -/

namespace Guest

open Play

variable {σ : Type} (guest : Guest σ) (limit : Nat) {play : Play σ} {id : ObserverId}

/-- A delivery that comes to its end leaves nobody to be called. -/
theorem deliverWithin_cases (settled : play.Settled) :
    (∃ after, guest.stage.deliverWithin limit (play.act .deliver) = (after, true) ∧
        after.Settled ∧ after.scene.document.pending = []) ∨
      ∃ after, guest.stage.deliverWithin limit (play.act .deliver) = (after, false) ∧
        after.scene.document.delivering = true := by
  have asked := settled_act settled .deliver
  have outcome := guest.rule.deliverWithin limit asked.delivering (guest.busy_commence asked)
  generalize guest.stage.deliverWithin limit (play.act .deliver) = result at outcome
  obtain ⟨after, ended⟩ := result
  rcases outcome with ⟨rfl, last, busy, nobody, rfl⟩ | ⟨rfl, busy⟩
  · exact .inl ⟨_, rfl, guest.settled_finish busy, nobody⟩
  · exact .inr ⟨_, rfl, busy.delivering⟩

section Deliver

variable {after : Play σ} (rest : List Action)

theorem run_deliver
    (ended : guest.stage.deliverWithin limit (play.act .deliver) = (after, true)) :
    guest.run limit play (.deliver :: rest) = guest.run limit after rest := by
  rw [run, ended]

theorem run_deliver_of_unended
    (unended : guest.stage.deliverWithin limit (play.act .deliver) = (after, false)) :
    guest.run limit play (.deliver :: rest) = after := by
  rw [run, unended]

end Deliver

/-- A run that comes out of all its deliveries goes on from where it has come to. -/
theorem run_append (earlier later : List Action) :
    ∀ {play : Play σ}, play.Settled →
      (guest.run limit play (earlier ++ later)).scene.document.delivering = false →
      (guest.run limit play earlier).Settled ∧
        guest.run limit play (earlier ++ later) =
          guest.run limit (guest.run limit play earlier) later := by
  induction earlier with
  | nil => exact fun settled _ => ⟨settled, rfl⟩
  | cons action rest ih =>
    intro play settled idle
    rw [List.cons_append] at idle ⊢
    by_cases delivery : action = .deliver
    · subst delivery
      rcases guest.deliverWithin_cases limit settled with
        ⟨after, ended, next, _⟩ | ⟨after, unended, busy⟩
      · rw [guest.run_deliver limit _ ended] at idle ⊢
        rw [guest.run_deliver limit _ ended]
        exact ih next idle
      · rw [guest.run_deliver_of_unended limit _ unended, busy] at idle
        cases idle
    · rw [run_cons _ delivery] at idle ⊢
      rw [run_cons _ delivery]
      exact ih (settled_act settled action) idle

/-- Among the actions of a play the changes of an observer were taken while there were
some, and after that nothing was delivered and the observer was not stopped. -/
def TakenFrom (play : Play σ) (actions : List Action) (id : ObserverId) : Prop :=
  ∃ earlier later, actions = earlier ++ .take id :: later ∧
    (∀ action ∈ later, action ≠ .deliver ∧ action ≠ .disconnect id) ∧
    id ∈ (guest.run limit play earlier).scene.handles ∧
    (guest.run limit play earlier).scene.document.queue id ≠ []

theorem TakenFrom.cons {before : Play σ} {action : Action} {actions : List Action}
    (first : ∀ rest, guest.run limit before (action :: rest) = guest.run limit play rest)
    (taken : guest.TakenFrom limit play actions id) :
    guest.TakenFrom limit before (action :: actions) id := by
  obtain ⟨earlier, later, rfl, spared, mine, waits⟩ := taken
  refine ⟨action :: earlier, later, rfl, spared, ?_, ?_⟩
  · rw [first]
    exact mine
  · rw [first]
    exact waits

/-- Whoever lingers after a play lingered before it, or had its changes taken. -/
theorem lingers_run (actions : List Action) :
    ∀ {play : Play σ}, play.Settled →
      (guest.run limit play actions).scene.document.delivering = false →
      (guest.run limit play actions).scene.document.Lingers id →
        (play.scene.document.Lingers id ∧ (id ∈ play.scene.handles →
          ∀ action ∈ actions, action ≠ .deliver ∧ action ≠ .disconnect id)) ∨
        guest.TakenFrom limit play actions id := by
  induction actions with
  | nil =>
    intro _ _ _ lingers
    exact .inl ⟨lingers, fun _ _ listed => absurd listed List.not_mem_nil⟩
  | cons action rest ih =>
    intro play settled idle lingers
    by_cases delivery : action = .deliver
    · subst delivery
      rcases guest.deliverWithin_cases limit settled with
        ⟨after, ended, next, nobody⟩ | ⟨after, unended, busy⟩
      · rw [guest.run_deliver limit _ ended] at idle lingers
        rcases ih next idle lingers with ⟨before, _⟩ | taken
        · -- whoever lingered right after a delivery would be on a list that is empty
          exact absurd (nobody ▸ before.1) List.not_mem_nil
        · exact .inr (taken.cons guest limit fun rest => guest.run_deliver limit rest ended)
      · rw [guest.run_deliver_of_unended limit _ unended, busy] at idle
        cases idle
    · rw [run_cons _ delivery] at idle lingers
      rcases ih (settled_act settled action) idle lingers with ⟨afterwards, spared⟩ | taken
      · rcases settled.kept.proper.lingers_act afterwards with before | ⟨rfl, mine, waits⟩
        · refine .inl ⟨before, fun mine => ?_⟩
          rw [List.forall_mem_cons]
          refine ⟨⟨delivery, fun stop => ?_⟩, spared (Scene.mem_handles_act mine action)⟩
          subst stop
          exact Scene.not_lingers_disconnect mine afterwards
        · exact .inr ⟨[], rest, rfl, spared (Scene.mem_handles_act mine _), mine, waits⟩
      · exact .inr (taken.cons guest limit fun rest => run_cons rest delivery)

/-- Without a delivery, an observer that is not stopped stays on the list. -/
theorem mem_pending_run (actions : List Action)
    (spared : ∀ action ∈ actions, action ≠ .deliver ∧ action ≠ .disconnect id) :
    ∀ {play : Play σ}, play.Settled → id ∈ play.scene.handles →
      id ∈ play.scene.document.pending →
        id ∈ (guest.run limit play actions).scene.document.pending := by
  induction actions with
  | nil => exact fun _ _ listed => listed
  | cons action rest ih =>
    intro play settled mine listed
    obtain ⟨⟨delivery, stop⟩, later⟩ := List.forall_mem_cons.mp spared
    rw [run_cons _ delivery]
    exact ih later (settled_act settled action) (Scene.mem_handles_act mine action)
      (settled.kept.proper.mem_pending_act mine listed stop)

/-- Whoever had its changes taken is still to be called. -/
theorem TakenFrom.mem_pending {actions : List Action} (settled : play.Settled)
    (idle : (guest.run limit play actions).scene.document.delivering = false)
    (taken : guest.TakenFrom limit play actions id) :
    id ∈ (guest.run limit play actions).scene.document.pending := by
  obtain ⟨earlier, later, rfl, spared, mine, waits⟩ := taken
  obtain ⟨next, joined⟩ := guest.run_append limit earlier (.take id :: later) settled idle
  have listed : id ∈ (guest.run limit play earlier).scene.document.pending :=
    (next.kept.proper.awaited.listed id waits).resolve_right List.not_mem_nil
  rw [joined]
  refine guest.mem_pending_run limit _ ?_ next mine listed
  exact List.forall_mem_cons.mpr ⟨⟨nofun, nofun⟩, spared⟩

/-- **Between deliveries a document counts as having something to deliver just when
somebody has something to hear of, or the changes of an observer were taken from it since
the last delivery and it was not stopped afterwards.** -/
theorem hasPending_run (forest : Forest) (host : Host) (state : σ) (actions : List Action)
    (idle : (guest.run limit (Play.start forest host state) actions).scene.document.delivering
      = false) :
    (guest.run limit (Play.start forest host state) actions).scene.document.hasPending = true ↔
      (∃ id, (guest.run limit (Play.start forest host state) actions).scene.document.queue id
        ≠ []) ∨
      ∃ id, guest.TakenFrom limit (Play.start forest host state) actions id := by
  have begun : (Play.start forest host state).Settled := settled_start forest host state
  have settled : (guest.run limit (Play.start forest host state) actions).Settled :=
    (guest.settled_or_busy_run limit actions begun).resolve_right fun busy => by
      rw [busy.delivering] at idle
      cases idle
  have pending := settled.kept.proper.awaited.hasPending_eq_true_iff
  constructor
  · intro something
    refine (pending.mp something).imp_right fun ⟨id, lingers⟩ => ⟨id, ?_⟩
    -- nobody lingers at the start, since nobody is to be called there
    exact (guest.lingers_run limit actions begun idle lingers).resolve_left fun before =>
      List.not_mem_nil before.1.1
  · rintro (waits | ⟨id, taken⟩)
    · exact pending.mpr (.inl waits)
    · -- something new may have come since, and then the first case holds as well
      rw [hasPending_eq_true_iff]
      exact ⟨id, taken.mem_pending guest limit begun idle⟩

/-- A play in which an observer hears of an edit, and its changes are taken. -/
def peeked : Play Unit :=
  silent.run 1
    (Play.start ⟨#[⟨.document, none, [1]⟩, ⟨.text ['a'], some 0, []⟩]⟩ (.new 0) ())
    [.addObserver, .observe 0 1 .texts, .edit (.setText 1 ['b']), .take 0]

/-- The changes were taken, and nothing was delivered since. -/
theorem hasPending_run_peeked :
    peeked.scene.document.delivering = false ∧
      (peeked.scene.document.hasPending = true ↔
        (∃ id, peeked.scene.document.queue id ≠ []) ∨
        ∃ id, silent.TakenFrom 1
          (Play.start ⟨#[⟨.document, none, [1]⟩, ⟨.text ['a'], some 0, []⟩]⟩ (.new 0) ())
          [.addObserver, .observe 0 1 .texts, .edit (.setText 1 ['b']), .take 0] id) := by
  have idle : peeked.scene.document.delivering = false := by decide
  exact ⟨idle, silent.hasPending_run 1 _ _ _ _ idle⟩

/-- Nobody has anything to hear of, and still the document counts as having something to
deliver. -/
theorem hasPending_peeked :
    peeked.scene.document.hasPending = true ∧
      ¬ ∃ id, peeked.scene.document.queue id ≠ [] := by
  refine ⟨by decide, ?_⟩
  rintro ⟨id, waits⟩
  have one : peeked.scene.document.observers.size = 1 := by decide
  by_cases first : id = 0
  · subst first
    exact waits (by decide)
  · refine waits (queue_eq_nil_of_not_knows fun known => ?_)
    rw [Knows, one] at known
    exact first (Nat.lt_one_iff.mp known)

end Guest

end Polyglot
