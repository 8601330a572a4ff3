import Polyglot.Proofs.Document.Drawing
import Polyglot.Proofs.Localizer.Delivered

/-!
# What is written is heard of

While a localizer is at work, whatever text others write in its subtree or bring into it
waits for the localizer to hear of it: the text is the target of a change that waits, or
it is at a node that came or below one (`Watch.Names`). Edits do not change that as long
as the text is in the subtree, wherever it is moved to (`Watch.names_stroke`).

So each such text is visited in the next delivery at least once, and just as often as it
is named (`Guest.deliver?_written`). It may be named more than once, and then a visit
starts from what the one before made of the text, which is in another language already.
-/

set_option autoImplicit false

namespace Polyglot

/-! ## Watches at work -/

namespace Watch

variable (watch : Watch) {document : Document}

/-- Both observers of a watch are at work and held by somebody. -/
structure Alert (document : Document) : Prop where
  registers : document.RegistersKnown
  texts : watch.textsRegistration ∈ document.registrations
  nodes : watch.nodesRegistration ∈ document.registrations
  textsHeld : document.isHeld watch.texts = true
  nodesHeld : document.isHeld watch.nodes = true

variable {watch}

theorem Attends.registered_of_isObserving {registration : Registration}
    (attends : Attends document registration)
    (observing : document.isObserving registration.observer = true) :
    registration ∈ document.registrations := by
  have listed : registration ∈ document.registrationsOf registration.observer := by
    rw [attends.registrationsOf_of_isObserving observing]
    exact List.mem_singleton_self registration
  exact (List.mem_filter.mp listed).1

theorem Sound.alert (sound : watch.Sound document) (registers : document.RegistersKnown)
    (texts : watch.watchesTexts document = true) (nodes : watch.watchesNodes document = true) :
    watch.Alert document where
  registers := registers
  texts := Attends.registered_of_isObserving sound.texts texts
  nodes := Attends.registered_of_isObserving sound.nodes nodes
  textsHeld := sound.texts.held
  nodesHeld := sound.nodes.held

namespace Alert

variable (alert : watch.Alert document)
include alert

theorem withForest (forest : Forest) : watch.Alert (document.withForest forest) :=
  ⟨alert.registers, alert.texts, alert.nodes, alert.textsHeld, alert.nodesHeld⟩

theorem report (change : Change) : watch.Alert (document.report change) where
  registers := alert.registers.of_subset (Nat.le_of_eq (document.size_report change).symm)
    fun _ listed => .inl (document.registrations_report change ▸ listed)
  texts := document.registrations_report change ▸ alert.texts
  nodes := document.registrations_report change ▸ alert.nodes
  textsHeld := (document.isHeld_report change _).trans alert.textsHeld
  nodesHeld := (document.isHeld_report change _).trans alert.nodesHeld

theorem stroke (stroke : Stroke) : watch.Alert (document.stroke stroke) := by
  unfold Document.stroke
  split
  · exact alert.withForest _
  · exact (alert.withForest _).report _

/-- A change in the subtree comes to be waiting for one of the observers. -/
theorem mem_queue_stroke {forest : Forest} {change : Change}
    (covered : forest.isInclusiveAncestor watch.target change.target = true) :
    change ∈ (document.stroke ⟨forest, some change⟩).queue
      (if change.isText then watch.texts else watch.nodes) := by
  have after := alert.withForest forest
  refine Document.mem_queue_report after.registers ?_
  cases kind : change.isText with
  | true =>
    exact Document.mem_concerned after.texts covered rfl
      (by simp [Watch.textsRegistration, Interest.accepts, Interest.texts, kind])
      (by simp [Watch.textsRegistration, Document.isLive, after.textsHeld])
  | false =>
    exact Document.mem_concerned after.nodes covered rfl
      (by simp [Watch.nodesRegistration, Interest.accepts, Interest.nodes, kind])
      (by simp [Watch.nodesRegistration, Document.isLive, after.nodesHeld])

theorem queue_subset_stroke (stroke : Stroke) (id : ObserverId) :
    document.queue id ⊆ (document.stroke stroke).queue id := by
  have same : (document.withForest stroke.forest).queue id = document.queue id :=
    Document.queue_eq_of_observers_eq rfl id
  unfold Document.stroke
  rw [← same]
  split
  · exact List.Subset.refl _
  · next change _ =>
    exact Document.queue_subset_report (alert.withForest stroke.forest).registers change id

end Alert

/-! ## Naming -/

/-- A text is named by what waits for a watch: it was changed, or it is at a node that
came into the subtree, or below one. -/
def Names (watch : Watch) (document : Document) (id : NodeId) : Prop :=
  (∃ change ∈ document.queue watch.texts, change.isText = true ∧ change.target = id) ∨
    ∃ change ∈ document.queue watch.nodes, ∃ came ∈ change.added,
      document.forest.Climbs id came ∧ document.forest.Climbs came watch.target

/-- What is named stays so where nothing is taken from a watch and those ways upwards are
kept that lead to its target. -/
theorem Names.mono {after : Document} {id : NodeId} (names : watch.Names document id)
    (queues : ∀ observer, document.queue observer ⊆ after.queue observer)
    (between : ∀ came, document.forest.Climbs id came → document.forest.Climbs came watch.target →
      after.forest.Climbs id came ∧ after.forest.Climbs came watch.target) :
    watch.Names after id := by
  rcases names with ⟨change, waits, named⟩ | ⟨change, waits, came, added, up, onward⟩
  · exact .inl ⟨change, queues _ waits, named⟩
  · exact .inr ⟨change, queues _ waits, came, added, between came up onward⟩

end Watch

/-- A stroke writes a text in a subtree, or brings a node into it that the text is at or
below. -/
def Stroke.Touches (stroke : Stroke) (top id : NodeId) : Prop :=
  ∃ change ∈ stroke.change?, stroke.forest.isInclusiveAncestor top change.target = true ∧
    (change.isText = true ∧ change.target = id ∨
      ∃ came ∈ change.added, stroke.forest.isInclusiveAncestor came id = true)

instance (stroke : Stroke) (top id : NodeId) : Decidable (stroke.Touches top id) :=
  inferInstanceAs (Decidable (∃ change ∈ stroke.change?, _ ∧ _))

@[simp] theorem Stroke.touches_text {forest : Forest} {node top id : NodeId} {old : Text} :
    (⟨forest, some (.text node old)⟩ : Stroke).Touches top id ↔
      forest.isInclusiveAncestor top node = true ∧ node = id := by
  simp [Touches, Change.isText, Change.target, Change.added]

@[simp] theorem Stroke.touches_children {forest : Forest} {parent top id : NodeId}
    {added removed : List NodeId} :
    (⟨forest, some (.children parent added removed)⟩ : Stroke).Touches top id ↔
      forest.isInclusiveAncestor top parent = true ∧
        ∃ came ∈ added, forest.isInclusiveAncestor came id = true := by
  simp [Touches, Change.isText, Change.target, Change.added]

namespace Watch

variable {watch : Watch} {document : Document}

section Strokes

variable (alert : watch.Alert document) (wellFormed : document.forest.WellFormed)
  (acyclic : document.forest.Acyclic)
include alert wellFormed acyclic

/-- Where a node is seated in the subtree, all that is at it or below it is named. -/
theorem names_seat {parent node : NodeId} {list : List NodeId}
    (draws : document.forest.Draws
      ⟨document.forest.seated parent node list, some (.children parent [node] [])⟩)
    (known : node < document.forest.size) {id : NodeId}
    (beyond : (document.forest.seated parent node list).Climbs parent watch.target)
    (toNode : (document.forest.seated parent node list).Climbs id node) :
    watch.Names (document.stroke
      ⟨document.forest.seated parent node list, some (.children parent [node] [])⟩) id := by
  have above := (Forest.isInclusiveAncestor_iff (draws.wellFormed wellFormed)
    (draws.acyclic wellFormed acyclic)).mpr beyond
  refine .inr ⟨_, alert.mem_queue_stroke above, node, List.mem_singleton_self node, ?_⟩
  rw [document.forest_stroke]
  exact ⟨toNode, .head (Forest.parent?_seated_self known) beyond⟩

variable {stroke : Stroke} (draws : document.forest.Draws stroke) {id : NodeId}
include draws

/-- What a stroke touches is named afterwards. -/
theorem names_of_touches (touches : stroke.Touches watch.target id) :
    watch.Names (document.stroke stroke) id := by
  have drawn := draws
  cases draws with
  | write text spoken =>
    obtain ⟨above, rfl⟩ := Stroke.touches_text.mp touches
    exact .inl ⟨_, alert.mem_queue_stroke above, rfl, rfl⟩
  | takeOut found =>
    obtain ⟨_, came, added, _⟩ := Stroke.touches_children.mp touches
    cases added
  | seat knownParent known loose perm apart =>
    obtain ⟨above, came, added, below⟩ := Stroke.touches_children.mp touches
    cases List.mem_singleton.mp added
    rw [Forest.isInclusiveAncestor_iff (drawn.wellFormed wellFormed)
      (drawn.acyclic wellFormed acyclic)] at above below
    exact names_seat alert wellFormed acyclic drawn known above below

/-- What is in the subtree after a stroke is named if it was named in case it was in the
subtree before. -/
theorem names_of_before (covered : stroke.forest.Climbs id watch.target)
    (before : document.forest.Climbs id watch.target → watch.Names document id) :
    watch.Names (document.stroke stroke) id := by
  have queues := alert.queue_subset_stroke stroke
  have same := document.forest_stroke stroke
  have drawn := draws
  cases draws with
  | @write node old text spoken =>
    have alike := Forest.Alike.of_setContent spoken text
    have kept : ∀ {one above : NodeId}, document.forest.Climbs one above ↔
        (document.forest.setContent node (.text text)).Climbs one above := by
      intro one above
      rw [Forest.Climbs, Forest.Climbs, alike.parent?]
    refine (before (kept.mpr covered)).mono queues fun came up onward => ?_
    rw [same]
    exact ⟨kept.mp up, kept.mp onward⟩
  | takeOut found =>
    refine (before (Forest.climbs_of_loosened wellFormed covered)).mono queues
      fun came up onward => ?_
    rw [same]
    exact Forest.between_loosened wellFormed acyclic covered up onward
  | seat knownParent known loose perm apart =>
    rcases Forest.climbs_seated known covered with climbed | ⟨toNode, beyond⟩
    · refine (before climbed).mono queues fun came up onward => ?_
      rw [same]
      exact ⟨Forest.climbs_seated_of_climbs known loose up,
        Forest.climbs_seated_of_climbs known loose onward⟩
    · exact names_seat alert wellFormed acyclic drawn known beyond
        (Forest.climbs_seated_of_climbs known loose toNode)

/-- **What is in the subtree after a stroke is named** if it was named before, provided
that it was in the subtree then, and also if the stroke touches it. -/
theorem names_stroke (covered : stroke.forest.Climbs id watch.target)
    (reason : (document.forest.Climbs id watch.target → watch.Names document id) ∨
      stroke.Touches watch.target id) : watch.Names (document.stroke stroke) id := by
  rcases reason with before | touches
  · exact names_of_before alert wellFormed acyclic draws covered before
  · exact names_of_touches alert wellFormed acyclic draws touches

end Strokes

/-! ## Any number of edits -/

/-- A watch is at work in a tree, and what was written and is in its subtree is named. -/
structure Hears (watch : Watch) (Written : NodeId → Prop) (document : Document) : Prop where
  alert : watch.Alert document
  wellFormed : document.forest.WellFormed
  acyclic : document.forest.Acyclic
  names : ∀ id, Written id → document.forest.Climbs id watch.target → watch.Names document id

namespace Hears

variable {Written : NodeId → Prop}

theorem mono {Less : NodeId → Prop} (hears : watch.Hears Written document)
    (fewer : ∀ id, Less id → Written id) : watch.Hears Less document :=
  ⟨hears.alert, hears.wellFormed, hears.acyclic, fun id less => hears.names id (fewer id less)⟩

theorem stroke (hears : watch.Hears Written document) {stroke : Stroke}
    (draws : document.forest.Draws stroke) :
    watch.Hears (fun id => Written id ∨ stroke.Touches watch.target id)
      (document.stroke stroke) where
  alert := hears.alert.stroke stroke
  wellFormed := document.forest_stroke stroke ▸ draws.wellFormed hears.wellFormed
  acyclic := document.forest_stroke stroke ▸ draws.acyclic hears.wellFormed hears.acyclic
  names id written covered := by
    rw [document.forest_stroke stroke] at covered
    exact names_stroke hears.alert hears.wellFormed hears.acyclic draws covered
      (written.imp_left (hears.names id))

theorem play {forest : Forest} {strokes : List Stroke} (drawn : forest.Drawn strokes) :
    ∀ {document : Document} {Written : NodeId → Prop}, document.forest = forest →
      watch.Hears Written document →
      watch.Hears (fun id => Written id ∨ ∃ stroke ∈ strokes, stroke.Touches watch.target id)
        (document.play strokes) := by
  induction drawn with
  | nil => exact fun _ hears => hears.mono fun id written => written.resolve_right nofun
  | @cons forest stroke rest draws drawn ih =>
    intro document Written same hears
    subst same
    refine (ih (document.forest_stroke stroke) (hears.stroke draws)).mono fun id written => ?_
    rcases written with old | ⟨other, listed, touches⟩
    · exact .inl (.inl old)
    · rcases List.mem_cons.mp listed with rfl | later
      · exact .inl (.inr touches)
      · exact .inr ⟨other, later, touches⟩

theorem carryOut (hears : watch.Hears Written document) {edit : Edit}
    (fits : edit.Fits document.forest) :
    watch.Hears (fun id => Written id ∨
        ∃ stroke ∈ edit.strokes document.forest, stroke.Touches watch.target id)
      (edit.carryOut document) := by
  rw [edit.carryOut_eq_play]
  exact play (Edit.drawn_strokes hears.wellFormed hears.acyclic fits) rfl hears

/-- A new node that nobody has put anywhere yet matters to nobody. -/
theorem addNode (hears : watch.Hears Written document) (content : Content) :
    watch.Hears Written (document.addNode content).1 where
  alert := hears.alert.withForest _
  wellFormed := hears.wellFormed.add content
  acyclic := by
    obtain ⟨height, graded⟩ := (Forest.acyclic_iff_graded hears.wellFormed).mp hears.acyclic
    have wellFormedThen := hears.wellFormed.add content
    refine Forest.acyclic_of_falls height wellFormedThen fun above child listed => ?_
    have known : child ∈ document.forest.children above :=
      (Forest.children_add document.forest above content).symm ▸ listed
    exact graded.falls above child known
  names id written covered := by
    have kept : ∀ one above, (document.addNode content).1.forest.parent? one = some above ↔
        document.forest.parent? one = some above := fun one above =>
      iff_of_eq (congrArg (· = some above) (document.forest.parent?_add one content))
    have climbed := Forest.climbs_mono (fun one above => (kept one above).mp) covered
    have named := hears.names id written climbed
    refine named.mono (fun _ => List.Subset.refl _) fun came up onward => ?_
    exact ⟨Forest.climbs_mono (fun one above => (kept one above).mpr) up,
      Forest.climbs_mono (fun one above => (kept one above).mpr) onward⟩

end Hears

end Watch

/-! ## Writing in a scene -/

/-- An action that only writes: it makes a node, or it is an edit that makes no cycle. -/
def Action.Fits (forest : Forest) : Action → Prop
  | .addNode _ => True
  | .edit change => change.Fits forest
  | _ => False

/-- The strokes of an action. -/
def Action.strokes (forest : Forest) : Action → List Stroke
  | .edit change => change.strokes forest
  | _ => []

namespace Scene

/-- Each of several actions only writes. -/
def Writes : Scene → List Action → Prop
  | _, [] => True
  | scene, action :: rest => action.Fits scene.document.forest ∧ Writes (scene.act action) rest

/-- One of several actions writes a text in a subtree or brings it there. -/
def Touched (top id : NodeId) : Scene → List Action → Prop
  | _, [] => False
  | scene, action :: rest =>
    (∃ stroke ∈ action.strokes scene.document.forest, stroke.Touches top id) ∨
      Touched top id (scene.act action) rest

instance decidableTouched (top id : NodeId) :
    (scene : Scene) → (actions : List Action) → Decidable (Touched top id scene actions)
  | _, [] => isFalse fun touched => touched
  | scene, action :: rest =>
    @instDecidableOr _ _ inferInstance (decidableTouched top id (scene.act action) rest)

/-- Whoever only writes leaves the localizers alone. -/
theorem localizers_act {scene : Scene} {action : Action}
    (fits : action.Fits scene.document.forest) :
    (scene.act action).localizers = scene.localizers := by
  cases action <;> first | rfl | exact fits.elim

variable {watch : Watch}

theorem hears_act {scene : Scene} {Written : NodeId → Prop}
    (hears : watch.Hears Written scene.document) {action : Action}
    (fits : action.Fits scene.document.forest) :
    watch.Hears
      (fun id => Written id ∨
        ∃ stroke ∈ action.strokes scene.document.forest, stroke.Touches watch.target id)
      (scene.act action).document := by
  cases action with
  | addNode content =>
    exact (hears.addNode content).mono fun id written => written.resolve_right nofun
  | edit change => exact hears.carryOut fits
  | _ => exact fits.elim

/-- **While others only write, what they write in the subtree is named.** -/
theorem hears_acts (actions : List Action) :
    ∀ {scene : Scene} {Written : NodeId → Prop}, watch.Hears Written scene.document →
      scene.Writes actions →
      (actions.foldl Scene.act scene).localizers = scene.localizers ∧
        watch.Hears (fun id => Written id ∨ scene.Touched watch.target id actions)
          (actions.foldl Scene.act scene).document := by
  induction actions with
  | nil =>
    exact fun hears _ =>
      ⟨rfl, hears.mono fun id written => written.resolve_right fun touched => touched⟩
  | cons action rest ih =>
    intro scene Written hears writes
    obtain ⟨fits, later⟩ := writes
    obtain ⟨localizers, named⟩ := ih (hears_act hears fits) later
    exact ⟨localizers.trans (localizers_act fits), named.mono fun id written =>
      or_assoc.mpr written⟩

end Scene

/-! ## Deliveries of what was written -/

/-- What is named in the subtree is due to be visited at least once. -/
theorem Watch.Names.outstanding_pos {localizer : Localizer} {document : Document} {node : NodeId}
    (names : localizer.watch.Names document node) (wellFormed : document.forest.WellFormed)
    (acyclic : document.forest.Acyclic)
    (leaves : ∀ id, (document.forest.text? id).isSome → document.forest.children id = [])
    (isText : (document.forest.text? node).isSome)
    (covered : document.forest.Climbs node localizer.watch.target) :
    0 < localizer.outstanding document.forest document node := by
  rw [Localizer.outstanding]
  rcases names with ⟨change, waits, kind, rfl⟩ | ⟨change, waits, came, added, up, onward⟩
  · have stop := Forest.mem_stops_of_climbs wellFormed acyclic leaves isText .refl covered
    have due : change.target ∈ document.forest.textsDue localizer.watch.target
        (document.queue localizer.watch.texts) :=
      List.mem_flatMap.mpr ⟨change, waits, by rwa [if_pos kind, Forest.textStop, if_pos isText]⟩
    exact Nat.add_pos_left (List.count_pos_iff.mpr due) _
  · have stop := Forest.mem_stops_of_climbs wellFormed acyclic leaves isText up onward
    have due : node ∈ document.forest.nodesDue localizer.watch.target
        (document.queue localizer.watch.nodes) :=
      List.mem_flatMap.mpr ⟨came, List.mem_flatMap.mpr ⟨change, waits, added⟩, stop⟩
    exact Nat.add_pos_right _ (List.count_pos_iff.mpr due)

theorem Play.scene_acts {σ : Type} (actions : List Action) :
    ∀ play : Play σ, (actions.foldl Play.act play).scene = actions.foldl Scene.act play.scene := by
  induction actions with
  | nil => exact fun _ => rfl
  | cons action rest ih => exact fun play => ih (play.act action)

theorem Play.Settled.acts {σ : Type} {play : Play σ} (settled : play.Settled)
    (actions : List Action) : (actions.foldl Play.act play).Settled := by
  obtain ⟨kept, same⟩ := settled.kept.acts actions
  exact ⟨kept, same.delivering.trans settled.delivering, same.batch.trans settled.batch,
    same.running.trans settled.idle⟩

/-- Where nothing is below texts and comments, a forest without cycles is orderly below a
node that is no loose text. -/
theorem Forest.orderlyBelow_self {forest : Forest} (wellFormed : forest.WellFormed)
    (acyclic : forest.Acyclic)
    (leaves : ∀ id, (forest.text? id).isSome ∨ (forest.comment? id).isSome →
      forest.children id = []) {top : NodeId}
    (stands : (forest.text? top).isSome → (forest.parent? top).isSome) :
    OrderlyBelow top forest forest where
  orderly := ⟨wellFormed, acyclic, fun id isComment => leaves id (.inr isComment)⟩
  stops := rfl
  isText _ := rfl
  stands other node listed := by
    have covered := (isInclusiveAncestor_iff wellFormed acyclic).mp
      (covers_of_mem_stops wellFormed acyclic listed)
    rcases covered.cases_head with rfl | ⟨above, found, _⟩
    · exact stands (isSome_text?_of_mem_stops listed)
    · rw [found]
      rfl

/-- **Whatever others wrote in the subtree of a localizer is visited in the next delivery**,
as often as it is named by what waits then, and at least once. One localizer is at work
with both its observers in a tree, nobody else does anything when called, and then others
make nodes, write texts and move nodes about. A delivery comes to its end after that, and
it puts each text that was written or brought into the subtree and is there into the
language as often as it visits it: once only, as far as another visit would make no
difference to what the first one left. -/
theorem Guest.deliver?_written {σ : Type} {guest : Guest σ} {play : Play σ}
    {localizer : Localizer} (passive : guest.Passive) (reached : guest.Reaches play)
    (idle : play.scene.document.delivering = false) (alone : play.scene.localizers = [localizer])
    (texts : localizer.watch.watchesTexts play.scene.document = true)
    (nodes : localizer.watch.watchesNodes play.scene.document = true)
    (wellFormed : play.scene.document.forest.WellFormed)
    (acyclic : play.scene.document.forest.Acyclic) {actions : List Action}
    (writes : play.scene.Writes actions) {written : Play σ}
    (acted : actions.foldl Play.act play = written)
    (leaves : ∀ id, (written.scene.document.forest.text? id).isSome ∨
      (written.scene.document.forest.comment? id).isSome →
        written.scene.document.forest.children id = [])
    (stands : (written.scene.document.forest.text? localizer.watch.target).isSome →
      (written.scene.document.forest.parent? localizer.watch.target).isSome)
    {limit : Nat} (enough : 3 ≤ limit) :
    ∃ after calls, guest.stage.deliver? limit written = some (after, calls) ∧
      ∀ node wording, play.scene.Touched localizer.watch.target node actions →
        written.scene.document.forest.isInclusiveAncestor localizer.watch.target node = true →
        written.scene.document.forest.wording? node = some wording →
        let visit := Wording.localized (localizer.counterpart? localizer.htmlLanguage)
        let visits := localizer.outstanding written.scene.document.forest written.scene.document
          node
        0 < visits ∧
          after.scene.document.forest.wording? node = some (visit^[visits] wording) ∧
          (visits = 1 ∨ visit (visit wording) = visit wording →
            after.scene.document.forest.wording? node = some (visit wording)) := by
  have settled := reached.settled idle
  have sound : localizer.watch.Sound play.scene.document :=
    settled.kept.proper.sound_of_localizers alone
  have hears : localizer.watch.Hears (fun _ => False) play.scene.document :=
    ⟨sound.alert settled.kept.proper.registers texts nodes, wellFormed, acyclic,
      fun _ nothing => nothing.elim⟩
  obtain ⟨localizers, hears⟩ := Scene.hears_acts actions hears writes
  rw [← Play.scene_acts, acted] at localizers hears
  have below := Forest.orderlyBelow_self hears.wellFormed hears.acyclic leaves stands
  have steady := Forest.Steady.of_orderly (localizer.counterpart? localizer.htmlLanguage)
    localizer.watch.target written.scene.document.forest
  obtain ⟨after, calls, _, delivered, _, _, _, _, words⟩ := guest.deliver?_wording passive steady
    (acted ▸ settled.acts actions) (localizers.trans alone) below enough
  refine ⟨after, calls, delivered, fun node wording touched covered said => ?_⟩
  rw [Forest.isInclusiveAncestor_iff hears.wellFormed hears.acyclic] at covered
  obtain ⟨text, spoken, _⟩ := Option.map_eq_some_iff.mp said
  have due : 0 < localizer.outstanding written.scene.document.forest written.scene.document node :=
    (hears.names node (.inr touched) covered).outstanding_pos hears.wellFormed hears.acyclic
      (fun id isText => leaves id (.inl isText)) (spoken ▸ rfl) covered
  have result := words node
  rw [Localizer.prospect, said, Option.map_some] at result
  refine ⟨due, result, fun once => ?_⟩
  rw [result, Option.some.injEq]
  rcases once with once | once
  · rw [once, Function.iterate_one]
  · obtain ⟨more, visits⟩ := Nat.exists_eq_add_one_of_ne_zero (Nat.ne_of_gt due)
    rw [visits, Function.iterate_succ_apply, Function.iterate_fixed once]

namespace Guest

/-- A catalog in which the translation of one phrase is itself a phrase that has another
translation. -/
def chained : Catalog := .ofList [(['e'], [['a'], ['b']]), (['s'], [['b'], ['c']])]

/-- A play in which a localizer has been attached to a document of one paragraph. -/
def attended : Play Unit :=
  silent.run 3
    (Play.start
      ⟨#[⟨.document, none, [1]⟩, ⟨.element ⟨.html, ['p']⟩ [], some 0, [2]⟩,
        ⟨.text ['x'], some 1, []⟩]⟩ (.new 0) ())
    [.attach ⟨some 0, some ['e'], chained, some ['s'], none, ⟨[], [], [], [], [], []⟩⟩]

/-- A paragraph is made and its text put into it before it is brought into the document. -/
def paragraph : List Action :=
  [.addNode (.element ⟨.html, ['p']⟩ []), .addNode (.text ['a']), .edit (.append 3 4),
    .edit (.append 0 3)]

/-- A text is written and then corrected. -/
def correction : List Action :=
  [.edit (.setText 2 ['z']), .edit (.setText 2 ['a'])]

/-- The text of a new paragraph is visited once, and so it is put into the language. -/
theorem deliver?_written_paragraph :
    silent.Passive ∧ attended.scene.Writes paragraph ∧ attended.scene.Touched 0 4 paragraph ∧
      ∃ after calls,
        silent.stage.deliver? 3 (paragraph.foldl Play.act attended) = some (after, calls) ∧
        after.scene.document.forest.wording? 4 = some ⟨['b'], none⟩ := by
  obtain ⟨localizer, alone, target, texts, nodes, once, translated⟩ :=
    attended.scene.exists_localizer (by decide) (P := fun localizer => localizer.watch.target = 0 ∧
      localizer.watch.watchesTexts attended.scene.document = true ∧
      localizer.watch.watchesNodes attended.scene.document = true ∧
      localizer.outstanding (paragraph.foldl Play.act attended).scene.document.forest
        (paragraph.foldl Play.act attended).scene.document 4 = 1 ∧
      (Wording.mk ['a'] none).localized (localizer.counterpart? localizer.htmlLanguage)
        = ⟨['b'], none⟩) (by decide)
  have orderly : attended.scene.document.forest.Orderly := by decide
  have writes : attended.scene.Writes paragraph :=
    ⟨trivial, trivial, (by decide : (Edit.append 3 4).Fits _),
      (by decide : (Edit.append 0 3).Fits _), trivial⟩
  have touched : attended.scene.Touched 0 4 paragraph := by decide
  have leaves : ∀ id < (paragraph.foldl Play.act attended).scene.document.forest.size,
      ((paragraph.foldl Play.act attended).scene.document.forest.text? id).isSome ∨
        ((paragraph.foldl Play.act attended).scene.document.forest.comment? id).isSome →
      (paragraph.foldl Play.act attended).scene.document.forest.children id = [] := by decide
  obtain ⟨after, calls, delivered, heard⟩ := deliver?_written (fun _ _ _ => rfl)
    ⟨_, _, _, _, _, rfl⟩ (by decide) alone texts nodes orderly.wellFormed orderly.acyclic writes rfl
    (fun id leaf => (Nat.lt_or_ge id _).elim (fun known => leaves id known leaf)
      fun high => Forest.children_eq_nil_of_size_le _ id high)
    (fun isText => absurd isText (by rw [target]; decide)) (Nat.le_refl 3)
  rw [target] at heard
  obtain ⟨_, _, result⟩ := heard 4 ⟨['a'], none⟩ touched (by decide) (by decide)
  exact ⟨fun _ _ _ => rfl, writes, touched, after, calls, delivered,
    (result (.inl once)).trans (congrArg some translated)⟩

/-- A text that is corrected is visited twice, and the second visit translates what the
first one left, which was in the language already. -/
theorem deliver?_written_correction :
    silent.Passive ∧ silent.Reaches attended ∧
      attended.scene.document.delivering = false ∧
      (∀ id, attended.scene.document.queue id = []) ∧
      attended.scene.document.forest.Orderly ∧ attended.scene.Writes correction ∧
      attended.scene.Touched 0 2 correction ∧
      (correction.foldl Play.act attended).scene.document.forest.isInclusiveAncestor 0 2 = true ∧
      ∃ localizer after calls, attended.scene.localizers = [localizer] ∧
        localizer.watch.target = 0 ∧
        localizer.watch.watchesTexts attended.scene.document = true ∧
        localizer.watch.watchesNodes attended.scene.document = true ∧
        silent.stage.deliver? 3 (correction.foldl Play.act attended) = some (after, calls) ∧
        (correction.foldl Play.act attended).scene.document.forest.wording? 2
          = some ⟨['a'], none⟩ ∧
        after.scene.document.forest.wording? 2 ≠ some ((Wording.mk ['a'] none).localized
          (localizer.counterpart? localizer.htmlLanguage)) := by
  obtain ⟨localizer, alone, target, texts, nodes, translated⟩ :=
    attended.scene.exists_localizer (by decide) (P := fun localizer => localizer.watch.target = 0 ∧
      localizer.watch.watchesTexts attended.scene.document = true ∧
      localizer.watch.watchesNodes attended.scene.document = true ∧
      (Wording.mk ['a'] none).localized (localizer.counterpart? localizer.htmlLanguage)
        = ⟨['b'], none⟩) (by decide)
  have twice : ((silent.stage.deliver? 3 (correction.foldl Play.act attended)).map fun result =>
      result.1.scene.document.forest.wording? 2) = some (some ⟨['c'], none⟩) := by decide
  obtain ⟨⟨after, calls⟩, delivered, result⟩ := Option.map_eq_some_iff.mp twice
  have reached : silent.Reaches attended := ⟨_, _, _, _, _, rfl⟩
  have nobody : attended.scene.document.pending = [] := by decide
  have nothing : ∀ id, attended.scene.document.queue id = [] := by
    refine fun id => Decidable.byContradiction fun waits => ?_
    rcases (reached.settled (by decide)).kept.proper.awaited.listed id waits with listed | listed
    · exact List.not_mem_nil (nobody ▸ listed)
    · exact List.not_mem_nil listed
  refine ⟨fun _ _ _ => rfl, reached, by decide, nothing, by decide,
    ⟨trivial, trivial, trivial⟩, by decide, by decide, localizer, after, calls, alone, target,
    texts, nodes, delivered, by decide, fun same => ?_⟩
  rw [translated] at same
  cases result.symm.trans same

end Guest

end Polyglot
