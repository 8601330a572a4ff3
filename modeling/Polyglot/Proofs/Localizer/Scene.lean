import Mathlib.Data.List.Pairwise
import Polyglot.Proofs.Localizer.Unheard

/-!
# Localizers at work

A scene is a document and a host with everybody who is at work on them: the
observers that somebody made, and the localizers. Whoever acts in a scene edits
the document, uses the observers that were made there, attaches and drops
localizers, and asks them for what they do; the observers of a localizer are out
of everybody else's reach.

That is why every watch in a scene stays sound: an action moves the observers of
one party only, and these are apart from those of every other (`Proper.act`).
-/

set_option autoImplicit false

namespace Polyglot

open Document

/-- What can be asked of a localizer. -/
inductive Request where
  | changeLanguage (language : Text)
  | setLanguage (language : Text)
  | keepLanguage (language : Text)
  | localizeText (node : NodeId) (source : Text)
  | localizeTree (root : NodeId) (source : Text)
  | startTexts
  | stopTexts
  | startNodes
  | stopNodes

/-- A localizer that has done what it was asked, with the document and the host. -/
def Localizer.fulfil (localizer : Localizer) (document : Document) (host : Host) :
    Request → Localizer × Document × Host
  | .changeLanguage language =>
    let (localizer, document, host, _) := localizer.changeLanguage document host language
    (localizer, document, host)
  | .setLanguage language => (localizer.setLanguage language, document, host)
  | .keepLanguage language =>
    let (localizer, host) := localizer.keepLanguage host language
    (localizer, document, host)
  | .localizeText node source =>
    (localizer, (localizer.localizeTextUnheard document node source).1, host)
  | .localizeTree root source =>
    let (localizer, document, _) := localizer.localizeTreeUnheard document root source
    (localizer, document, host)
  | .startTexts => (localizer, localizer.watch.startTexts document, host)
  | .stopTexts => (localizer, localizer.watch.stopTexts document, host)
  | .startNodes => (localizer, localizer.watch.startNodes document, host)
  | .stopNodes => (localizer, localizer.watch.stopNodes document, host)

/-- A localizer that has heard of changes through one of its observers, and the
document. -/
def Localizer.hear (localizer : Localizer) (document : Document) (id : ObserverId)
    (changes : List Change) : Localizer × Document :=
  if localizer.watch.texts = id then localizer.hearTexts document changes
  else localizer.hearNodes document changes

/-- A document and a host, and who is at work on them. -/
structure Scene where
  document : Document
  host : Host
  /-- The observers that were made, other than those of localizers. -/
  handles : List ObserverId
  localizers : List Localizer

/-- Something that is done in a scene. A localizer is referred to by either of its
observers. -/
inductive Action where
  | setHost (host : Host)
  | addNode (content : Content)
  | edit (edit : Edit)
  | addObserver
  | release (id : ObserverId)
  | observe (id : ObserverId) (target : NodeId) (interest : Interest)
  | disconnect (id : ObserverId)
  | take (id : ObserverId)
  | attach (options : LocalizerOptions)
  | drop (id : ObserverId)
  | ask (id : ObserverId) (request : Request)
  | deliver

namespace Scene

variable (scene : Scene)

/-- The watches of the localizers. -/
def watches : List Watch := scene.localizers.map Localizer.watch

/-- The localizer that an observer belongs to. -/
def localizer? (id : ObserverId) : Option Localizer :=
  scene.localizers.find? fun localizer => localizer.watch.texts == id || localizer.watch.nodes == id

/-- A scene with another document. -/
def withDocument (document : Document) : Scene :=
  { scene with document := document }

/-- A scene in which a localizer is not what it was. -/
def put (localizer : Localizer) : Scene :=
  { scene with
    localizers := scene.localizers.map fun other =>
      if other.watch = localizer.watch then localizer else other }

/-- A scene in which something was done to an observer that was made there. -/
def onHandle (id : ObserverId) (change : Document → Document) : Scene :=
  if id ∈ scene.handles then scene.withDocument (change scene.document) else scene

/-- A scene in which an observer of a localizer was called; one that belongs to none
does nothing. -/
def hear (id : ObserverId) (changes : List Change) : Scene :=
  match scene.localizer? id with
  | none => scene
  | some localizer =>
    let (localizer, document) := localizer.hear scene.document id changes
    (scene.put localizer).withDocument document

/-- A scene after an action, where a delivery is refused. -/
def act : Action → Scene
  | .setHost host => { scene with host := host }
  | .addNode content => scene.withDocument (scene.document.addNode content).1
  | .edit edit => scene.withDocument (edit.carryOut scene.document)
  | .addObserver =>
    let (document, id) := scene.document.addObserver
    { scene with document := document, handles := id :: scene.handles }
  | .release id => scene.onHandle id fun document => document.release id
  | .observe id target interest =>
    scene.onHandle id fun document => document.observe id target interest
  | .disconnect id => scene.onHandle id fun document => document.disconnect id
  | .take id => scene.onHandle id fun document => (document.takeChanges id).1
  | .attach options =>
    match Localizer.attach scene.document scene.host options with
    | .error _ => scene
    | .ok (localizer, document) =>
      { scene with document := document, localizers := scene.localizers ++ [localizer] }
  | .drop id =>
    match scene.localizer? id with
    | none => scene
    | some localizer =>
      { scene with
        document := localizer.watch.release scene.document
        localizers := scene.localizers.filter fun other => other.watch != localizer.watch }
  | .ask id request =>
    match scene.localizer? id with
    | none => scene
    | some localizer =>
      let (localizer, document, host) := localizer.fulfil scene.document scene.host request
      { scene.put localizer with document := document, host := host }
  | .deliver => scene

end Scene

/-! ## What a localizer does to its own watch -/

namespace Localizer

variable (localizer : Localizer) (document : Document) (host : Host)

theorem moves_fulfil (request : Request) :
    Moves localizer.watch.Owns document (localizer.fulfil document host request).2.1 := by
  cases request with
  | changeLanguage language => exact (localizer.unheard_changeLanguage document host language).moves
  | setLanguage language => exact .refl
  | keepLanguage language => exact .refl
  | localizeText node source =>
    exact (localizer.unheard_localizeTextUnheard document node source).moves
  | localizeTree root source =>
    exact (localizer.unheard_localizeTreeUnheard document root source).moves
  | startTexts => exact .single (.observe document _ _ (.inl rfl))
  | stopTexts => exact .single (.disconnect document (.inl rfl))
  | startNodes => exact .single (.observe document _ _ (.inr rfl))
  | stopNodes => exact .single (.disconnect document (.inr rfl))

variable {document}

theorem sound_fulfil (sound : localizer.watch.Sound document) (request : Request) :
    localizer.watch.Sound (localizer.fulfil document host request).2.1 := by
  cases request with
  | changeLanguage language =>
    exact sound.of_unmoved ((localizer.unheard_changeLanguage document host language).unmoved sound)
  | setLanguage language => exact sound
  | keepLanguage language => exact sound
  | localizeText node source =>
    exact sound.of_unmoved
      ((localizer.unheard_localizeTextUnheard document node source).unmoved sound)
  | localizeTree root source =>
    exact sound.of_unmoved
      ((localizer.unheard_localizeTreeUnheard document root source).unmoved sound)
  | startTexts => exact sound.startTexts
  | stopTexts => exact sound.stopTexts
  | startNodes => exact sound.startNodes
  | stopNodes => exact sound.stopNodes

variable (document)

theorem watch_hear (id : ObserverId) (changes : List Change) :
    (localizer.hear document id changes).1.watch = localizer.watch := by
  unfold hear
  split
  · rfl
  · exact localizer.watch_hearNodes document changes

/-- Hearing of changes is itself not heard of. -/
theorem unheard_hear (id : ObserverId) (changes : List Change) :
    Unheard localizer.watch document (localizer.hear document id changes).2 := by
  unfold hear
  split
  · exact localizer.unheard_hearTexts document changes
  · exact localizer.unheard_hearNodes document changes

end Localizer

/-! ## Scenes that are in order -/

/-- Two watches without an observer in common. -/
def Watch.Apart (first second : Watch) : Prop :=
  ∀ id, first.Owns id → ¬ second.Owns id

instance : Std.Symm Watch.Apart where
  symm _ _ apart id mine theirs := apart id theirs mine

/-- A scene in which every watch is sound, nobody has an observer in common with
anybody else, and whoever has something to hear of is to be called. -/
structure Scene.Proper (rest : List ObserverId) (scene : Scene) : Prop where
  sound : ∀ watch ∈ scene.watches, watch.Sound scene.document
  apart : scene.watches.Pairwise Watch.Apart
  foreign : ∀ id ∈ scene.handles, ∀ watch ∈ scene.watches, ¬ watch.Owns id
  known : ∀ id ∈ scene.handles, scene.document.Knows id
  registers : scene.document.RegistersKnown
  awaited : scene.document.Awaited rest

namespace Watch.Sound

variable {watch : Watch} {document : Document}

theorem knows (sound : watch.Sound document) {id : ObserverId} (mine : watch.Owns id) :
    document.Knows id := by
  rcases mine with rfl | rfl
  · exact knows_of_isHeld sound.texts.held
  · exact knows_of_isHeld sound.nodes.held

end Watch.Sound

namespace Scene

variable {rest : List ObserverId} {scene : Scene}

theorem localizer?_eq_some {id : ObserverId} {localizer : Localizer}
    (found : scene.localizer? id = some localizer) :
    localizer ∈ scene.localizers ∧ localizer.watch.Owns id := by
  have owns := List.find?_some found
  simp only [Bool.or_eq_true, beq_iff_eq] at owns
  exact ⟨List.mem_of_find?_eq_some found, owns.imp Eq.symm Eq.symm⟩

theorem mem_watches {localizer : Localizer} (listed : localizer ∈ scene.localizers) :
    localizer.watch ∈ scene.watches :=
  List.mem_map_of_mem listed

@[simp] theorem watches_put (localizer : Localizer) :
    (scene.put localizer).watches = scene.watches := by
  simp only [watches, put, List.map_map]
  refine List.map_congr_left fun other _ => ?_
  simp only [Function.comp_apply]
  split
  · next same => exact same.symm
  · rfl

namespace Proper

/-- A document is moved by a party that has no observer in common with any
localizer. -/
theorem withDocument (proper : Proper rest scene) {own : ObserverId → Prop} {document : Document}
    (moves : Moves own scene.document document) (known : ∀ id, own id → scene.document.Knows id)
    (foreign : ∀ id, own id → ∀ watch ∈ scene.watches, ¬ watch.Owns id) :
    Proper rest (scene.withDocument document) where
  sound watch listed := (proper.sound watch listed).of_moves moves
    (fun mine => foreign _ mine watch listed (.inl rfl))
    (fun mine => foreign _ mine watch listed (.inr rfl))
  apart := proper.apart
  foreign := proper.foreign
  known id listed := moves.knows (proper.known id listed)
  registers := moves.registersKnown known proper.registers
  awaited := moves.awaited proper.awaited

/-- A document is moved by one of the localizers. -/
theorem withDocument_of_mem (proper : Proper rest scene) {watch : Watch} {document : Document}
    (listed : watch ∈ scene.watches) (moves : Moves watch.Owns scene.document document)
    (sound : watch.Sound document) : Proper rest (scene.withDocument document) where
  sound other also := by
    by_cases same : other = watch
    · exact same ▸ sound
    · have apart : watch.Apart other := proper.apart.forall listed also (Ne.symm same)
      exact (proper.sound other also).of_moves moves (fun mine => apart _ mine (.inl rfl))
        (fun mine => apart _ mine (.inr rfl))
  apart := proper.apart
  foreign := proper.foreign
  known id listed := moves.knows (proper.known id listed)
  registers := moves.registersKnown (fun _ mine => (proper.sound watch listed).knows mine)
    proper.registers
  awaited := moves.awaited proper.awaited

/-- Which localizers there are matters only by their watches. -/
theorem of_watches {after : Scene} (proper : Proper rest scene)
    (document : after.document = scene.document) (handles : after.handles = scene.handles)
    (watches : after.watches = scene.watches) : Proper rest after where
  sound := by rw [document, watches]; exact proper.sound
  apart := by rw [watches]; exact proper.apart
  foreign := by rw [handles, watches]; exact proper.foreign
  known := by rw [handles, document]; exact proper.known
  registers := by rw [document]; exact proper.registers
  awaited := by rw [document]; exact proper.awaited

theorem onHandle (proper : Proper rest scene) (id : ObserverId) (change : Document → Document)
    (move : ∀ {own : ObserverId → Prop}, own id → Move own scene.document (change scene.document)) :
    Proper rest (scene.onHandle id change) := by
  unfold Scene.onHandle
  split
  · next mine =>
    have moves : Moves (· = id) scene.document (change scene.document) := .single (move rfl)
    exact proper.withDocument moves (fun _ same => same ▸ proper.known id mine)
      (fun _ same => same ▸ proper.foreign id mine)
  · exact proper

theorem addObserver (proper : Proper rest scene) :
    Proper rest (scene.act .addObserver) := by
  have moves : Moves nobody scene.document scene.document.addObserver.1 :=
    .single (.addObserver _)
  have same := proper.withDocument moves (fun _ mine => mine.elim) (fun _ mine => mine.elim)
  refine ⟨same.sound, same.apart, fun id listed watch also => ?_, fun id listed => ?_,
    same.registers, same.awaited⟩
  · rcases List.mem_cons.mp listed with rfl | old
    · exact fun mine => not_knows_addObserver scene.document ((proper.sound watch also).knows mine)
    · exact proper.foreign id old watch also
  · rcases List.mem_cons.mp listed with rfl | old
    · exact Nat.lt_of_lt_of_eq (Nat.lt_succ_self _) (size_addObserver scene.document).symm
    · exact same.known id old

theorem attach (proper : Proper rest scene) (options : LocalizerOptions) :
    Proper rest (scene.act (.attach options)) := by
  unfold Scene.act
  dsimp only
  split
  · exact proper
  · next localizer document attached =>
    obtain ⟨created, made, soundThen, moves, sound, new⟩ :=
      localizer.exists_created scene.document proper.registers attached
    have foreign : ∀ id, localizer.watch.Owns id → ∀ watch ∈ scene.watches, ¬ watch.Owns id :=
      fun id mine watch listed theirs => new id mine ((proper.sound watch listed).knows theirs)
    have first := proper.withDocument made (fun _ mine => mine.elim) (fun _ mine => mine.elim)
    have second : Proper rest (scene.withDocument document) :=
      first.withDocument moves (fun id mine => soundThen.knows mine) foreign
    have watches : { scene with
          document := document
          localizers := scene.localizers ++ [localizer] : Scene }.watches
        = scene.watches ++ [localizer.watch] := by simp [Scene.watches]
    refine ⟨?_, ?_, ?_, second.known, second.registers, second.awaited⟩
    · rw [watches]
      intro watch listed
      rcases List.mem_append.mp listed with old | same
      · exact second.sound watch old
      · exact List.mem_singleton.mp same ▸ sound
    · rw [watches, List.pairwise_append]
      refine ⟨proper.apart, List.pairwise_singleton _ _, fun old listed same also id theirs => ?_⟩
      rw [List.mem_singleton.mp also]
      exact fun mine => foreign id mine old listed theirs
    · rw [watches]
      intro id listed watch also
      rcases List.mem_append.mp also with old | same
      · exact proper.foreign id listed watch old
      · rw [List.mem_singleton.mp same]
        exact fun mine => new id mine (proper.known id listed)

theorem drop (proper : Proper rest scene) (id : ObserverId) :
    Proper rest (scene.act (.drop id)) := by
  unfold Scene.act
  dsimp only
  split
  · exact proper
  · next localizer found =>
    have listed := mem_watches (localizer?_eq_some found).1
    let fewer : Scene := { scene with
      localizers := scene.localizers.filter fun other => other.watch != localizer.watch }
    have watches : fewer.watches = scene.watches.filter (· != localizer.watch) :=
      by simp [fewer, Scene.watches, List.filter_map, Function.comp_def]
    have among : ∀ watch ∈ fewer.watches, watch ∈ scene.watches ∧ watch ≠ localizer.watch := by
      intro watch member
      rw [watches] at member
      simpa using List.mem_filter.mp member
    have proper' : Proper rest fewer :=
      { sound := fun watch member => proper.sound watch (among watch member).1
        apart := watches ▸ proper.apart.sublist List.filter_sublist
        foreign := fun id mine watch member => proper.foreign id mine watch (among watch member).1
        known := proper.known
        registers := proper.registers
        awaited := proper.awaited }
    have moves : Moves localizer.watch.Owns scene.document
        (localizer.watch.release scene.document) :=
      .tail (.single (.release _ (.inl rfl))) (.release _ (.inr rfl))
    refine proper'.withDocument moves (fun id mine => (proper.sound _ listed).knows mine) ?_
    intro id mine watch member
    have apart : localizer.watch.Apart watch :=
      proper.apart.forall listed (among watch member).1 (among watch member).2.symm
    exact apart id mine

theorem ask (proper : Proper rest scene) (id : ObserverId) (request : Request) :
    Proper rest (scene.act (.ask id request)) := by
  unfold Scene.act
  dsimp only
  split
  · exact proper
  · next localizer found =>
    have listed := mem_watches (localizer?_eq_some found).1
    have next := proper.withDocument_of_mem listed
      (localizer.moves_fulfil scene.document scene.host request)
      (localizer.sound_fulfil scene.host (proper.sound _ listed) request)
    refine next.of_watches rfl rfl ?_
    exact scene.watches_put _

/-- **Every action leaves a scene in order.** -/
theorem act (proper : Proper rest scene) (action : Action) : Proper rest (scene.act action) := by
  cases action with
  | setHost host => exact proper.of_watches rfl rfl rfl
  | addNode content =>
    have moves : Moves nobody scene.document (scene.document.addNode content).1 :=
      moves_addNode scene.document content
    exact proper.withDocument moves (fun _ mine => mine.elim) (fun _ mine => mine.elim)
  | edit edit =>
    have moves : Moves nobody scene.document (edit.carryOut scene.document) :=
      moves_carryOut scene.document edit
    exact proper.withDocument moves (fun _ mine => mine.elim) (fun _ mine => mine.elim)
  | addObserver => exact proper.addObserver
  | release id => exact proper.onHandle id (Document.release · id) fun mine => .release _ mine
  | observe id target interest =>
    exact proper.onHandle id (Document.observe · id target interest)
      fun mine => .observe _ target interest mine
  | disconnect id =>
    exact proper.onHandle id (Document.disconnect · id) fun mine => .disconnect _ mine
  | take id =>
    exact proper.onHandle id (fun document => (document.takeChanges id).1) fun mine => .take _ mine
  | attach options => exact proper.attach options
  | drop id => exact proper.drop id
  | ask id request => exact proper.ask id request
  | deliver => exact proper

/-- Hearing of changes leaves a scene in order. -/
theorem hear (proper : Proper rest scene) (id : ObserverId) (changes : List Change) :
    Proper rest (scene.hear id changes) := by
  unfold Scene.hear
  split
  · exact proper
  · next localizer found =>
    have listed := mem_watches (localizer?_eq_some found).1
    have unheard := localizer.unheard_hear scene.document id changes
    have sound := proper.sound _ listed
    have next := proper.withDocument_of_mem listed unheard.moves
      (sound.of_unmoved (unheard.unmoved sound))
    refine next.of_watches rfl rfl ?_
    exact scene.watches_put _

/-- The delivery under way goes on. -/
theorem redeliver (proper : Proper rest scene) {later : List ObserverId} {document : Document}
    (observers : document.observers = scene.document.observers)
    (registrations : document.registrations = scene.document.registrations)
    (awaited : document.Awaited later) : Proper later (scene.withDocument document) where
  sound watch listed := (proper.sound watch listed).of_unmoved
    ⟨.of_observers observers registrations, .of_observers observers registrations⟩
  apart := proper.apart
  foreign := proper.foreign
  known id listed := Nat.lt_of_lt_of_eq (proper.known id listed) (congrArg _ observers.symm)
  registers := proper.registers.of_subset (Nat.le_of_eq (congrArg _ observers.symm))
    fun _ listed => .inl (registrations ▸ listed)
  awaited := awaited

/-- An observer has been dealt with. -/
theorem dealt {id : ObserverId} (proper : Proper (id :: rest) scene) :
    Proper rest (scene.withDocument (scene.document.takeChanges id).1) where
  sound watch listed := (proper.sound watch listed).takeChanges id
  apart := proper.apart
  foreign := proper.foreign
  known other listed := Nat.lt_of_lt_of_eq (proper.known other listed)
    (size_takeChanges scene.document id).symm
  registers := proper.registers.takeChanges id
  awaited := proper.awaited.dealt

end Proper

/-! ## Actions are moves -/

/-- The observers of everybody. -/
def everybody : ObserverId → Prop := fun _ => True

theorem moves_onHandle (id : ObserverId) (change : Document → Document)
    (move : Move everybody scene.document (change scene.document)) :
    Moves everybody scene.document (scene.onHandle id change).document := by
  unfold onHandle
  split
  · exact .single move
  · exact .refl

theorem moves_act (registers : scene.document.RegistersKnown) (action : Action) :
    Moves everybody scene.document (scene.act action).document := by
  cases action with
  | setHost host => exact .refl
  | addNode content => exact moves_addNode scene.document content
  | edit edit => exact moves_carryOut scene.document edit
  | addObserver => exact .single (.addObserver _)
  | release id => exact moves_onHandle id (Document.release · id) (.release _ trivial)
  | observe id target interest =>
    exact moves_onHandle id (Document.observe · id target interest)
      (.observe _ target interest trivial)
  | disconnect id => exact moves_onHandle id (Document.disconnect · id) (.disconnect _ trivial)
  | take id =>
    exact moves_onHandle id (fun document => (document.takeChanges id).1) (.take _ trivial)
  | attach options =>
    simp only [act]
    split
    · exact .refl
    · next localizer document attached =>
      obtain ⟨_, made, _, moves, _⟩ :=
        localizer.exists_created scene.document registers attached
      exact made.of_nobody.trans (moves.mono fun _ _ => trivial)
  | drop id =>
    simp only [act]
    split
    · exact .refl
    · exact .tail (.single (.release _ trivial)) (.release _ trivial)
  | ask id request =>
    simp only [act]
    split
    · exact .refl
    · next localizer _ =>
      exact (localizer.moves_fulfil scene.document scene.host request).mono fun _ _ => trivial
  | deliver => exact .refl

theorem moves_hear (scene : Scene) (id : ObserverId) (changes : List Change) :
    Moves everybody scene.document (scene.hear id changes).document := by
  unfold hear
  split
  · exact .refl
  · next localizer _ =>
    exact (localizer.unheard_hear scene.document id changes).moves.mono fun _ _ => trivial

end Scene

end Polyglot
