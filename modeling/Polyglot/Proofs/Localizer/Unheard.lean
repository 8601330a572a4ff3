import Polyglot.Localizer.Basic
import Polyglot.Proofs.Localizer.Suspension

/-!
# What a localizer does to its document

All that a localizer does to a document is edit it, apart from suspending and
resuming its own watch. So whatever it is asked to do, and whatever it hears of,
its watch is afterwards as it was (`unmoved_localizeTextUnheard` and its
siblings), and no observer but its own two is touched.
-/

set_option autoImplicit false

namespace Polyglot.Localizer

open Document

variable {own : ObserverId → Prop} (localizer : Localizer) (document : Document)

/-! ## Edits -/

theorem moves_placeCarrier (node : NodeId) (carrier? : Option NodeId) (tail : Text) :
    Moves own document (placeCarrier document node carrier? tail) := by
  have created : Moves own document (document.addNode (.comment tail)).1 :=
    moves_addNode document (.comment tail)
  cases carrier? with
  | some previous => exact created.trans (moves_carryOut _ (.replace previous _))
  | none => exact created.trans (moves_carryOut _ (.insertAfter node _))

theorem moves_localizeText {node : NodeId} {source : Text} {after : Document} {outcome : Outcome}
    (localized : localizer.localizeText document node source = .ok (after, outcome)) :
    Moves own document after := by
  unfold localizeText at localized
  cases found : document.forest.text? node with
  | none => simp [found] at localized
  | some text =>
    simp only [found] at localized
    generalize Reading.localized _ _ = result at localized
    have set : Moves own document
        (if result.1 = text then document else (document.setText node result.1).1) := by
      split
      · exact .refl
      · exact moves_carryOut document (.setText node result.1)
    split at localized
    · cases localized
      exact set
    · cases localized
      exact set.trans (moves_placeCarrier _ node _ _)

theorem moves_localizeIfText (node : NodeId) :
    Moves own document (localizer.localizeIfText document node) := by
  unfold localizeIfText
  split
  · next localized => exact localizer.moves_localizeText document localized
  · exact .refl

theorem moves_visit (source : Text) (state : Document × PassStats) (node : NodeId) :
    Moves own state.1 (localizer.visit source state node).1 := by
  unfold visit
  split
  · next localized => exact localizer.moves_localizeText state.1 localized
  · exact .refl

theorem moves_visitAll (source : Text) (nodes : List NodeId) :
    Moves own document (localizer.visitAll source document nodes).1 := by
  unfold visitAll
  generalize PassStats.zero = stats
  induction nodes generalizing document stats with
  | nil => exact .refl
  | cons node rest ih =>
    rw [List.foldl_cons]
    exact (localizer.moves_visit source (document, stats) node).trans (ih _ _)

theorem moves_localizeTree (root : NodeId) (source : Text) :
    Moves own document (localizer.localizeTree document root source).2.1 :=
  localizer.moves_visitAll document source _

/-! ## Edits while the watch is suspended -/

/-- What is done to a document while a watch is suspended. -/
structure Unheard (watch : Watch) (before after : Document) : Prop where
  moves : Moves watch.Owns before after
  unmoved : watch.Sound before → watch.Unmoved before after

theorem Unheard.refl (watch : Watch) (document : Document) : Unheard watch document document :=
  ⟨.refl, fun _ => .refl _ _⟩

/-- Edits between suspending and resuming are not heard of. -/
theorem unheard_resume (watch : Watch) {middle : Document}
    (edits : ∀ {own}, Moves own (watch.suspend document).1 middle) :
    Unheard watch document (watch.resume (watch.suspend document).2 middle) where
  moves := ((Watch.moves_suspend watch document).trans edits).trans (Watch.moves_resume _ _ middle)
  unmoved sound := Watch.unmoved_resume sound edits

theorem unheard_localizeTreeUnheard (root : NodeId) (source : Text) :
    Unheard localizer.watch document (localizer.localizeTreeUnheard document root source).2.1 :=
  unheard_resume document localizer.watch (localizer.moves_localizeTree _ root source)

/-- Localizing a text is not heard of, also where it fails. -/
theorem unheard_localizeTextUnheard (node : NodeId) (source : Text) :
    Unheard localizer.watch document (localizer.localizeTextUnheard document node source).1 := by
  unfold localizeTextUnheard
  dsimp only
  split
  · next localized =>
    exact unheard_resume document localizer.watch (localizer.moves_localizeText _ localized)
  · exact unheard_resume document localizer.watch .refl

theorem unheard_changeLanguage (host : Host) (language : Text) :
    Unheard localizer.watch document (localizer.changeLanguage document host language).2.1 := by
  unfold changeLanguage
  dsimp only
  split
  · exact .refl localizer.watch document
  · exact (localizer.keepLanguage host language).1.unheard_localizeTreeUnheard document _ _

/-! ## Hearing of texts -/

theorem moves_hearText (change : Change) :
    Moves own document (localizer.hearText document change) := by
  unfold hearText
  split
  · exact localizer.moves_localizeIfText document change.target
  · exact .refl

theorem moves_foldl_hearText (changes : List Change) :
    ∀ document : Document, Moves own document (changes.foldl localizer.hearText document) := by
  induction changes with
  | nil => exact fun _ => .refl
  | cons change rest ih =>
    exact fun document => (localizer.moves_hearText document change).trans (ih _)

theorem unheard_hearTexts (changes : List Change) :
    Unheard localizer.watch document (localizer.hearTexts document changes).2 :=
  unheard_resume document localizer.watch (localizer.moves_foldl_hearText changes _)

/-! ## Hearing of nodes -/

/-- Two localizers that differ in their passes at most. -/
structure SameButPasses (before after : Localizer) : Prop where
  watch : after.watch = before.watch
  textCalls : after.textCalls = before.textCalls
  nodeCalls : after.nodeCalls = before.nodeCalls

theorem sameButPasses_hearNode (state : Localizer × Document) (node : NodeId) :
    SameButPasses state.1 (hearNode state node).1 := by
  unfold hearNode
  dsimp only
  split
  · split <;> exact ⟨rfl, rfl, rfl⟩
  · exact ⟨rfl, rfl, rfl⟩

theorem moves_hearNode (state : Localizer × Document) (node : NodeId) :
    Moves own state.2 (hearNode state node).2 := by
  unfold hearNode
  dsimp only
  split
  · split
    · exact state.1.moves_localizeIfText state.2 node
    · exact state.1.moves_localizeTree state.2 node state.1.htmlLanguage
  · exact .refl

theorem sameButPasses_foldl_hearNode (nodes : List NodeId) :
    ∀ state : Localizer × Document, SameButPasses state.1 (nodes.foldl hearNode state).1 := by
  induction nodes with
  | nil => exact fun _ => ⟨rfl, rfl, rfl⟩
  | cons node rest ih =>
    intro state
    have first := sameButPasses_hearNode state node
    have later := ih (hearNode state node)
    exact ⟨later.watch.trans first.watch, later.textCalls.trans first.textCalls,
      later.nodeCalls.trans first.nodeCalls⟩

theorem moves_foldl_hearNode (nodes : List NodeId) :
    ∀ state : Localizer × Document, Moves own state.2 (nodes.foldl hearNode state).2 := by
  induction nodes with
  | nil => exact fun _ => .refl
  | cons node rest ih => exact fun state => (moves_hearNode state node).trans (ih _)

/-- The localizer and the document after nodes were heard of, the watch being still
suspended. -/
def whileHearing (changes : List Change) : Localizer × Document :=
  (changes.flatMap Change.added).foldl hearNode (localizer, (localizer.watch.suspend document).1)

theorem sameButPasses_whileHearing (changes : List Change) :
    SameButPasses localizer (localizer.whileHearing document changes).1 :=
  sameButPasses_foldl_hearNode _ (localizer, (localizer.watch.suspend document).1)

theorem hearNodes_eq (changes : List Change) :
    localizer.hearNodes document changes =
      ({ (localizer.whileHearing document changes).1 with
          nodeCalls := (localizer.whileHearing document changes).1.nodeCalls + 1 },
        localizer.watch.resume (localizer.watch.suspend document).2
          (localizer.whileHearing document changes).2) := by
  have same := (localizer.sameButPasses_whileHearing document changes).watch
  have opened : localizer.hearNodes document changes =
      ({ (localizer.whileHearing document changes).1 with
          nodeCalls := (localizer.whileHearing document changes).1.nodeCalls + 1 },
        (localizer.whileHearing document changes).1.watch.resume
          (localizer.watch.suspend document).2 (localizer.whileHearing document changes).2) := rfl
  rw [opened, same]

theorem unheard_hearNodes (changes : List Change) :
    Unheard localizer.watch document (localizer.hearNodes document changes).2 := by
  rw [hearNodes_eq]
  exact unheard_resume document localizer.watch
    (moves_foldl_hearNode _ (localizer, (localizer.watch.suspend document).1))

theorem watch_hearNodes (changes : List Change) :
    (localizer.hearNodes document changes).1.watch = localizer.watch := by
  rw [hearNodes_eq]
  exact (localizer.sameButPasses_whileHearing document changes).watch

theorem textCalls_hearNodes (changes : List Change) :
    (localizer.hearNodes document changes).1.textCalls = localizer.textCalls := by
  rw [hearNodes_eq]
  exact (localizer.sameButPasses_whileHearing document changes).textCalls

theorem nodeCalls_hearNodes (changes : List Change) :
    (localizer.hearNodes document changes).1.nodeCalls = localizer.nodeCalls + 1 := by
  rw [hearNodes_eq]
  exact congrArg (· + 1) (localizer.sameButPasses_whileHearing document changes).nodeCalls

/-! ## Attaching -/

/-- A localizer that is attached has a new watch, and starts it after a pass that it
does not hear of. -/
theorem watch_attach {host : Host} {options : LocalizerOptions} {after : Document}
    (attached : attach document host options = .ok (localizer, after)) :
    localizer.watch = (create document host options).1.watch ∧
      ∃ middle, Unheard localizer.watch (create document host options).2 middle ∧
        after = localizer.watch.start middle := by
  unfold attach at attached
  cases valid : options.catalog.validate with
  | error problem =>
    rw [valid] at attached
    cases attached
  | ok _ =>
    rw [valid] at attached
    cases attached
    exact ⟨rfl, _, unheard_localizeTreeUnheard _ _ _ _, rfl⟩

theorem moves_create (host : Host) (options : LocalizerOptions) :
    Moves own document (create document host options).2 :=
  .tail (.single (.addObserver document)) (.addObserver _)

theorem moves_start (watch : Watch) : Moves watch.Owns document (watch.start document) :=
  .tail (.single (.observe document _ _ (.inl rfl))) (.observe _ _ _ (.inr rfl))

/-- Attaching goes by way of a document in which the two observers of the new watch
have been made: they are sound there and afterwards, and nobody knew them before. -/
theorem exists_created {host : Host} {options : LocalizerOptions} {after : Document}
    (registers : document.RegistersKnown)
    (attached : attach document host options = .ok (localizer, after)) :
    ∃ created, Moves nobody document created ∧ localizer.watch.Sound created ∧
      Moves localizer.watch.Owns created after ∧ localizer.watch.Sound after ∧
        ∀ id, localizer.watch.Owns id → ¬ document.Knows id := by
  obtain ⟨new, middle, unheard, rfl⟩ := localizer.watch_attach document attached
  have sound : localizer.watch.Sound (create document host options).2 :=
    new ▸ Watch.sound_new registers _
  have kept := sound.of_unmoved (unheard.unmoved sound)
  refine ⟨_, moves_create document host options, sound,
    unheard.moves.trans (moves_start middle localizer.watch), kept.startTexts.startNodes, ?_⟩
  rw [new]
  rintro id (rfl | rfl)
  · exact Nat.lt_irrefl _
  · exact fun known => Nat.lt_irrefl _ (Nat.lt_of_succ_lt (Nat.lt_of_lt_of_le
      (Nat.succ_lt_succ known) (Nat.le_of_eq (size_addObserver document).symm)))

end Polyglot.Localizer
