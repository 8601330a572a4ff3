import Polyglot.Proofs.Localizer.Passes
import Polyglot.Proofs.Localizer.Scene

/-!
# Visits

Whatever a localizer localizes, it visits texts one after the other, and what it
counts of a pass is what became of them (`Localizer.visitAll_eq`). The same holds of
hearing: which texts are visited on account of a change is seen from the document when
its turn comes (`textStops`, `nodeStops`), and hearing of changes visits all of them in
order, starting from the language that the document was written in
(`Localizer.forest_hear`).

A visit depends on the forest alone, and so does what becomes of the text. So what
every visit keeps of a forest is kept by everything that a localizer does
(`VisitRule`).
-/

set_option autoImplicit false

namespace Polyglot

/-- A text that was visited, and what became of it unless it could not be localized. -/
structure Visit where
  node : NodeId
  outcome? : Option Outcome
  deriving DecidableEq, Repr

/-- A pass with one more visit. -/
def PassStats.record (stats : PassStats) (visit : Visit) : PassStats :=
  match visit.outcome? with
  | some outcome => stats.add outcome
  | none => stats.addFailure

namespace Localizer

variable (localizer : Localizer) (source : Text) (document : Document)

/-! ## Visits in order -/

/-- A visit of a text that is written in a source language. -/
def visitOf (node : NodeId) : Visit :=
  ⟨node, (localizer.localizeText document node source).toOption.map Prod.snd⟩

/-- The document after that visit. -/
def visited (node : NodeId) : Document :=
  (localizer.visit source (document, .zero) node).1

/-- The visits of texts in order. -/
def visits : Document → List NodeId → List Visit
  | _, [] => []
  | document, node :: rest =>
    localizer.visitOf source document node :: visits (localizer.visited source document node) rest

theorem visit_eq (stats : PassStats) (node : NodeId) :
    localizer.visit source (document, stats) node =
      (localizer.visited source document node,
        stats.record (localizer.visitOf source document node)) := by
  rw [visited, visit, visit, visitOf, PassStats.record]
  cases localizer.localizeText document node source <;> rfl

theorem foldl_visit (nodes : List NodeId) :
    ∀ (document : Document) (stats : PassStats),
      nodes.foldl (localizer.visit source) (document, stats) =
        (nodes.foldl (localizer.visited source) document,
          (localizer.visits source document nodes).foldl PassStats.record stats) := by
  induction nodes with
  | nil => exact fun _ _ => rfl
  | cons node rest ih =>
    intro document stats
    rw [List.foldl_cons, visit_eq, ih, visits, List.foldl_cons, List.foldl_cons]

/-- **A pass counts what becomes of the texts that it visits.** -/
theorem visitAll_eq (nodes : List NodeId) :
    localizer.visitAll source document nodes =
      (nodes.foldl (localizer.visited source) document,
        (localizer.visits source document nodes).foldl PassStats.record .zero) :=
  localizer.foldl_visit source nodes document .zero

/-! ## What is visited on account of a change -/

/-- The text that is visited because it was changed. -/
def textStops (document : Document) (change : Change) : List NodeId :=
  if change.isText && localizer.covers document change.target then [change.target] else []

/-- The texts that are visited because a node came. -/
def nodeStops (document : Document) (node : NodeId) : List NodeId :=
  if localizer.covers document node then
    if (document.forest.text? node).isSome then [node] else document.forest.textNodes node
  else []

/-- The texts that are visited on account of several things, each of which is looked at
in the document that is left by the visits before. -/
def route {α : Type} (stops : Document → α → List NodeId) : Document → List α → List NodeId
  | _, [] => []
  | document, item :: rest =>
    stops document item ++
      route stops ((stops document item).foldl (localizer.visited localizer.htmlLanguage) document)
        rest

/-- The texts that are visited when one of the observers is called. -/
def heardRoute (document : Document) (id : ObserverId) (changes : List Change) : List NodeId :=
  if localizer.watch.texts = id then localizer.route localizer.textStops document changes
  else localizer.route localizer.nodeStops document (changes.flatMap Change.added)

theorem localizeIfText_eq (node : NodeId) :
    localizer.localizeIfText document node
      = localizer.visited localizer.htmlLanguage document node := by
  rw [localizeIfText, visited, visit]
  cases localizer.localizeText document node localizer.htmlLanguage <;> rfl

theorem hearText_eq (change : Change) :
    localizer.hearText document change =
      (localizer.textStops document change).foldl
        (localizer.visited localizer.htmlLanguage) document := by
  rw [hearText, textStops]
  split
  · exact localizer.localizeIfText_eq document change.target
  · rfl

/-- Two localizers that differ in the count of their passes. -/
def recount (passes : Nat) (stats : PassStats) : Localizer :=
  { localizer with passes := passes, lastPass := stats }

theorem hearNode_eq (passes : Nat) (stats : PassStats) (node : NodeId) :
    ∃ passes' stats', hearNode (localizer.recount passes stats, document) node =
      (localizer.recount passes' stats',
        (localizer.nodeStops document node).foldl
          (localizer.visited localizer.htmlLanguage) document) := by
  have covers : (localizer.recount passes stats).covers document node
      = localizer.covers document node := rfl
  rw [hearNode, nodeStops]
  dsimp only
  rw [covers]
  split
  · split
    · exact ⟨passes, stats, congrArg _ (localizer.localizeIfText_eq document node)⟩
    · refine ⟨passes + 1, _, congrArg (Prod.mk _) ?_⟩
      exact congrArg Prod.fst
        (localizer.visitAll_eq localizer.htmlLanguage document (document.forest.textNodes node))
  · exact ⟨passes, stats, rfl⟩

theorem foldl_hearText (changes : List Change) :
    ∀ document : Document, changes.foldl localizer.hearText document =
      (localizer.route localizer.textStops document changes).foldl
        (localizer.visited localizer.htmlLanguage) document := by
  induction changes with
  | nil => exact fun _ => rfl
  | cons change rest ih =>
    intro document
    rw [List.foldl_cons, route, List.foldl_append, ← hearText_eq, ih]

theorem foldl_hearNode (nodes : List NodeId) :
    ∀ (document : Document) (passes : Nat) (stats : PassStats), ∃ passes' stats',
      nodes.foldl hearNode (localizer.recount passes stats, document) =
        (localizer.recount passes' stats',
          (localizer.route localizer.nodeStops document nodes).foldl
            (localizer.visited localizer.htmlLanguage) document) := by
  induction nodes with
  | nil => exact fun _ passes stats => ⟨passes, stats, rfl⟩
  | cons node rest ih =>
    intro document passes stats
    obtain ⟨passes', stats', first⟩ := localizer.hearNode_eq document passes stats node
    rw [List.foldl_cons, first, route, List.foldl_append]
    exact ih _ passes' stats'

theorem whileHearing_eq (changes : List Change) :
    ∃ passes stats, localizer.whileHearing document changes =
      (localizer.recount passes stats,
        (localizer.route localizer.nodeStops (localizer.watch.suspend document).1
          (changes.flatMap Change.added)).foldl (localizer.visited localizer.htmlLanguage)
            (localizer.watch.suspend document).1) :=
  localizer.foldl_hearNode _ _ localizer.passes localizer.lastPass

/-- **When an observer is called, the texts on its route are visited in order.** -/
theorem hear_eq (id : ObserverId) (changes : List Change) :
    (localizer.hear document id changes).2 =
      localizer.watch.resume (localizer.watch.suspend document).2
        ((localizer.heardRoute (localizer.watch.suspend document).1 id changes).foldl
          (localizer.visited localizer.htmlLanguage) (localizer.watch.suspend document).1) := by
  rw [hear, heardRoute]
  split
  · rw [hearTexts, ← foldl_hearText]
  · obtain ⟨passes, stats, heard⟩ := localizer.whileHearing_eq document changes
    rw [hearNodes_eq, heard]

/-! ## The visits of passes and of what is asked for -/

/-- The visits of a pass that the localizer does not hear of. -/
def passVisits (root : NodeId) (source : Text) : List Visit :=
  localizer.visits source (localizer.watch.suspend document).1
    ((localizer.watch.suspend document).1.forest.textNodes root)

/-- The visits when one of the observers is called. -/
def hearVisits (id : ObserverId) (changes : List Change) : List Visit :=
  localizer.visits localizer.htmlLanguage (localizer.watch.suspend document).1
    (localizer.heardRoute (localizer.watch.suspend document).1 id changes)

/-- The visits when a localizer is asked for something. -/
def requestVisits : Request → List Visit
  | .changeLanguage language =>
    if language = localizer.language ∨ localizer.resolve language = localizer.language then []
    else
      (localizer.setLanguage language).passVisits document localizer.watch.target localizer.language
  | .localizeText node source =>
    [localizer.visitOf source (localizer.watch.suspend document).1 node]
  | .localizeTree root source => localizer.passVisits document root source
  | _ => []

/-- The visits when a localizer is attached. -/
def attachVisits (host : Host) (options : LocalizerOptions) : List Visit :=
  match options.catalog.validate with
  | .error _ => []
  | .ok _ =>
    let (localizer, document) := create document host options
    localizer.passVisits document localizer.watch.target localizer.htmlLanguage

/-- A pass that the localizer does not hear of visits its texts in order and counts
what becomes of them. -/
theorem localizeTreeUnheard_eq (root : NodeId) (source : Text) :
    (localizer.localizeTreeUnheard document root source).2 =
      (localizer.watch.resume (localizer.watch.suspend document).2
        (((localizer.watch.suspend document).1.forest.textNodes root).foldl
          (localizer.visited source) (localizer.watch.suspend document).1),
        (localizer.passVisits document root source).foldl PassStats.record .zero) := by
  have opened : (localizer.localizeTreeUnheard document root source).2 =
      (localizer.watch.resume (localizer.watch.suspend document).2
        (localizer.visitAll source (localizer.watch.suspend document).1
          ((localizer.watch.suspend document).1.forest.textNodes root)).1,
        (localizer.visitAll source (localizer.watch.suspend document).1
          ((localizer.watch.suspend document).1.forest.textNodes root)).2) := rfl
  rw [opened, visitAll_eq, passVisits]

/-- A text that is localized alone is visited once, whether that succeeds or not. -/
theorem localizeTextUnheard_fst (node : NodeId) (source : Text) :
    (localizer.localizeTextUnheard document node source).1 =
      localizer.watch.resume (localizer.watch.suspend document).2
        (localizer.visited source (localizer.watch.suspend document).1 node) := by
  rw [localizeTextUnheard, visited, visit]
  dsimp only
  cases localizer.localizeText (localizer.watch.suspend document).1 node source <;> rfl

/-! ## Visits as changes of forests -/

theorem forest_visited (node : NodeId) :
    (localizer.visited source document node).forest =
      document.forest.localize (localizer.counterpart? source) node :=
  localizer.forest_visit document node source .zero

theorem forest_foldl_visited (nodes : List NodeId) :
    (nodes.foldl (localizer.visited source) document).forest =
      nodes.foldl (Forest.localize (localizer.counterpart? source)) document.forest := by
  rw [← forest_visitAll, visitAll_eq]

theorem forest_hear (id : ObserverId) (changes : List Change) :
    (localizer.hear document id changes).2.forest =
      (localizer.heardRoute (localizer.watch.suspend document).1 id changes).foldl
        (Forest.localize (localizer.counterpart? localizer.htmlLanguage)) document.forest := by
  rw [hear_eq, Watch.forest_resume, forest_foldl_visited, Watch.forest_suspend]

/-- What becomes of a text is seen from its reading. -/
theorem outcome?_visitOf (node : NodeId) :
    (localizer.visitOf source document node).outcome? =
      (document.forest.reading? node).map fun reading =>
        (reading.localized (localizer.counterpart? source)).2 := by
  rw [visitOf]
  cases read : document.forest.reading? node with
  | none =>
    rw [localizer.localizeText_of_silent document node source read]
    rfl
  | some reading =>
    obtain ⟨after, done, _⟩ := localizer.localizeText_of_reading? document node source read
    rw [done]
    rfl

end Localizer

/-! ## What all visits keep -/

/-- What every visit keeps of a forest, and what is true of every visit meanwhile. -/
structure VisitRule (Holds : Forest → Prop) (Sound : Visit → Prop) : Prop where
  visit : ∀ (forest : Forest) (node : NodeId) (counterpart? : Text → Option Text), Holds forest →
    Holds (forest.localize counterpart? node) ∧
      Sound ⟨node, (forest.reading? node).map fun reading => (reading.localized counterpart?).2⟩

namespace VisitRule

variable {Holds : Forest → Prop} {Sound : Visit → Prop} (rule : VisitRule Holds Sound)
  (localizer : Localizer)
include rule

omit localizer in
theorem foldl_localize (counterpart? : Text → Option Text) (nodes : List NodeId) :
    ∀ forest : Forest, Holds forest →
      Holds (nodes.foldl (Forest.localize counterpart?) forest) := by
  induction nodes with
  | nil => exact fun _ holds => holds
  | cons node rest ih => exact fun forest holds => ih _ (rule.visit forest node _ holds).1

theorem visits (source : Text) (nodes : List NodeId) :
    ∀ document : Document, Holds document.forest →
      Holds (nodes.foldl (localizer.visited source) document).forest ∧
        ∀ visit ∈ localizer.visits source document nodes, Sound visit := by
  induction nodes with
  | nil => exact fun _ holds => ⟨holds, fun _ listed => absurd listed List.not_mem_nil⟩
  | cons node rest ih =>
    intro document holds
    obtain ⟨first, sound⟩ := rule.visit document.forest node (localizer.counterpart? source) holds
    rw [← localizer.forest_visited] at first
    rw [← localizer.outcome?_visitOf] at sound
    obtain ⟨last, others⟩ := ih _ first
    exact ⟨last, List.forall_mem_cons.mpr ⟨sound, others⟩⟩

variable {document : Document} (holds : Holds document.forest)
include holds

/-- Visits made while the watch is suspended. -/
theorem unheard (source : Text) (nodes : List NodeId) :
    Holds (localizer.watch.resume (localizer.watch.suspend document).2
        (nodes.foldl (localizer.visited source) (localizer.watch.suspend document).1)).forest ∧
      ∀ visit ∈ localizer.visits source (localizer.watch.suspend document).1 nodes,
        Sound visit := by
  have same := localizer.watch.forest_suspend document
  rw [Watch.forest_resume]
  exact rule.visits localizer source nodes _ (same.symm ▸ holds)

theorem localizeTreeUnheard (root : NodeId) (source : Text) :
    Holds (localizer.localizeTreeUnheard document root source).2.1.forest ∧
      ∀ visit ∈ localizer.passVisits document root source, Sound visit := by
  rw [Localizer.localizeTreeUnheard_eq]
  exact rule.unheard localizer holds source _

theorem hear (id : ObserverId) (changes : List Change) :
    Holds (localizer.hear document id changes).2.forest ∧
      ∀ visit ∈ localizer.hearVisits document id changes, Sound visit := by
  rw [Localizer.hear_eq]
  exact rule.unheard localizer holds _ _

theorem fulfil (host : Host) (request : Request) :
    Holds (localizer.fulfil document host request).2.1.forest ∧
      ∀ visit ∈ localizer.requestVisits document request, Sound visit := by
  have unnoted : ∀ visit ∈ ([] : List Visit), Sound visit :=
    fun _ listed => absurd listed List.not_mem_nil
  cases request with
  | changeLanguage language =>
    rw [Localizer.requestVisits, Localizer.fulfil, Localizer.changeLanguage]
    dsimp only
    split
    · exact ⟨holds, unnoted⟩
    · exact rule.localizeTreeUnheard (localizer.setLanguage language) holds _ _
  | localizeText node source =>
    rw [Localizer.requestVisits, Localizer.fulfil, Localizer.localizeTextUnheard_fst]
    exact rule.unheard localizer holds source [node]
  | localizeTree root source => exact rule.localizeTreeUnheard localizer holds root source
  | _ => exact ⟨holds, unnoted⟩

omit localizer in
theorem attach (host : Host) (options : LocalizerOptions) :
    (∀ localizer after, Localizer.attach document host options = .ok (localizer, after) →
        Holds after.forest) ∧
      ∀ visit ∈ Localizer.attachVisits document host options, Sound visit := by
  rw [Localizer.attach, Localizer.attachVisits]
  cases options.catalog.validate with
  | error problem => exact ⟨nofun, fun _ listed => absurd listed List.not_mem_nil⟩
  | ok _ =>
    have created : Holds (Localizer.create document host options).2.forest := holds
    obtain ⟨done, sound⟩ := rule.localizeTreeUnheard (Localizer.create document host options).1
      created (Localizer.create document host options).1.watch.target
      (Localizer.create document host options).1.htmlLanguage
    refine ⟨fun localizer after attached => ?_, sound⟩
    cases attached
    rw [Watch.forest_start]
    exact done

end VisitRule

end Polyglot
