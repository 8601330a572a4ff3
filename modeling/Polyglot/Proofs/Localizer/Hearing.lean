import Mathlib.Logic.Function.Iterate
import Polyglot.Proofs.Forest.Ancestors
import Polyglot.Proofs.Localizer.Step
import Polyglot.Proofs.Localizer.Visits

/-!
# How often a text is visited

What a text is after a visit depends on what it was and on the directives that it finds
after it, and on nothing else (`Wording.localized`). So what it is after several visits
is known from their number (`Steady.foldl_localize`).

When changes are heard, what is to be visited is looked up again and again in a forest
that is being changed meanwhile. Where the visits do not change the answer, it is the
one that the forest gave at first (`Steady.forest_hear`): each text is visited as often
as it is listed among the texts and the nodes of which the changes tell (`textsDue`,
`nodesDue`), which may be more than once.
-/

set_option autoImplicit false

namespace Polyglot

/-! ## What a visit makes of a text -/

/-- A text and the directives that it finds after it. -/
structure Wording where
  text : Text
  carrier? : Option Text
  deriving DecidableEq, Repr

/-- What a text says and finds after it when it has been visited. -/
def Wording.localized (counterpart? : Text → Option Text) (wording : Wording) : Wording :=
  let reading := Reading.of wording.text wording.carrier?
  ⟨(reading.localized counterpart?).1, reading.carrierAfter wording.carrier?⟩

namespace Forest

/-- What a text says and finds after it. -/
def wording? (forest : Forest) (node : NodeId) : Option Wording :=
  (forest.text? node).map fun text => ⟨text, forest.carrierText? node⟩

/-- What is to be visited on account of changes of texts below a node. -/
def textsDue (forest : Forest) (top : NodeId) (changes : List Change) : List NodeId :=
  changes.flatMap fun change =>
    if change.isText then forest.textStop top change.target else []

/-- What is to be visited on account of nodes that came below a node. -/
def nodesDue (forest : Forest) (top : NodeId) (changes : List Change) : List NodeId :=
  (changes.flatMap Change.added).flatMap (forest.stops top)

section Wording

variable {forest : Forest} {node : NodeId}

/-- **A visit changes what one text says and finds after it, and leaves all others.** A
text with directives has to stand somewhere, or there is no place for them after it. -/
theorem wording?_localize (counterpart? : Text → Option Text) (wellFormed : forest.WellFormed)
    (stands : ((forest.reading? node).bind Reading.tail?).isSome → (forest.parent? node).isSome)
    (id : NodeId) :
    (forest.localize counterpart? node).wording? id =
      if id = node then (forest.wording? id).map (Wording.localized counterpart?)
      else forest.wording? id := by
  cases spoken : forest.text? node with
  | none =>
    rw [localize_of_text?_eq_none counterpart? spoken]
    split
    · next here => rw [here, wording?, spoken, Option.map_none, Option.map_none]
    · rfl
  | some text =>
    have words := text?_localize counterpart? wellFormed spoken id
    rw [wording?, words]
    by_cases here : id = node
    · subst here
      rw [reading?, spoken, Option.map_some, Option.bind_some] at stands
      rw [if_pos rfl, if_pos rfl, wording?, spoken, Option.map_some, Option.map_some,
        Option.map_some, carrierText?_localize_self counterpart? wellFormed spoken stands]
      rfl
    · rw [if_neg here, if_neg here, wording?]
      cases also : forest.text? id with
      | none => rfl
      | some words =>
        rw [Option.map_some, Option.map_some,
          (agreeAt_localize counterpart? wellFormed spoken also here).carrierText?]

end Wording

/-! ## Visits that do not change what is to be visited -/

/-- Forests in which the same is to be visited below a node as in a given one, and which
stay so whatever of it is visited. -/
structure Steady (counterpart? : Text → Option Text) (top : NodeId) (original : Forest)
    (Holds : Forest → Prop) : Prop where
  stops : ∀ forest, Holds forest → forest.stops top = original.stops top
  isText : ∀ forest, Holds forest → ∀ node,
    (forest.text? node).isSome = (original.text? node).isSome
  visit : ∀ forest, Holds forest → ∀ other, ∀ node ∈ original.stops top other,
    Holds (forest.localize counterpart? node) ∧
      ∀ id, (forest.localize counterpart? node).wording? id =
        if id = node then (forest.wording? id).map (Wording.localized counterpart?)
        else forest.wording? id

namespace Steady

variable {counterpart? : Text → Option Text} {top : NodeId} {original : Forest}
  {Holds : Forest → Prop} (steady : original.Steady counterpart? top Holds)
include steady

theorem textStop (forest : Forest) (holds : Holds forest) (node : NodeId) :
    forest.textStop top node = original.textStop top node := by
  rw [Forest.textStop, Forest.textStop, steady.isText forest holds, steady.stops forest holds]

/-- **Several visits** make of each text what as many visits to it alone would. -/
theorem foldl_localize (nodes : List NodeId)
    (listed : ∀ node ∈ nodes, ∃ other, node ∈ original.stops top other) :
    ∀ forest : Forest, Holds forest →
      Holds (nodes.foldl (Forest.localize counterpart?) forest) ∧
        ∀ id, (nodes.foldl (Forest.localize counterpart?) forest).wording? id =
          (forest.wording? id).map ((Wording.localized counterpart?)^[nodes.count id]) := by
  induction nodes with
  | nil => exact fun forest holds => ⟨holds, fun id => Option.map_id.symm ▸ rfl⟩
  | cons node rest ih =>
    intro forest holds
    obtain ⟨⟨other, here⟩, later⟩ := List.forall_mem_cons.mp listed
    obtain ⟨kept, first⟩ := steady.visit forest holds other node here
    obtain ⟨last, others⟩ := ih later _ kept
    refine ⟨last, fun id => ?_⟩
    rw [List.foldl_cons, others, first, List.count_cons]
    by_cases same : id = node
    · rw [if_pos same, Option.map_map, ← Function.iterate_succ, same, beq_self_eq_true, if_pos rfl]
    · rw [if_neg same, if_neg (by simpa using fun also => same also.symm), Nat.add_zero]

/-- Things that are looked at one after the other, each in the document that is left by
the visits before. -/
theorem foldl_route {α : Type} {localizer : Localizer}
    (speaks : localizer.counterpart? localizer.htmlLanguage = counterpart?)
    {looked : Document → α → List NodeId} {constant : α → List NodeId}
    (each : ∀ (document : Document) (item : α), Holds document.forest →
      (looked document item).foldl (Forest.localize counterpart?) document.forest =
        (constant item).foldl (Forest.localize counterpart?) document.forest)
    (listed : ∀ item, ∀ node ∈ constant item, ∃ other, node ∈ original.stops top other)
    (items : List α) :
    ∀ document : Document, Holds document.forest →
      (localizer.route looked document items).foldl (Forest.localize counterpart?)
          document.forest =
        (items.flatMap constant).foldl (Forest.localize counterpart?) document.forest := by
  induction items with
  | nil => exact fun _ _ => rfl
  | cons item rest ih =>
    intro document holds
    have left := localizer.forest_foldl_visited localizer.htmlLanguage document
      (looked document item)
    rw [speaks, each document item holds] at left
    have kept := (steady.foldl_localize (constant item) (listed item) document.forest holds).1
    rw [← left] at kept
    rw [Localizer.route, List.flatMap_cons, List.foldl_append, List.foldl_append,
      each document item holds, ← left, ih _ kept]

end Steady

/-! ### Orderly forests -/

/-- An orderly forest in which the same is to be visited below a node as in another one,
and every text that is to be visited stands somewhere. -/
structure OrderlyBelow (top : NodeId) (original forest : Forest) : Prop where
  orderly : forest.Orderly
  stops : forest.stops top = original.stops top
  isText : ∀ node, (forest.text? node).isSome = (original.text? node).isSome
  stands : ∀ other, ∀ node ∈ original.stops top other, (forest.parent? node).isSome

section Orderly

variable {forest : Forest} {node : NodeId} {text : Text} (counterpart? : Text → Option Text)
  (orderly : forest.Orderly) (spoken : forest.text? node = some text)
  (stands : (forest.parent? node).isSome)
include orderly spoken stands

/-- A visit keeps a forest orderly, and what is to be visited. -/
theorem Orderly.localize :
    (forest.localize counterpart? node).Orderly ∧
      ∀ top, (forest.localize counterpart? node).stops top = forest.stops top := by
  obtain ⟨written, alike, _, ⟨_, same⟩ | ⟨tail, _, ⟨loose, _⟩ | ⟨_, _, _, _, placed⟩⟩⟩ :=
    localize_cases counterpart? orderly.wellFormed spoken
  · rw [same]
    exact ⟨alike.orderly orderly, alike.stops⟩
  · rw [loose] at stands
    cases stands
  · have isComment : ∀ carrier, Localizer.carrier? forest node = some carrier →
        (written.comment? carrier).isSome := fun carrier found => by
      rw [alike.comment?]
      exact comment?_of_carrier? found
    have orderlyThen := alike.orderly orderly
    exact ⟨placed.orderly orderlyThen, fun top =>
      (placed.stops orderlyThen isComment top).trans (alike.stops top)⟩

end Orderly

/-- **Visits keep an orderly forest so.** -/
theorem Steady.of_orderly (counterpart? : Text → Option Text) (top : NodeId) (original : Forest) :
    original.Steady counterpart? top (OrderlyBelow top original) where
  stops _ holds := holds.stops
  isText _ holds := holds.isText
  visit forest holds other node listed := by
    have isText := isSome_text?_of_mem_stops listed
    rw [← holds.isText] at isText
    obtain ⟨text, spoken⟩ := Option.isSome_iff_exists.mp isText
    have wellFormed := holds.orderly.wellFormed
    have stands := holds.stands other node listed
    obtain ⟨orderly, stops⟩ := holds.orderly.localize counterpart? spoken stands
    refine ⟨⟨orderly, (stops top).trans holds.stops, fun id => ?_, fun another id also => ?_⟩,
      wording?_localize counterpart? wellFormed fun _ => stands⟩
    · rw [text?_localize counterpart? wellFormed spoken, ← holds.isText]
      split
      · next here => rw [here, spoken]; rfl
      · rfl
    · have words := isSome_text?_of_mem_stops also
      rw [← holds.isText] at words
      obtain ⟨words, spokenThere⟩ := Option.isSome_iff_exists.mp words
      rw [parent?_localize counterpart? wellFormed spoken spokenThere]
      exact holds.stands another id also

/-! ### What is due -/

/-- What is due because of changes is to be visited. -/
theorem exists_mem_stops_of_mem_textsDue {forest : Forest} {top node : NodeId}
    {changes : List Change} (listed : node ∈ forest.textsDue top changes) :
    ∃ other, node ∈ forest.stops top other := by
  obtain ⟨change, _, listed⟩ := List.mem_flatMap.mp listed
  split at listed
  · exact ⟨_, mem_stops_of_mem_textStop listed⟩
  · exact absurd listed List.not_mem_nil

theorem exists_mem_stops_of_mem_nodesDue {forest : Forest} {top node : NodeId}
    {changes : List Change} (listed : node ∈ forest.nodesDue top changes) :
    ∃ other, node ∈ forest.stops top other := by
  obtain ⟨other, _, listed⟩ := List.mem_flatMap.mp listed
  exact ⟨other, listed⟩

end Forest

namespace Localizer

variable (localizer : Localizer) {original : Forest} {Holds : Forest → Prop}
  (steady : original.Steady (localizer.counterpart? localizer.htmlLanguage)
    localizer.watch.target Holds) (document : Document)

/-- What is to be visited when one of the observers is called. -/
def dueOf (forest : Forest) (id : ObserverId) (changes : List Change) : List NodeId :=
  if localizer.watch.texts = id then forest.textsDue localizer.watch.target changes
  else forest.nodesDue localizer.watch.target changes

theorem exists_mem_stops_of_mem_dueOf {forest : Forest} {id : ObserverId} {changes : List Change}
    {node : NodeId} (listed : node ∈ localizer.dueOf forest id changes) :
    ∃ other, node ∈ forest.stops localizer.watch.target other := by
  rw [dueOf] at listed
  split at listed
  · exact Forest.exists_mem_stops_of_mem_textsDue listed
  · exact Forest.exists_mem_stops_of_mem_nodesDue listed

/-- A text that was changed is visited if it is in the subtree; what is no text does not
mind the visit. -/
theorem foldl_textStops (counterpart? : Text → Option Text) (change : Change) :
    (localizer.textStops document change).foldl (Forest.localize counterpart?) document.forest =
      (if change.isText then document.forest.textStop localizer.watch.target change.target
        else []).foldl (Forest.localize counterpart?) document.forest := by
  rw [textStops, covers, Forest.textStop, Forest.stops, Forest.textsAt]
  cases change.isText with
  | false => rfl
  | true =>
    rw [Bool.true_and, if_pos rfl]
    cases spoken : document.forest.text? change.target with
    | none =>
      split
      · exact Forest.localize_of_text?_eq_none counterpart? spoken
      · rfl
    | some text => rfl

include steady in
/-- **When an observer is called, what is due because of the changes is visited**, as the
forest says it in which the first visit is made. -/
theorem forest_hear_of_steady (holds : Holds document.forest) (id : ObserverId)
    (changes : List Change) :
    (localizer.hear document id changes).2.forest =
      (localizer.dueOf original id changes).foldl
        (Forest.localize (localizer.counterpart? localizer.htmlLanguage)) document.forest := by
  have same := localizer.watch.forest_suspend document
  rw [forest_hear, heardRoute, dueOf, ← same]
  rw [← same] at holds
  split
  · refine steady.foldl_route rfl (fun document change holds => ?_)
      (fun change node listed => ?_) changes _ holds
    · rw [foldl_textStops, steady.textStop _ holds]
    · split at listed
      · exact ⟨_, Forest.mem_stops_of_mem_textStop listed⟩
      · exact absurd listed List.not_mem_nil
  · refine steady.foldl_route rfl (fun document node holds => ?_)
      (fun item node listed => ⟨item, listed⟩) _ _ holds
    have looked : localizer.nodeStops document node
        = document.forest.stops localizer.watch.target node := rfl
    rw [looked, steady.stops _ holds]

end Localizer

end Polyglot
