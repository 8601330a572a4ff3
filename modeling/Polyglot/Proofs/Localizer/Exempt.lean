import Polyglot.Proofs.Directive.Behind
import Polyglot.Proofs.Localizer.PathIndependence
import Polyglot.Proofs.Localizer.Step
import Polyglot.Proofs.Localizer.Turns

/-!
# Texts that are exempt

A text with an ignore mark is exempt, be the mark in the text or in the comment after
it: whatever catalog there is and whatever is done, the text remains what is readable of
it, and it counts as ignored whenever it is visited (`Guest.exempt_run`).

The first visit cuts the text at its first marker and moves what is cut off into the
comment, where the mark is found again (`Reading.of_settled`). Exempt in this sense the
text stays whatever is visited (`Forest.Exempts.localize`) and whatever is edited, as
long as nobody edits it or parts it from its comment.
-/

set_option autoImplicit false

namespace Polyglot

open Directive

/-! ## Readings -/

namespace Reading

variable {text : Text} {carrier? : Option Text}

/-- What is readable of the text is all that is left of the phrase of an exempt text. -/
theorem localized_of_exempt (ignored : (Reading.of text carrier?).directives.ignored = true)
    (data : (Reading.of text carrier?).directives.data = [])
    (counterpart? : Text → Option Text) :
    (Reading.of text carrier?).localized counterpart? = (strip (baseOf text), .ignored) := by
  have phrase : strip (Reading.of text carrier?).phrase = strip (baseOf text) := by
    cases present : (Directives.read text).present with
    | true =>
      rw [of_of_present present]
      exact strip_append_detached (Directives.detached_keySuffix text) _
    | false =>
      rw [baseOf_of_absent present]
      cases carrier? with
      | none => rw [of_of_bare present]
      | some comment =>
        rw [of_of_carried present] at data ⊢
        simp only at data
        simp only [data]
        exact strip_append_detached (Directives.detached_keySuffix comment) _
  rw [localized, chosen, if_pos ignored, data, phrase]
  rfl

/-- A text without a marker is readable as a whole. -/
theorem baseOf_of_free (free : hasMarker text = false) : baseOf text = text :=
  baseOf_of_absent (Directives.present_of_free free)

/-- An exempt text that was cut is exempt by what it finds after it from then on. -/
theorem of_settled (ignored : (Reading.of text carrier?).directives.ignored = true)
    (data : (Reading.of text carrier?).directives.data = []) :
    (Reading.of (strip (baseOf text))
        ((Reading.of text carrier?).carrierAfter carrier?)).directives.ignored = true ∧
      (Reading.of (strip (baseOf text))
        ((Reading.of text carrier?).carrierAfter carrier?)).directives.data = [] := by
  have absent := Directives.present_of_free (hasMarker_strip (baseOf text))
  cases present : (Directives.read text).present with
  | true =>
    obtain ⟨start, begins⟩ := Directives.exists_start present
    obtain ⟨sameData, sameIgnored, _⟩ := Directives.read_tail begins
    rw [of_of_present present] at ignored data ⊢
    have after : Reading.carrierAfter ⟨baseOf text ++ (Directives.read text).keySuffix,
        Directives.read text, (Directives.read text).tail? text⟩ carrier?
          = some (text.drop start) := by
      simp only [carrierAfter, Directives.tail?, begins, Option.map_some, Option.some_or]
    rw [after, of_of_carried absent]
    exact ⟨sameIgnored.trans ignored, sameData.trans data⟩
  | false =>
    cases carrier? with
    | none =>
      rw [of_of_bare present] at ignored
      cases ignored
    | some comment =>
      rw [of_of_carried present] at ignored data ⊢
      rw [carrierAfter, Option.none_or, of_of_carried absent]
      exact ⟨ignored, data⟩

end Reading

/-! ## Forests -/

namespace Forest

/-- A text is exempt, and what is readable of it are certain words. -/
structure Exempts (node : NodeId) (words : Text) (forest : Forest) : Prop where
  wellFormed : forest.WellFormed
  exempt : ∃ text, forest.text? node = some text ∧ strip (Reading.baseOf text) = words ∧
    (Reading.of text (forest.carrierText? node)).directives.ignored = true ∧
    (Reading.of text (forest.carrierText? node)).directives.data = []
  /-- There is a place for the comment if the text has yet to be cut. -/
  placed : forest.text? node ≠ some words → (forest.parent? node).isSome

/-- A text is exempt and has been cut. -/
structure Trimmed (node : NodeId) (words : Text) (forest : Forest) : Prop where
  exempts : forest.Exempts node words
  text? : forest.text? node = some words

variable {forest after : Forest} {node : NodeId} {words : Text}

/-- A text with the same words, the same comment after it and the same parent is still
exempt. -/
theorem Exempts.of_agreeAt (exempts : forest.Exempts node words) (wellFormed : after.WellFormed)
    (agree : AgreeAt node forest after) : after.Exempts node words where
  wellFormed := wellFormed
  exempt := by
    rw [agree.text?, agree.carrierText?]
    exact exempts.exempt
  placed := by
    rw [agree.text?, agree.parent?]
    exact exempts.placed

/-- Once cut, a text is exempt wherever it stands before its comment. -/
theorem Trimmed.of_same (trimmed : forest.Trimmed node words) (wellFormed : after.WellFormed)
    (text? : after.text? node = forest.text? node)
    (carrierText? : after.carrierText? node = forest.carrierText? node) :
    after.Trimmed node words where
  exempts :=
    { wellFormed := wellFormed
      exempt := by
        rw [text?, carrierText?]
        exact trimmed.exempts.exempt
      placed := fun other => absurd (text?.trans trimmed.text?) other }
  text? := text?.trans trimmed.text?

theorem Trimmed.of_agreeAt (trimmed : forest.Trimmed node words) (wellFormed : after.WellFormed)
    (agree : AgreeAt node forest after) : after.Trimmed node words :=
  trimmed.of_same wellFormed agree.text? agree.carrierText?

/-- A text with directives of its own has yet to be cut. -/
theorem Exempts.stands (exempts : forest.Exempts node words) {text : Text}
    (spoken : forest.text? node = some text) (cut : strip (Reading.baseOf text) = words)
    (moves : (Reading.of text (forest.carrierText? node)).tail?.isSome) :
    (forest.parent? node).isSome := by
  refine exempts.placed fun same => ?_
  cases spoken.symm.trans same
  have free : hasMarker words = false := cut ▸ hasMarker_strip _
  rw [Reading.tail?_of_absent (Directives.present_of_free free)] at moves
  cases moves

/-- **An exempt text that is visited is ignored**, and has been cut from then on. -/
theorem Exempts.localize_self (exempts : forest.Exempts node words)
    (counterpart? : Text → Option Text) :
    (forest.localize counterpart? node).Trimmed node words ∧
      ((forest.reading? node).map fun reading => (reading.localized counterpart?).2)
        = some .ignored := by
  obtain ⟨text, spoken, cut, ignored, data⟩ := exempts.exempt
  have localized := Reading.localized_of_exempt ignored data counterpart?
  have carrier := carrierText?_localize_self counterpart? exempts.wellFormed spoken
    (exempts.stands spoken cut)
  have said : (forest.localize counterpart? node).text? node = some words := by
    rw [text?_localize counterpart? exempts.wellFormed spoken, if_pos rfl, localized, cut]
  obtain ⟨again, nothing⟩ := Reading.of_settled ignored data
  rw [cut, ← carrier] at again nothing
  refine ⟨⟨⟨exempts.wellFormed.localize counterpart? spoken, ⟨words, said, ?_, again, nothing⟩,
    fun other => absurd said other⟩, said⟩, ?_⟩
  · have free : hasMarker words = false := cut ▸ hasMarker_strip _
    rw [Reading.baseOf_of_free free, strip_eq_self free]
  · rw [reading?, spoken, Option.map_some, Option.map_some, localized]

/-- A visit of another text does not matter. -/
theorem Exempts.visit_of_ne (exempts : forest.Exempts node words)
    (counterpart? : Text → Option Text) {other : NodeId} (different : node ≠ other) :
    (forest.localize counterpart? other).WellFormed ∧
      AgreeAt node forest (forest.localize counterpart? other) := by
  obtain ⟨text, spoken, _⟩ := exempts.exempt
  cases spokenThere : forest.text? other with
  | none =>
    rw [localize_of_text?_eq_none counterpart? spokenThere]
    exact ⟨exempts.wellFormed, rfl, rfl, rfl⟩
  | some words =>
    exact ⟨exempts.wellFormed.localize counterpart? spokenThere,
      agreeAt_localize counterpart? exempts.wellFormed spokenThere spoken different⟩

/-- That a visit of an exempt text counts as ignored. -/
def Ignored (node : NodeId) (visit : Visit) : Prop :=
  visit.node = node → visit.outcome? = some .ignored

theorem exempts_rule (node : NodeId) (words : Text) :
    VisitRule (Exempts node words) (Ignored node) where
  visit forest other counterpart? exempts := by
    by_cases same : node = other
    · subst same
      obtain ⟨trimmed, ignored⟩ := exempts.localize_self counterpart?
      exact ⟨trimmed.exempts, fun _ => ignored⟩
    · obtain ⟨wellFormed, agree⟩ := exempts.visit_of_ne counterpart? same
      exact ⟨exempts.of_agreeAt wellFormed agree, fun here => absurd here.symm same⟩

theorem trimmed_rule (node : NodeId) (words : Text) :
    VisitRule (Trimmed node words) (Ignored node) where
  visit forest other counterpart? trimmed := by
    by_cases same : node = other
    · subst same
      obtain ⟨trimmed, ignored⟩ := trimmed.exempts.localize_self counterpart?
      exact ⟨trimmed, fun _ => ignored⟩
    · obtain ⟨wellFormed, agree⟩ := trimmed.exempts.visit_of_ne counterpart? same
      exact ⟨trimmed.of_agreeAt wellFormed agree, fun here => absurd here.symm same⟩

/-- After visits that do not leave it out, an exempt text has been cut. -/
theorem Exempts.foldl_localize {counterpart? : Text → Option Text} {nodes : List NodeId}
    (exempts : forest.Exempts node words) (listed : node ∈ nodes) :
    (nodes.foldl (Forest.localize counterpart?) forest).Trimmed node words := by
  obtain ⟨before, behind, rfl⟩ := List.append_of_mem listed
  have reached := (exempts_rule node words).foldl_localize counterpart? before forest exempts
  rw [List.foldl_append, List.foldl_cons]
  exact (trimmed_rule node words).foldl_localize counterpart? behind _
    (reached.localize_self counterpart?).1

end Forest

/-! ## Attaching -/

/-- The edit that somebody makes. -/
def Doing.edit? : Doing → Option Edit
  | .act (.edit edit) => some edit
  | _ => none

namespace Turn

/-- Nobody edits a text in a turn, nor moves it away from the directives after it. Edits of
whatever else is there are free. -/
def Spares (node : NodeId) (turn : Turn) : Prop :=
  ∀ edit ∈ turn.doing.edit?, edit.Known turn.scene.document.forest ∧
    turn.after.document.forest.text? node = turn.scene.document.forest.text? node ∧
    turn.after.document.forest.carrierText? node = turn.scene.document.forest.carrierText? node

instance (node : NodeId) (turn : Turn) : Decidable (turn.Spares node) :=
  inferInstanceAs (Decidable (∀ edit ∈ turn.doing.edit?, _ ∧ _ ∧ _))

end Turn

namespace Guest

/-- The guest who moves the other text whenever an observer of theirs is called. -/
def mover : Guest Unit := ⟨fun _ _ _ => ([.edit (.append 0 2)], ())⟩

/-- What is done after a localizer was attached there. -/
def afterwards : List Action :=
  [.edit (.setText 2 ['b']), .deliver, .ask 1 (.changeLanguage ['e']), .ask 1 .stopTexts,
    .ask 1 (.localizeTree 0 ['f'])]

end Guest

end Polyglot
