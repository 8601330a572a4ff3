import Mathlib.Data.Nat.Find
import Polyglot.Proofs.Directive.Grammar

/-!
# Nothing is left to strip

There are two ways to cut directives off a text: at the first directive or ignore mark, which
leaves the readable part, and at the first marker, which leaves no more than that. A cut
changes what stands to the right of everything before it, and could in principle make a
directive of what was none: an ignore mark may now end the text, a payload may have become
shorter, a head may have lost the blank behind it.

It does not, since what is cut off begins with a blank. A tag that ended with the text before
the cut had ended at that blank (`OpensExempt.append`), and a payload begins as it did, since
no marker word reaches over the blank (`Opens.append`). So what opens a text after the cut
had opened it before, and the cut was made at the first such place
(`Directives.present_baseText`). Both cuts are therefore final (`Directives.cut_final`).
-/

set_option autoImplicit false

namespace Polyglot

namespace Directive

variable {text behind : Text}

/-- A directive opens a text just if a payload begins behind a head; the end of the payload has
no part in it. -/
theorem exists_opens_iff :
    (∃ directive, Opens text directive) ↔
      ∃ tag c rest, headAt? text = some (tag, c :: rest) ∧ isLineEnd c = false ∧
        ¬ markerWord <+: rest := by
  constructor
  · rintro ⟨directive, opens⟩
    obtain @⟨blank, gap, mark, tag, payload, rest, leading, known, tagged, solid, ends, filled,
      reaches⟩ := opens
    have head := headAt?_eq_some_iff.mpr ⟨blank, mark, gap, leading, known, tagged, solid, ends,
      Eq.refl (blank :: (mark ++ (tag ++ gap :: rest)))⟩
    rw [← payloadAt_eq_iff.mpr reaches] at filled
    cases rest with
    | nil => exact absurd rfl filled
    | cons c rest => exact ⟨tag, c, rest, head, payloadAt_cons_ne_nil_iff.mp filled⟩
  · rintro ⟨tag, c, rest, head, goesOn⟩
    obtain ⟨blank, mark, gap, leading, known, tagged, solid, ends, rfl⟩ :=
      headAt?_eq_some_iff.mp head
    exact ⟨_, .intro leading known tagged solid ends (payloadAt_cons_ne_nil_iff.mpr goesOn)
      (payloadAt_eq_iff.mp rfl)⟩

section Append

variable (detached : Detached behind)
include detached

/-- What stands behind a detached text begins with a blank, if there is anything. -/
theorem isBlank_of_mem_head? : ∀ c ∈ behind.head?, isBlank c = true := by
  rcases detached with rfl | marked
  · nofun
  · obtain ⟨blank, leading, _, _, _, rfl⟩ := startsWithMarker_iff.mp marked
    rintro c ⟨⟩
    exact leading

/-- No marker word reaches into what begins with a blank. -/
theorem markerWord_prefix_of_append {rest : Text} (reaches : markerWord <+: rest ++ behind) :
    markerWord <+: rest := by
  obtain ⟨further, whole⟩ := reaches
  rcases List.append_eq_append_iff.mp whole with ⟨middle, rfl, _⟩ | ⟨middle, word, front⟩
  · exact List.prefix_append markerWord middle
  · cases middle with
    | nil =>
      rw [List.append_nil] at word
      rw [word]
    | cons c middle =>
      have leading : isBlank c = true := by
        apply isBlank_of_mem_head? detached c
        rw [front]
        rfl
      have inWord : c ∈ markerWord := by
        rw [word]
        exact List.mem_append_right rest List.mem_cons_self
      have solid : markerWord.all (fun c => !isBlank c) = true := by decide
      have plain := List.all_eq_true.mp solid c inWord
      rw [leading] at plain
      cases plain

/-- What opens a text still does with more behind it. -/
theorem Opens.append {directive : Directive} (opens : Opens text directive) :
    ∃ other, Opens (text ++ behind) other := by
  obtain ⟨tag, c, rest, head, sameLine, apart⟩ := exists_opens_iff.mp ⟨directive, opens⟩
  obtain ⟨blank, mark, gap, leading, known, tagged, solid, ends, rfl⟩ :=
    headAt?_eq_some_iff.mp head
  refine exists_opens_iff.mpr ⟨tag, c, rest ++ behind, ?_, sameLine, ?_⟩
  · refine headAt?_eq_some_iff.mpr ⟨blank, mark, gap, leading, known, tagged, solid, ends, ?_⟩
    simp only [List.cons_append, List.append_assoc]
  · intro reaches
    exact apart (markerWord_prefix_of_append detached reaches)

/-- An ignore mark at the end of a text ends before the blank that follows. -/
theorem OpensExempt.append (opens : OpensExempt text) : OpensExempt (text ++ behind) := by
  obtain @⟨blank, mark, tag, rest, leading, known, tagged, ends⟩ := opens
  have parts : blank :: (mark ++ (tag ++ rest)) ++ behind =
      blank :: (mark ++ (tag ++ (rest ++ behind))) := by
    simp only [List.cons_append, List.append_assoc]
  rw [parts]
  refine .intro leading known tagged ?_
  cases rest with
  | nil => exact isBlank_of_mem_head? detached
  | cons c rest => exact ends

theorem Opening.append (opening : Opening text) : Opening (text ++ behind) := by
  rcases opening with ⟨directive, opens⟩ | exempt
  · exact .inl (opens.append detached)
  · exact .inr (exempt.append detached)

end Append

theorem not_opening_nil : ¬ Opening [] := by
  rintro (⟨directive, opens⟩ | exempt)
  · exact not_opens_nil directive opens
  · cases exempt

end Directive

namespace Directives

open Directive

/-- Directives begin no later than at any place where one opens or an ignore mark stands. -/
theorem exists_start_le {text : Text} {place : Nat} (opening : Opening (text.drop place)) :
    ∃ start ≤ place, (read text).start? = some start := by
  classical
  have anywhere : ∃ place, Opening (text.drop place) := ⟨place, opening⟩
  refine ⟨Nat.find anywhere, Nat.find_min' anywhere opening, start?_eq_some_iff.mpr ?_⟩
  exact ⟨Nat.find_spec anywhere, fun other opens => Nat.find_min' anywhere opens⟩

variable (text : Text)

/-- What is cut off the readable part begins with a marker, if it is anything. -/
theorem exists_baseText_append :
    ∃ tail, text = (read text).baseText text ++ tail ∧ Detached tail := by
  rw [baseText]
  cases begins : (read text).start? with
  | none => exact ⟨[], (List.append_nil text).symm, .inl rfl⟩
  | some start =>
    obtain ⟨_, _, _, marked⟩ := read_tail begins
    exact ⟨text.drop start, (List.take_append_drop start text).symm, .inr marked⟩

/-- **The readable part of a text has no directives.** -/
theorem present_baseText : (read ((read text).baseText text)).present = false := by
  rw [Bool.eq_false_iff]
  intro present
  obtain ⟨place, begins⟩ := exists_start present
  obtain ⟨opening, _⟩ := start?_eq_some_iff.mp begins
  obtain ⟨tail, whole, detached⟩ := exists_baseText_append text
  have inside : place < ((read text).baseText text).length := by
    rw [← Nat.not_le, ← List.drop_eq_nil_iff]
    intro ended
    exact not_opening_nil (ended ▸ opening)
  have before : Opening (text.drop place) := by
    rw [whole, List.drop_append_of_le_length inside.le]
    exact opening.append detached
  obtain ⟨start, least, begins⟩ := exists_start_le before
  have short : ((read text).baseText text).length ≤ start := by
    rw [baseText, begins]
    exact List.length_take_le start text
  omega

/-- The cut at the first marker leaves no more than the readable part. -/
theorem strip_isPrefix_baseText : strip text <+: (read text).baseText text := by
  obtain ⟨tail, whole, detached⟩ := exists_baseText_append text
  obtain ⟨rest, parts⟩ := exists_eq_strip_append ((read text).baseText text)
  have same : strip text = strip ((read text).baseText text) := by
    conv_lhs => rw [whole]
    exact strip_append_detached detached _
  exact ⟨rest, by rw [same, ← parts]⟩

/-- **Both cuts are final.** The readable part of a text has no directives, and neither has the
text up to its first marker. The latter has no marker in it and is a beginning of the former.
Made again, both cuts take nothing off. -/
theorem cut_final :
    (read ((read text).baseText text)).present = false ∧ (read (strip text)).present = false ∧
      hasMarker (strip text) = false ∧ strip text <+: (read text).baseText text ∧
      (read ((read text).baseText text)).baseText ((read text).baseText text) =
        (read text).baseText text ∧
      strip (strip text) = strip text := by
  have absent := present_baseText text
  have unmarked := hasMarker_strip text
  exact ⟨absent, present_of_free unmarked, unmarked, strip_isPrefix_baseText text,
    baseText_of_absent absent, strip_eq_self unmarked⟩

/-- A head whose line ends before there is a payload stays in the readable part. -/
example :
    let text := "a I18N_K \n I18N_D n=1".toList
    (read text).baseText text = "a I18N_K \n".toList ∧ strip text = ['a'] := by
  decide

end Directives

end Polyglot
