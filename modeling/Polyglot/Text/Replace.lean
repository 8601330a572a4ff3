import Polyglot.Text.Basic

/-!
# Replacing every occurrence

`replaceAll` reads a text from the left and exchanges each occurrence of a
pattern, continuing after the occurrence, so that occurrences never overlap and
nothing that was written in is looked at again.  The two equations
`replaceAll_append` and `replaceAll_cons` say so and determine it.
-/

set_option autoImplicit false

namespace Polyglot.Text

/-- The rest of a replacement, when the next `skip` characters belong to an
occurrence that has been exchanged already. -/
def replaceFrom (pattern replacement : Text) : Nat → Text → Text
  | _, [] => []
  | skip + 1, _ :: rest => replaceFrom pattern replacement skip rest
  | 0, c :: rest =>
    if startsWith pattern (c :: rest) then
      replacement ++ replaceFrom pattern replacement (pattern.length - 1) rest
    else c :: replaceFrom pattern replacement 0 rest

/-- A text with each occurrence of a pattern exchanged for a replacement; the
empty pattern occurs nowhere. -/
def replaceAll (pattern replacement text : Text) : Text :=
  if pattern.isEmpty then text else replaceFrom pattern replacement 0 text

theorem replaceFrom_eq_drop (pattern replacement : Text) :
    ∀ (skip : Nat) (text : Text),
      replaceFrom pattern replacement skip text
        = replaceFrom pattern replacement 0 (text.drop skip)
  | 0, _ => rfl
  | _ + 1, [] => by simp [replaceFrom]
  | skip + 1, _ :: rest => by
    simpa [replaceFrom] using replaceFrom_eq_drop pattern replacement skip rest

@[simp] theorem replaceAll_nil (pattern replacement : Text) :
    replaceAll pattern replacement [] = [] := by
  simp [replaceAll, replaceFrom]

/-- An occurrence at the front is exchanged and the rest is treated alike. -/
theorem replaceAll_append {pattern : Text} (replacement rest : Text) (h : pattern ≠ []) :
    replaceAll pattern replacement (pattern ++ rest)
      = replacement ++ replaceAll pattern replacement rest := by
  cases pattern with
  | nil => exact absurd rfl h
  | cons p ps =>
    have hstart : startsWith (p :: ps) (p :: ps ++ rest) = true := by
      rw [startsWith, after?_append]
      rfl
    rw [List.cons_append] at hstart
    simp only [replaceAll, List.isEmpty_cons, Bool.false_eq_true, if_false, List.cons_append,
      replaceFrom, hstart, if_true, List.length_cons, Nat.add_sub_cancel]
    rw [replaceFrom_eq_drop]
    simp

/-- A character at which no occurrence starts is kept. -/
theorem replaceAll_cons {pattern : Text} (replacement : Text) {c : Char} {rest : Text}
    (h : startsWith pattern (c :: rest) = false) :
    replaceAll pattern replacement (c :: rest) = c :: replaceAll pattern replacement rest := by
  cases pattern with
  | nil => simp [startsWith, after?] at h
  | cons p ps => simp [replaceAll, replaceFrom, h]

end Polyglot.Text
