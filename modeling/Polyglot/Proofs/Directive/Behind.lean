import Polyglot.Proofs.Directive.Markers

/-!
# Directives behind another text

A text without a marker has no part in what stands behind it: the directives of a
text that begins with a marker are found where they were, only later by as many
characters as were put in front (`Directives.read_append`). The same holds the other
way round of the directives that are cut off a text, whatever is left of it, since the
cut is made at the first of them.

Both together say that directives can be moved about: cut off the text that they were
written in and put behind any other one, they say what they said
(`Directives.read_moved`).
-/

set_option autoImplicit false

namespace Polyglot

namespace Directive

/-- An occurrence with more characters in front. -/
def Occurrence.behind (count : Nat) (occurrence : Occurrence) : Occurrence :=
  { occurrence with start := count + occurrence.start }

/-- Where a search begins to count is where its occurrences are counted from. -/
theorem scanFrom_add (count : Nat) (text : Text) :
    ∀ position skip : Nat,
      scanFrom (count + position) skip text =
        (scanFrom position skip text).map (Occurrence.behind count) := by
  induction text with
  | nil =>
    intro position skip
    simp [scanFrom]
  | cons c rest ih =>
    intro position skip
    cases skip with
    | succ skip => exact ih (position + 1) skip
    | zero =>
      cases front : at? (c :: rest) with
      | none =>
        rw [scanFrom_of_none _ front, scanFrom_of_none _ front]
        exact ih (position + 1) 0
      | some directive =>
        rw [scanFrom_of_some _ front, scanFrom_of_some _ front, List.map_cons]
        exact congrArg (_ :: ·) (ih (position + 1) _)

section Append

variable {base suffix : Text} (detached : Detached suffix)
include detached

/-- No marker stands where a text without one stands in front of a detached one. -/
theorem startsWithMarker_append_eq_false {c : Char} {rest : Text}
    (free : startsWithMarker (c :: rest) = false) :
    startsWithMarker (c :: (rest ++ suffix)) = false :=
  Bool.eq_false_iff.mpr fun marked =>
    Bool.eq_false_iff.mp free (startsWithMarker_of_append detached marked)

/-- A text without a marker is passed over. -/
theorem scanFrom_append (free : hasMarker base = false) :
    ∀ position : Nat,
      scanFrom position 0 (base ++ suffix) = scanFrom (base.length + position) 0 suffix := by
  induction base with
  | nil =>
    intro position
    rw [List.nil_append, List.length_nil, Nat.zero_add]
  | cons c rest ih =>
    intro position
    rw [hasMarker, Bool.or_eq_false_iff] at free
    have unmarked := startsWithMarker_append_eq_false detached free.1
    have front : at? (c :: (rest ++ suffix)) = none := by
      cases front : at? (c :: (rest ++ suffix)) with
      | none => rfl
      | some directive =>
        exact absurd (startsWithMarker_of_at? front) (Bool.eq_false_iff.mp unmarked)
    have later : rest.length + (position + 1) = (c :: rest).length + position := by
      rw [List.length_cons]
      omega
    rw [List.cons_append, scanFrom_of_none position front, ih free.2, later]

theorem scan_append (free : hasMarker base = false) :
    scan (base ++ suffix) = (scan suffix).map (Occurrence.behind base.length) := by
  rw [scan_eq, scanFrom_append detached free, scanFrom_add, scan_eq]

/-- No ignore mark is found in a text without a marker. -/
theorem firstWhere?_ignore_append (free : hasMarker base = false) :
    Text.firstWhere? startsWithIgnore (base ++ suffix) =
      (Text.firstWhere? startsWithIgnore suffix).map (base.length + ·) := by
  induction base with
  | nil => simp
  | cons c rest ih =>
    rw [hasMarker, Bool.or_eq_false_iff] at free
    have unmarked := startsWithMarker_append_eq_false detached free.1
    have here : ¬ startsWithIgnore (c :: (rest ++ suffix)) = true := fun here =>
      Bool.eq_false_iff.mp unmarked (startsWithMarker_of_startsWithIgnore here)
    rw [List.cons_append, Text.firstWhere?, if_neg here, ih free.2, Option.map_map]
    refine Option.map_congr fun place _ => ?_
    simp only [Function.comp_apply, List.length_cons]
    omega

/-- What is cut off a text goes with everything behind it. -/
theorem strip_append_detached (base : Text) : strip (base ++ suffix) = strip base := by
  induction base with
  | nil => exact strip_append rfl detached
  | cons c rest ih =>
    cases marked : startsWithMarker (c :: rest) with
    | true =>
      have marked' : startsWithMarker (c :: (rest ++ suffix)) = true :=
        startsWithMarker_append marked suffix
      rw [List.cons_append, strip, strip, if_pos marked, if_pos marked']
    | false =>
      have unmarked := startsWithMarker_append_eq_false detached marked
      rw [List.cons_append, strip, strip, marked, unmarked, ih]

end Append

theorem exists_eq_strip_append (text : Text) : ∃ rest, text = strip text ++ rest := by
  induction text with
  | nil => exact ⟨[], rfl⟩
  | cons c rest ih =>
    rw [strip]
    split
    · exact ⟨c :: rest, rfl⟩
    · obtain ⟨behind, whole⟩ := ih
      exact ⟨behind, congrArg (c :: ·) whole⟩

/-- No marker is left in a text that is cut at its first one. -/
theorem hasMarker_strip (text : Text) : hasMarker (strip text) = false := by
  induction text with
  | nil => rfl
  | cons c rest ih =>
    rw [strip]
    split
    · rfl
    · next unmarked =>
      obtain ⟨behind, whole⟩ := exists_eq_strip_append rest
      have here : startsWithMarker (c :: strip rest) = false :=
        Bool.eq_false_iff.mpr fun marked => unmarked (by
          rw [whole]
          exact startsWithMarker_append marked behind)
      rw [hasMarker, here, ih]
      rfl

end Directive

namespace Directives

open Directive

/-- Two positions that are both later by as much are in the same order. -/
theorem earlier?_map (count : Nat) (first second : Option Nat) :
    earlier? (first.map (count + ·)) (second.map (count + ·)) =
      (earlier? first second).map (count + ·) := by
  cases first <;> cases second <;> simp [earlier?, Nat.add_min_add_left]

/-- **A text without a marker in front of others only puts their directives off.** -/
theorem read_append {base suffix : Text} (free : hasMarker base = false)
    (detached : Detached suffix) :
    read (base ++ suffix) =
      { read suffix with start? := (read suffix).start?.map (base.length + ·) } := by
  have scanned := scan_append detached free
  have marks := firstWhere?_ignore_append detached free
  have directives : found (base ++ suffix) = found suffix := by
    rw [found, scanned, List.map_map]
    rfl
  have ignored : (read (base ++ suffix)).ignored = (read suffix).ignored := by
    rw [ignored_read, ignored_read, directives, marks, Option.isSome_map]
  have present : (read (base ++ suffix)).present = (read suffix).present := by
    rw [present_read, present_read, ignored, scanned, List.isEmpty_map]
  have start : (read (base ++ suffix)).start? = (read suffix).start?.map (base.length + ·) := by
    rw [start?_read, start?_read, scanned, marks, List.head?_map, Option.map_map, ← earlier?_map,
      Option.map_map]
    rfl
  have data : (read (base ++ suffix)).data = (read suffix).data := by
    rw [data_read, data_read, directives]
  have keySuffix : (read (base ++ suffix)).keySuffix = (read suffix).keySuffix := by
    rw [keySuffix_read, keySuffix_read, directives]
  dsimp only
  rw [← present, ← ignored, ← start, ← data, ← keySuffix]

/-- Directives that are cut off a text begin where the cut was made. -/
theorem start?_tail {text : Text} {start : Nat} (begins : (read text).start? = some start) :
    (read (text.drop start)).start? = some 0 := by
  rw [start?_read] at begins ⊢
  obtain ⟨_, _, either⟩ := earlier?_le begins
  cases cut : text.drop start with
  | nil =>
    rcases either with first | mark
    · obtain ⟨occurrence, head, rfl⟩ := Option.map_eq_some_iff.mp first
      have stands := at?_of_mem_scan (List.mem_of_mem_head? head)
      rw [cut] at stands
      cases stands
    · have mark := Text.test_of_firstWhere? mark
      rw [cut] at mark
      cases mark
  | cons c rest =>
    rcases either with first | mark
    · obtain ⟨occurrence, head, rfl⟩ := Option.map_eq_some_iff.mp first
      have stands := at?_of_mem_scan (List.mem_of_mem_head? head)
      rw [cut] at stands
      rw [scan_eq, scanFrom_of_some 0 stands, List.head?_cons, Option.map_some]
      cases Text.firstWhere? startsWithIgnore (c :: rest) <;> simp [earlier?]
    · have mark := Text.test_of_firstWhere? mark
      rw [cut] at mark
      have found : Text.firstWhere? startsWithIgnore (c :: rest) = some 0 := by
        rw [Text.firstWhere?, if_pos mark]
      rw [found]
      cases (scan (c :: rest)).head?.map Occurrence.start <;> simp [earlier?]

/-- Directives that are cut off a text are what they were, apart from where they
begin. -/
theorem read_drop {text : Text} {start : Nat} (begins : (read text).start? = some start) :
    read (text.drop start) = { read text with start? := some 0 } := by
  obtain ⟨data, ignored, keySuffix, _⟩ := read_tail begins
  have startAgain := start?_tail begins
  have present : (read (text.drop start)).present = (read text).present :=
    (present_of_start startAgain).trans (present_of_start begins).symm
  dsimp only
  rw [← present, ← ignored, ← startAgain, ← data, ← keySuffix]

/-- **Directives can be moved.** What is cut off a text that has any begins with a
marker and says what they said in it, and so it does behind any text without a marker;
only where they begin changes. -/
theorem read_moved {text : Text} (present : (read text).present = true) :
    ∃ tail, (read text).tail? text = some tail ∧
      (read text).baseText text ++ tail = text ∧
      hasMarker tail = true ∧
      read tail = { read text with start? := some 0 } ∧
      (read tail).byteOffset? tail = some 0 ∧
      ∀ base, hasMarker base = false →
        read (base ++ tail) = { read text with start? := some base.length } ∧
        (read (base ++ tail)).byteOffset? (base ++ tail) = some (Text.byteLength base) := by
  obtain ⟨start, begins⟩ := exists_start present
  obtain ⟨_, _, _, marked⟩ := read_tail begins
  have again := read_drop begins
  refine ⟨text.drop start, ?_, ?_, hasMarker_of_startsWithMarker marked, again, ?_, ?_⟩
  · rw [tail?, begins, Option.map_some]
  · rw [baseText, begins]
    exact List.take_append_drop start text
  · rw [again]
    rfl
  · intro base free
    have behind := read_append free (.inr marked)
    rw [again, Option.map_some, Nat.add_zero] at behind
    refine ⟨behind, ?_⟩
    rw [behind, byteOffset?, Option.map_some, List.take_left]

/-- A text whose first marker is no directive, for want of a payload in its line. -/
def interrupted : Text := "é I18N_K \nb I18N_D n=1 I18N_I".toList

/-- Of that text the pair and the ignore mark are cut off, and put behind another word
they are both found again. -/
theorem read_moved_interrupted :
    (read interrupted).present = true ∧
    ∃ tail, (read interrupted).tail? interrupted = some tail ∧
      tail = " I18N_D n=1 I18N_I".toList ∧
      read tail = ⟨true, true, some 0, [⟨['n'], ['1']⟩], []⟩ ∧
      hasMarker ['ü'] = false ∧
      read ('ü' :: tail) = ⟨true, true, some 1, [⟨['n'], ['1']⟩], []⟩ ∧
      (read ('ü' :: tail)).byteOffset? ('ü' :: tail) = some 2 := by
  have present : (read interrupted).present = true := by decide
  obtain ⟨tail, cut, _, _, again, _, behind⟩ := read_moved present
  obtain ⟨moved, offset⟩ := behind ['ü'] (by decide)
  have parts : (read interrupted).ignored = true ∧
      (read interrupted).data = [⟨['n'], ['1']⟩] ∧ (read interrupted).keySuffix = [] := by decide
  obtain ⟨ignored, data, keySuffix⟩ := parts
  dsimp only at again moved
  rw [present, ignored, data, keySuffix] at again moved
  have tailIs : (read interrupted).tail? interrupted = some " I18N_D n=1 I18N_I".toList := by decide
  exact ⟨present, tail, cut, Option.some.inj (cut.symm.trans tailIs), again, by decide, moved,
    offset⟩

end Directives

end Polyglot
