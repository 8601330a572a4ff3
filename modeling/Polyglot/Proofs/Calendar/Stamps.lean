import Polyglot.Calendar.Stamp
import Polyglot.Proofs.Calendar.Dates
import Polyglot.Proofs.Text.Parts

/-!
# Reading the stamp of an instant

A stamp is read part by part, and each part is read as it was written, whatever follows it. A
number ends where its digits end, so what follows it has to begin with something else
(`Stamp.digits?_append`); in a stamp that is a blank or a colon. Years below zero and beyond
9999 have a sign, after which the number may be as long as it is.

All instants of the calendar are read again from their stamps (`Stamp.read?_write`).
-/

set_option autoImplicit false

namespace Polyglot

namespace Text

/-! ## Numbers -/

theorem digitsValue_eq (digits : Text) : digitsValue digits = Nat.ofDigitChars 10 digits 0 := by
  simp only [digitsValue, Nat.ofDigitChars, Nat.mul_comm]

/-- A number is read as it was written, zeros in front of it or not. -/
theorem digitsValue_ofNatPadded (width n : Nat) : digitsValue (ofNatPadded width n) = n := by
  rw [digitsValue_eq, ofNatPadded, Nat.ofDigitChars_append, Nat.ofDigitChars_replicate_zero,
    Nat.mul_zero, ofNat, Nat.ofDigitChars_ten_toDigits]

theorem isDigit_of_mem_ofNatPadded {width n : Nat} {c : Char} (listed : c ∈ ofNatPadded width n) :
    c.isDigit = true := by
  rcases List.mem_append.mp listed with zero | digit
  · rw [List.eq_of_mem_replicate zero]
    rfl
  · exact Nat.isDigit_of_mem_toDigits (by decide) (by decide) digit

theorem ofNatPadded_ne_nil (width n : Nat) : ofNatPadded width n ≠ [] := by
  intro none
  exact Nat.toDigits_ne_nil (List.append_eq_nil_iff.mp none).2

theorem length_ofNatPadded_le {width n : Nat} (filled : 0 < width) (short : n < 10 ^ width) :
    (ofNatPadded width n).length ≤ width := by
  have fits : (ofNat n).length ≤ width := (Nat.length_toDigits_le_iff (by decide) filled).mpr short
  rw [ofNatPadded, List.length_append, List.length_replicate]
  omega

theorem isBlank_of_isDigit {c : Char} (digit : c.isDigit = true) : isBlank c = false := by
  have range : 48 ≤ c.toNat ∧ c.toNat ≤ 57 := Char.isDigit_iff_toNat.mp digit
  simp only [isBlank, Bool.or_eq_false_iff, Bool.and_eq_false_iff, decide_eq_false_iff_not,
    beq_eq_false_iff_ne]
  omega

theorem trimStart_cons_of_not {c : Char} {rest : Text} (seen : isBlank c = false) :
    trimStart (c :: rest) = c :: rest := by
  rw [trimStart, List.dropWhile_cons_of_neg (by simp [seen])]

theorem trimStart_space (rest : Text) : trimStart (' ' :: rest) = trimStart rest :=
  List.dropWhile_cons_of_pos (by decide)

theorem trimStart_ofNatPadded (width n : Nat) (rest : Text) :
    trimStart (ofNatPadded width n ++ rest) = ofNatPadded width n ++ rest := by
  obtain ⟨c, digits, written⟩ := List.exists_cons_of_ne_nil (ofNatPadded_ne_nil width n)
  have digit : c.isDigit = true := isDigit_of_mem_ofNatPadded (written ▸ List.mem_cons_self)
  rw [written, List.cons_append, trimStart_cons_of_not (isBlank_of_isDigit digit)]

end Text

namespace Stamp

/-! ## Parts -/

/-- A run of digits is read up to its end. -/
theorem digits?_append {width : Nat} {run rest : Text} (filled : run ≠ [])
    (digits : ∀ c ∈ run, c.isDigit = true) (fits : run.length ≤ width)
    (ends : ∀ c ∈ rest.head?, c.isDigit = false) :
    digits? width (run ++ rest) = some (Text.digitsValue run, rest) := by
  have stops : (rest.take (width - run.length)).takeWhile Char.isDigit = [] := by
    cases rest with
    | nil => rw [List.take_nil, List.takeWhile_nil]
    | cons c rest =>
      cases width - run.length with
      | zero => rfl
      | succ more =>
        have other := ends c rfl
        rw [List.take_succ_cons, List.takeWhile_cons_of_neg (by simp [other])]
  have whole : ((run ++ rest).take width).takeWhile Char.isDigit = run := by
    rw [List.take_append, List.take_of_length_le fits, List.takeWhile_append_of_pos digits, stops,
      List.append_nil]
  rw [digits?, whole]
  split
  · next none => exact absurd rfl filled
  · rw [List.drop_left]

section Numbers

variable {n : Nat} {rest : Text} (ends : ∀ c ∈ rest.head?, c.isDigit = false)
include ends

theorem digits?_ofNatPadded {least width : Nat} (fits : (Text.ofNatPadded least n).length ≤ width) :
    digits? width (Text.ofNatPadded least n ++ rest) = some (n, rest) := by
  rw [digits?_append (Text.ofNatPadded_ne_nil least n) (fun c => Text.isDigit_of_mem_ofNatPadded)
    fits ends, Text.digitsValue_ofNatPadded]

theorem number?_ofNatPadded (short : n < 100) :
    number? (Text.ofNatPadded 2 n ++ rest) = some (n, rest) := by
  rw [number?, Text.trimStart_ofNatPadded, digits?_ofNatPadded ends]
  exact Text.length_ofNatPadded_le (by decide) short

theorem year?_writeYear (year : Int) : year? (writeYear year ++ rest) = some (year, rest) := by
  have read {width : Nat} (fits : (Text.ofNatPadded 4 year.natAbs).length ≤ width) :=
    digits?_ofNatPadded ends fits
  have fits : (Text.ofNatPadded 4 year.natAbs).length ≤
      (Text.ofNatPadded 4 year.natAbs ++ rest).length := by simp
  rw [writeYear]
  split
  · next plain =>
    -- The first digit shows that there is no sign.
    obtain ⟨c, digits, written⟩ :=
      List.exists_cons_of_ne_nil (Text.ofNatPadded_ne_nil 4 year.natAbs)
    have digit : c.isDigit = true :=
      Text.isDigit_of_mem_ofNatPadded (written ▸ List.mem_cons_self)
    have short : (Text.ofNatPadded 4 year.natAbs).length ≤ 4 :=
      Text.length_ofNatPadded_le (by decide) (by omega)
    rw [year?, Text.trimStart_ofNatPadded]
    split
    · next same =>
      rw [written, List.cons_append] at same
      rw [(List.cons.inj same).1] at digit
      cases digit
    · next same =>
      rw [written, List.cons_append] at same
      rw [(List.cons.inj same).1] at digit
      cases digit
    · rw [read short]
      simp only [Option.map_some, Int.natAbs_of_nonneg plain.1]
  · next signed =>
    split
    · next negative =>
      have value : -(year.natAbs : Int) = year := by omega
      rw [year?, List.cons_append, Text.trimStart_cons_of_not (by decide)]
      simp only [read fits, Option.map_some, value]
    · next positive =>
      have value : (year.natAbs : Int) = year := by omega
      rw [year?, List.cons_append, Text.trimStart_cons_of_not (by decide)]
      simp only [read fits, Option.map_some, value]

theorem time?_writeTime {seconds : Nat} (inside : seconds < 86400) :
    time? (writeTime seconds ++ rest) = some (seconds, rest) := by
  have colon (rest : Text) : ∀ c ∈ (':' :: rest).head?, c.isDigit = false := by
    rintro c ⟨⟩
    rfl
  have behind (rest : Text) : Text.after? [':'] (':' :: rest) = some rest :=
    Text.after?_append [':'] rest
  have sum : seconds / 3600 * 3600 + seconds / 60 % 60 * 60 + seconds % 60 = seconds := by omega
  rw [time?, writeTime]
  simp only [List.append_assoc, List.cons_append, behind, Option.bind_eq_bind, Option.bind_some,
    number?_ofNatPadded (colon _) (by omega : seconds / 3600 < 100),
    number?_ofNatPadded (colon _) (by omega : seconds / 60 % 60 < 100),
    number?_ofNatPadded ends (by omega : seconds % 60 < 100)]
  rw [if_pos (by omega), sum]

end Numbers

/-! ## The whole stamp -/

section Spaces

variable (rest : Text)

theorem number?_space : number? (' ' :: rest) = number? rest := by
  rw [number?, number?, Text.trimStart_space]

theorem year?_space : year? (' ' :: rest) = year? rest := by
  rw [year?, year?, Text.trimStart_space]

theorem time?_space : time? (' ' :: rest) = time? rest := by
  rw [time?, time?, number?_space]

theorem name?_weekdays {index : Nat} (inside : index < 7) :
    name? weekdays (weekdays.getD index [] ++ rest) = some (index, rest) := by
  interval_cases index <;> rfl

theorem name?_months {month : Nat} (least : 1 ≤ month) (most : month ≤ 12) :
    name? months (Text.trimStart (' ' :: (months.getD (month - 1) [] ++ rest))) =
      some (month - 1, rest) := by
  interval_cases month <;> rfl

end Spaces

/-- **What was stamped is read again**, on every day of the calendar. -/
theorem read?_write {instant : Instant} (reached : instant.InCalendar) :
    read? (write instant) = some instant := by
  have blank (rest : Text) : ∀ c ∈ (' ' :: rest).head?, c.isDigit = false := by
    rintro c ⟨⟩
    rfl
  have comma (rest : Text) : Text.after? [','] (',' :: rest) = some rest :=
    Text.after?_append [','] rest
  have last : Text.after? zone (Text.trimStart (' ' :: zone)) = some [] := rfl
  obtain ⟨month_pos, month_le⟩ := instant.month_date
  have day_lt : instant.date.day < 100 := by
    have bound := instant.day_date.2.trans (Date.monthLength_le _ _)
    omega
  have month : instant.date.month - 1 + 1 = instant.date.month := Nat.sub_add_cancel month_pos
  rw [read?, write]
  simp only [List.append_assoc, List.cons_append, Option.bind_eq_bind, Option.bind_some, comma,
    name?_weekdays _ instant.date.weekday_lt, number?_space, number?_ofNatPadded (blank _) day_lt,
    name?_months _ month_pos month_le, year?_space, year?_writeYear (blank _), time?_space,
    time?_writeTime (blank _) instant.secondOfDay_lt, last, month]
  rw [if_pos ⟨rfl, Instant.isValid_date reached, trivial⟩, Instant.ofDate_date]

example : read? "Fri, 31 Dec -0001 23:59:59 GMT".toList = some (-62167219201) := by decide +kernel

/-! ## Stamps among other signs -/

theorem semicolon_not_mem_ofNatPadded (width n : Nat) : ';' ∉ Text.ofNatPadded width n := by
  intro listed
  cases Text.isDigit_of_mem_ofNatPadded listed

theorem semicolon_not_mem_getD {names : List Text} (plain : ∀ name ∈ names, ';' ∉ name)
    (index : Nat) : ';' ∉ names.getD index [] := by
  rw [List.getD_eq_getElem?_getD]
  cases found : names[index]? with
  | none => exact List.not_mem_nil
  | some name => exact plain name (List.mem_of_getElem? found)

/-- No semicolon stands in a stamp. -/
theorem semicolon_not_mem_write (instant : Instant) : ';' ∉ write instant := by
  have weekday : ';' ∉ weekdays.getD instant.date.weekday [] :=
    semicolon_not_mem_getD (by decide) _
  have month : ';' ∉ months.getD (instant.date.month - 1) [] :=
    semicolon_not_mem_getD (by decide) _
  have year : ';' ∉ writeYear instant.date.year := by
    rw [writeYear]
    split_ifs <;> simp [semicolon_not_mem_ofNatPadded]
  have time : ';' ∉ writeTime instant.secondOfDay := by
    simp [writeTime, semicolon_not_mem_ofNatPadded]
  simp only [write, List.mem_append, List.mem_cons, weekday, month, year, time,
    semicolon_not_mem_ofNatPadded, or_false, false_or]
  decide

/-- There are no blanks at the ends of a stamp. -/
theorem trim_write (instant : Instant) : Text.trim (write instant) = write instant := by
  have lead {index : Nat} (inside : index < 7) :
      ∃ c rest, weekdays.getD index [] = c :: rest ∧ isBlank c = false := by
    interval_cases index <;> exact ⟨_, _, rfl, rfl⟩
  obtain ⟨c, rest, weekday, seen⟩ := lead instant.date.weekday_lt
  apply Text.trimmed_eq_self
  · rw [write, weekday]
    rintro _ ⟨⟩
    exact seen
  · rw [write, List.getLast?_append]
    rintro _ ⟨⟩
    rfl

end Stamp

end Polyglot
