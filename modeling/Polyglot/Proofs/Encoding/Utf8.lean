import Mathlib.Tactic.Common
import Polyglot.Text.Utf8

/-!
# Reading UTF-8 that was written

The machine that reads UTF-8 goes through one to four bytes for each character that was
written, and is between two characters again after them (`unitsFrom_utf8EncodeChar`). So a
text that was written in UTF-8 is read as it was written (`decodeLossy_encode`).
-/

set_option autoImplicit false

namespace Polyglot.Utf8

/-! ## Bytes as numbers -/

section Bytes

variable {n : Nat} (byte : n < 256)
include byte

theorem toNat_ofNat : (UInt8.ofNat n).toNat = n := by
  rw [UInt8.toNat_ofNat', Nat.mod_eq_of_lt byte]

theorem ofNat_lt_iff (bound : UInt8) : UInt8.ofNat n < bound ↔ n < bound.toNat := by
  rw [UInt8.lt_iff_toNat_lt, toNat_ofNat byte]

theorem ofNat_le_iff (bound : UInt8) : UInt8.ofNat n ≤ bound ↔ n ≤ bound.toNat := by
  rw [UInt8.le_iff_toNat_le, toNat_ofNat byte]

theorem le_ofNat_iff (bound : UInt8) : bound ≤ UInt8.ofNat n ↔ bound.toNat ≤ n := by
  rw [UInt8.le_iff_toNat_le, toNat_ofNat byte]

theorem ofNat_eq_iff (other : UInt8) : UInt8.ofNat n = other ↔ n = other.toNat := by
  rw [← UInt8.toNat_inj, toNat_ofNat byte]

/-- What the first byte of a character begins, by its number. -/
theorem start_ofNat : start (UInt8.ofNat n) =
    if n < 0x80 then ([some (Char.ofNat n)], .between)
    else if n < 0xC2 then ([none], .between)
    else if n < 0xE0 then ([], .inside 1 0x80 0xBF (n - 0xC0))
    else if n < 0xF0 then
      ([], .inside 2 (if n = 0xE0 then 0xA0 else 0x80) (if n = 0xED then 0x9F else 0xBF)
        (n - 0xE0))
    else if n < 0xF5 then
      ([], .inside 3 (if n = 0xF0 then 0x90 else 0x80) (if n = 0xF4 then 0x8F else 0xBF)
        (n - 0xF0))
    else ([none], .between) := by
  simp only [start, ofNat_lt_iff byte, ofNat_eq_iff byte, toNat_ofNat byte, UInt8.reduceToNat]

/-- A byte that may continue a character does so. -/
theorem step_inside {missing value : Nat} {least greatest : UInt8} (low : least.toNat ≤ n)
    (high : n ≤ greatest.toNat) :
    step (.inside missing least greatest value) (UInt8.ofNat n) =
      if missing ≤ 1 then ([some (Char.ofNat (value * 64 + (n - 0x80)))], .between)
      else ([], .inside (missing - 1) 0x80 0xBF (value * 64 + (n - 0x80))) := by
  rw [step, if_pos ⟨(le_ofNat_iff byte _).mpr low, (ofNat_le_iff byte _).mpr high⟩,
    toNat_ofNat byte]

end Bytes

/-! ## One character -/

theorem unitsFrom_cons (state : State) (byte : UInt8) (rest : Bytes) :
    unitsFrom state (byte :: rest) =
      (step state byte).1 ++ unitsFrom (step state byte).2 rest := by
  cases state <;> rfl

/-- The last byte of a character carries six bits. -/
theorem unitsFrom_last {value low : Nat} {least greatest : UInt8}
    (fits : least.toNat ≤ low + 0x80) (fits' : low + 0x80 ≤ greatest.toNat) (rest : Bytes) :
    unitsFrom (.inside 1 least greatest value) (UInt8.ofNat (low + 0x80) :: rest) =
      some (Char.ofNat (value * 64 + low)) :: unitsFrom .between rest := by
  have byte := Nat.lt_of_le_of_lt fits' greatest.toNat_lt
  rw [unitsFrom_cons, step_inside byte fits fits', if_pos (Nat.le_refl 1), Nat.add_sub_cancel]
  rfl

/-- So does one before it. -/
theorem unitsFrom_later {missing value low : Nat} {least greatest : UInt8}
    (fits : least.toNat ≤ low + 0x80) (fits' : low + 0x80 ≤ greatest.toNat) (rest : Bytes) :
    unitsFrom (.inside (missing + 2) least greatest value) (UInt8.ofNat (low + 0x80) :: rest) =
      unitsFrom (.inside (missing + 1) 0x80 0xBF (value * 64 + low)) rest := by
  have byte := Nat.lt_of_le_of_lt fits' greatest.toNat_lt
  rw [unitsFrom_cons, step_inside byte fits fits', if_neg (by omega), Nat.add_sub_cancel]
  rfl

/-- The first byte of a character of several bytes. -/
theorem unitsFrom_first {byte : UInt8} {missing value : Nat} {least greatest : UInt8}
    (begins : start byte = ([], .inside missing least greatest value)) (rest : Bytes) :
    unitsFrom .between (byte :: rest) = unitsFrom (.inside missing least greatest value) rest := by
  rw [unitsFrom_cons, step, begins]
  rfl

section Widths

variable {n : Nat} (rest : Bytes)

theorem unitsFrom_one (width : n ≤ 0x7f) :
    unitsFrom .between (UInt8.ofNat n :: rest) =
      some (Char.ofNat n) :: unitsFrom .between rest := by
  rw [unitsFrom_cons, step, start_ofNat (by omega), if_pos (by omega)]
  rfl

theorem unitsFrom_two (more : ¬ n ≤ 0x7f) (width : n ≤ 0x7ff) :
    unitsFrom .between (UInt8.ofNat (n / 64 % 0x20 + 0xc0) :: UInt8.ofNat (n % 0x40 + 0x80) :: rest)
      = some (Char.ofNat n) :: unitsFrom .between rest := by
  have begins : start (UInt8.ofNat (n / 64 % 0x20 + 0xc0)) =
      ([], .inside 1 0x80 0xBF (n / 64)) := by
    have value : n / 64 % 0x20 + 0xc0 - 0xC0 = n / 64 := by omega
    rw [start_ofNat (by omega), if_neg (by omega), if_neg (by omega), if_pos (by omega), value]
  have whole : n / 64 * 64 + n % 0x40 = n := by omega
  rw [unitsFrom_first begins, unitsFrom_last, whole]
  all_goals
    simp only [UInt8.reduceToNat]
    omega

theorem unitsFrom_three (more : ¬ n ≤ 0x7ff) (width : n ≤ 0xffff)
    (valid : n < 0xD800 ∨ 0xDFFF < n) :
    unitsFrom .between (UInt8.ofNat (n / 4096 % 0x10 + 0xe0) ::
      UInt8.ofNat (n / 64 % 0x40 + 0x80) :: UInt8.ofNat (n % 0x40 + 0x80) :: rest)
      = some (Char.ofNat n) :: unitsFrom .between rest := by
  have begins : start (UInt8.ofNat (n / 4096 % 0x10 + 0xe0)) =
      ([], .inside 2 (if n / 4096 = 0 then 0xA0 else 0x80) (if n / 4096 = 13 then 0x9F else 0xBF)
        (n / 4096)) := by
    have value : n / 4096 % 0x10 + 0xe0 - 0xE0 = n / 4096 := by omega
    have low : n / 4096 % 0x10 + 0xe0 = 0xE0 ↔ n / 4096 = 0 := by omega
    have high : n / 4096 % 0x10 + 0xe0 = 0xED ↔ n / 4096 = 13 := by omega
    rw [start_ofNat (by omega), if_neg (by omega), if_neg (by omega), if_neg (by omega),
      if_pos (by omega), value]
    simp only [low, high]
  have whole : (n / 4096 * 64 + n / 64 % 0x40) * 64 + n % 0x40 = n := by omega
  rw [unitsFrom_first begins, unitsFrom_later, unitsFrom_last, whole]
  all_goals try split
  all_goals
    simp only [UInt8.reduceToNat]
    omega

theorem unitsFrom_four (more : ¬ n ≤ 0xffff) (valid : n < 0x110000) :
    unitsFrom .between (UInt8.ofNat (n / 262144 % 0x08 + 0xf0) ::
      UInt8.ofNat (n / 4096 % 0x40 + 0x80) :: UInt8.ofNat (n / 64 % 0x40 + 0x80) ::
        UInt8.ofNat (n % 0x40 + 0x80) :: rest)
      = some (Char.ofNat n) :: unitsFrom .between rest := by
  have begins : start (UInt8.ofNat (n / 262144 % 0x08 + 0xf0)) =
      ([], .inside 3 (if n / 262144 = 0 then 0x90 else 0x80)
        (if n / 262144 = 4 then 0x8F else 0xBF) (n / 262144)) := by
    have value : n / 262144 % 0x08 + 0xf0 - 0xF0 = n / 262144 := by omega
    have low : n / 262144 % 0x08 + 0xf0 = 0xF0 ↔ n / 262144 = 0 := by omega
    have high : n / 262144 % 0x08 + 0xf0 = 0xF4 ↔ n / 262144 = 4 := by omega
    rw [start_ofNat (by omega), if_neg (by omega), if_neg (by omega), if_neg (by omega),
      if_neg (by omega), if_pos (by omega), value]
    simp only [low, high]
  have whole : ((n / 262144 * 64 + n / 4096 % 0x40) * 64 + n / 64 % 0x40) * 64 + n % 0x40 = n := by
    omega
  rw [unitsFrom_first begins, unitsFrom_later, unitsFrom_later, unitsFrom_last, whole]
  all_goals try split
  all_goals
    simp only [UInt8.reduceToNat]
    omega

end Widths

/-- **A character that was written is read**, and what follows is read from then on. -/
theorem unitsFrom_utf8EncodeChar (c : Char) (rest : Bytes) :
    unitsFrom .between (String.utf8EncodeChar c ++ rest) = some c :: unitsFrom .between rest := by
  have valid : c.val.toNat < 0xD800 ∨ 0xDFFF < c.val.toNat ∧ c.val.toNat < 0x110000 := c.valid
  suffices read : unitsFrom .between (String.utf8EncodeChar c ++ rest) =
      some (Char.ofNat c.val.toNat) :: unitsFrom .between rest from
    read.trans (congrArg (some · :: _) (Char.ofNat_toNat c))
  rw [String.utf8EncodeChar]
  split
  · next one => exact unitsFrom_one rest one
  · next more =>
    split
    · next two => exact unitsFrom_two rest more two
    · next more =>
      split
      · next three => exact unitsFrom_three rest more three (by omega)
      · next four => exact unitsFrom_four rest four (by omega)

/-! ## Texts -/

/-- **What was written in UTF-8 is read character by character.** -/
theorem decodeUnits_encode (text : Text) : decodeUnits (encode text) = text.map some := by
  rw [decodeUnits, encode]
  induction text with
  | nil => rfl
  | cons c rest ih => rw [List.flatMap_cons, unitsFrom_utf8EncodeChar, ih, List.map_cons]

theorem decodeLossy_encode (text : Text) : decodeLossy (encode text) = text := by
  rw [decodeLossy, decodeUnits_encode, List.map_map]
  exact List.map_id text

theorem decode?_encode (text : Text) : decode? (encode text) = some text := by
  rw [decode?, decodeUnits_encode]
  induction text with
  | nil => rfl
  | cons c rest ih => simp [ih]

theorem length_encode (text : Text) : (encode text).length = Text.byteLength text := by
  induction text with
  | nil => rfl
  | cons c rest ih =>
    rw [encode, List.flatMap_cons, List.length_append, ← encode, ih, String.length_utf8EncodeChar,
      Text.byteLength_cons]

/-! ## Signs of ASCII -/

/-- Where the machine is, no byte of ASCII continues a character. -/
def State.Apart : State → Prop
  | .between => True
  | .inside _ least _ _ => 0x80 ≤ least.toNat

theorem apart_start (byte : UInt8) : (start byte).2.Apart := by
  unfold start
  split_ifs <;> simp only [State.Apart] <;> try split
  all_goals decide

theorem apart_step (state : State) (byte : UInt8) : (step state byte).2.Apart := by
  cases state with
  | between => exact apart_start byte
  | inside missing least greatest value =>
    rw [step]
    split
    · dsimp only
      split
      · trivial
      · exact Nat.le_refl 0x80
    · exact apart_start byte

/-- A byte of ASCII is read as its character wherever the machine is, and breaks off what
has not come to its end. -/
theorem unitsFrom_cons_of_ascii {state : State} (apart : state.Apart) {byte : UInt8}
    (ascii : byte.toNat < 0x80) (rest : Bytes) :
    unitsFrom state (byte :: rest) =
      unitsFrom state [] ++ some (Char.ofNat byte.toNat) :: unitsFrom .between rest := by
  have begins : start byte = ([some (Char.ofNat byte.toNat)], .between) := by
    rw [start, if_pos (UInt8.lt_iff_toNat_lt.mpr ascii)]
  cases state with
  | between =>
    rw [unitsFrom_cons, step, begins]
    rfl
  | inside missing least greatest value =>
    have refused : ¬ (least ≤ byte ∧ byte ≤ greatest) := by
      rintro ⟨low, _⟩
      exact Nat.not_lt.mpr (Nat.le_trans apart (UInt8.le_iff_toNat_le.mp low)) ascii
    rw [unitsFrom_cons, step, if_neg refused, begins]
    rfl

/-- **What is in front of a byte of ASCII is read on its own, and so is what is behind
it.** -/
theorem unitsFrom_append_cons {byte : UInt8} (ascii : byte.toNat < 0x80) (rest front : Bytes) :
    ∀ {state : State}, state.Apart →
      unitsFrom state (front ++ byte :: rest) =
        unitsFrom state front ++ some (Char.ofNat byte.toNat) :: unitsFrom .between rest := by
  induction front with
  | nil => exact fun apart => unitsFrom_cons_of_ascii apart ascii rest
  | cons first front ih =>
    intro state apart
    rw [List.cons_append, unitsFrom_cons, unitsFrom_cons, ih (apart_step state first), List.append_assoc]

theorem decodeLossy_append_cons {byte : UInt8} (ascii : byte.toNat < 0x80) (front rest : Bytes) :
    decodeLossy (front ++ byte :: rest) =
      decodeLossy front ++ Char.ofNat byte.toNat :: decodeLossy rest := by
  have between : State.between.Apart := trivial
  rw [decodeLossy, decodeUnits, unitsFrom_append_cons ascii rest front between, List.map_append]
  rfl

/-! ## Cuts -/

/-- An offset at which the bytes of a text can be cut: what is in front of it and what is
behind it are both read as characters throughout. -/
def Boundary (text : Text) (offset : Nat) : Prop :=
  offset ≤ (encode text).length ∧ (decode? ((encode text).take offset)).isSome = true ∧
    (decode? ((encode text).drop offset)).isSome = true

/-- A text can be cut between any two of its characters. -/
theorem boundary_append (front behind : Text) :
    Boundary (front ++ behind) (Text.byteLength front) := by
  have parts : encode (front ++ behind) = encode front ++ encode behind := List.flatMap_append
  rw [Boundary, parts, ← length_encode front, List.take_left, List.drop_left, decode?_encode,
    decode?_encode, List.length_append]
  exact ⟨Nat.le_add_right _ _, rfl, rfl⟩

end Polyglot.Utf8
