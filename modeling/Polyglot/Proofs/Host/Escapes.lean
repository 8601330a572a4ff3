import Polyglot.Host.Percent
import Polyglot.Proofs.Encoding.Utf8

/-!
# Bytes and their escapes

An escape is read as the byte that it was written for, whatever follows it
(`Percent.unescape_escape`), and a text without percent signs is read as it stands
(`Percent.decodeLossy_of_not_mem`). For both it matters that a character of ASCII is its own
byte in UTF-8, and that no other character has such a byte. It matters as well for a text in
which a sign stands that no escape reaches beyond: what is in front of the sign and what is
behind it are read each on its own (`Percent.decodeLossy_append_cons`).
-/

set_option autoImplicit false

namespace Polyglot

namespace Utf8

/-- A character of ASCII is its own byte. -/
theorem encode_cons_of_ascii {c : Char} (ascii : c.toNat < 0x80) (rest : Text) :
    encode (c :: rest) = UInt8.ofNat c.toNat :: encode rest := by
  have one : c.val.toNat ≤ 0x7f := Nat.le_of_lt_succ ascii
  rw [encode, List.flatMap_cons, String.utf8EncodeChar, if_pos one]
  rfl

/-- Only a character of ASCII is written with a byte of ASCII: the bytes of all others begin at
128. -/
theorem toNat_eq_of_mem_utf8EncodeChar {c : Char} {byte : UInt8} (ascii : byte.toNat < 0x80)
    (listed : byte ∈ String.utf8EncodeChar c) : c.toNat = byte.toNat := by
  have other {n : Nat} (small : n < 0x100) (high : 0x80 ≤ n) : byte ≠ UInt8.ofNat n := by
    rintro rfl
    rw [toNat_ofNat small] at ascii
    omega
  rw [String.utf8EncodeChar] at listed
  split_ifs at listed with one two three
  all_goals simp only [List.mem_cons, List.not_mem_nil, or_false] at listed
  · rw [listed, toNat_ofNat (by omega)]
    rfl
  · rcases listed with same | same
    all_goals exact absurd same (other (by omega) (by omega))
  · rcases listed with same | same | same
    all_goals exact absurd same (other (by omega) (by omega))
  · rcases listed with same | same | same | same
    all_goals exact absurd same (other (by omega) (by omega))

end Utf8

namespace Percent

theorem unescape_cons {byte : UInt8} (other : byte ≠ 0x25) (rest : Bytes) :
    unescape (byte :: rest) = byte :: unescape rest := by
  match rest with
  | [] => rfl
  | [_] => rfl
  | _ :: _ :: _ => rw [unescape, if_neg other]

/-- A byte stands for itself where one of the next two is no digit. -/
theorem unescape_cons_of_plain (byte : UInt8) {high low : UInt8}
    (plain : byteDigit? high = none ∨ byteDigit? low = none) (rest : Bytes) :
    unescape (byte :: high :: low :: rest) = byte :: unescape (high :: low :: rest) := by
  rw [unescape]
  split
  · split
    · next first second => rcases plain with none | none <;> simp_all
    · rfl
  · rfl

/-- **An escape does not reach beyond a byte that is neither a percent sign nor a digit.** -/
theorem unescape_append_cons {sign : UInt8} (other : sign ≠ 0x25) (plain : byteDigit? sign = none)
    (rest : Bytes) :
    ∀ front : Bytes, unescape (front ++ sign :: rest) = unescape front ++ sign :: unescape rest
  | [] => unescape_cons other rest
  | [byte] => by
    have next : unescape (byte :: sign :: rest) = byte :: unescape (sign :: rest) := by
      cases rest with
      | nil => rfl
      | cons _ _ => exact unescape_cons_of_plain byte (.inl plain) _
    rw [List.singleton_append, next, unescape_cons other]
    rfl
  | [first, second] => by
    have later := unescape_append_cons other plain rest [second]
    rw [List.singleton_append] at later
    rw [List.cons_append, List.singleton_append,
      unescape_cons_of_plain first (.inr plain), later]
    rfl
  | byte :: high :: low :: front => by
    have escaped := unescape_append_cons other plain rest front
    have later := unescape_append_cons other plain rest (high :: low :: front)
    simp only [List.cons_append] at later ⊢
    rw [unescape, unescape]
    split
    · split
      · rw [escaped, List.cons_append]
      · rw [later, List.cons_append]
    · rw [later, List.cons_append]

theorem unescape_of_not_mem {bytes : Bytes} (plain : 0x25 ∉ bytes) : unescape bytes = bytes := by
  induction bytes with
  | nil => rfl
  | cons byte rest ih =>
    rw [List.mem_cons, not_or] at plain
    rw [unescape_cons (Ne.symm plain.1), ih plain.2]

/-- **A text without percent signs is read as it stands.** -/
theorem decodeLossy_of_not_mem {text : Text} (plain : '%' ∉ text) : decodeLossy text = text := by
  have bytes : 0x25 ∉ Utf8.encode text := by
    intro listed
    obtain ⟨c, inside, written⟩ := List.mem_flatMap.mp listed
    have same : c = '%' :=
      Char.toNat_inj.mp (Utf8.toNat_eq_of_mem_utf8EncodeChar (by decide) written)
    exact plain (same ▸ inside)
  rw [decodeLossy, unescape_of_not_mem bytes, Utf8.decodeLossy_encode]

/-- A character that no escape reaches beyond: it is one of ASCII, and neither a percent sign nor
a digit. -/
def Separates (sign : Char) : Prop :=
  sign.toNat < 0x80 ∧ sign ≠ '%' ∧ Text.hexDigitValue? sign = none

instance (sign : Char) : Decidable (Separates sign) :=
  inferInstanceAs (Decidable (_ ∧ _ ∧ _))

/-- **A text is read in parts where a sign stands that no escape reaches beyond.** -/
theorem decodeLossy_append_cons {sign : Char} (separates : Separates sign) (front rest : Text) :
    decodeLossy (front ++ sign :: rest) = decodeLossy front ++ sign :: decodeLossy rest := by
  obtain ⟨ascii, other, plain⟩ := separates
  have byte : (UInt8.ofNat sign.toNat).toNat = sign.toNat := Utf8.toNat_ofNat (by omega)
  have same : Char.ofNat (UInt8.ofNat sign.toNat).toNat = sign := by rw [byte, Char.ofNat_toNat]
  have others : UInt8.ofNat sign.toNat ≠ 0x25 := by
    intro percent
    apply other
    rw [← same, percent]
    rfl
  have bytes : Utf8.encode (front ++ sign :: rest) =
      Utf8.encode front ++ UInt8.ofNat sign.toNat :: Utf8.encode rest := by
    rw [← Utf8.encode_cons_of_ascii ascii]
    exact List.flatMap_append
  have digit : byteDigit? (UInt8.ofNat sign.toNat) = none := by rw [byteDigit?, same, plain]
  have whole := Utf8.decodeLossy_append_cons (byte.symm ▸ ascii) (unescape (Utf8.encode front))
    (unescape (Utf8.encode rest))
  rw [same] at whole
  rw [decodeLossy, bytes, unescape_append_cons others digit, whole]
  rfl

theorem toNat_hexDigit_lt : ∀ n < 16, (hexDigit n).toNat < 0x80 := by
  decide

theorem byteDigit?_hexDigit :
    ∀ n < 16, byteDigit? (UInt8.ofNat (hexDigit n).toNat) = some n := by
  decide

/-- **A byte is read from its escape.** -/
theorem unescape_escape (byte : UInt8) (rest : Text) :
    unescape (Utf8.encode (escape byte ++ rest)) = byte :: unescape (Utf8.encode rest) := by
  have bound := byte.toNat_lt
  have high : byte.toNat / 16 < 16 := by omega
  have low : byte.toNat % 16 < 16 := by omega
  have whole : byte.toNat / 16 * 16 + byte.toNat % 16 = byte.toNat := by omega
  rw [escape, List.cons_append, List.cons_append, List.cons_append,
    Utf8.encode_cons_of_ascii (by decide), Utf8.encode_cons_of_ascii (toNat_hexDigit_lt _ high),
    Utf8.encode_cons_of_ascii (toNat_hexDigit_lt _ low), unescape, if_pos (by decide),
    byteDigit?_hexDigit _ high, byteDigit?_hexDigit _ low]
  dsimp only
  rw [whole, UInt8.ofNat_toNat]
  rfl

end Percent

end Polyglot
