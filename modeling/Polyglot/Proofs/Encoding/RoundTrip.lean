import Mathlib.Data.List.Basic
import Mathlib.Data.List.GetD
import Polyglot.Encoding.Decode
import Polyglot.Encoding.Encode
import Polyglot.Proofs.Encoding.Utf8

/-!
# Reading in an encoding what was written in it

A text is read back in the scheme that it was written in, if the scheme has all of its
characters (`decode_encode`); where the scheme goes byte by byte this rests on its table
being no longer than there are bytes for it. The schemes that put two bytes to a unit are
the exception: texts are written as UTF-8 in them, and read back as something else
(`decodeLabeled_encode_ne`).

A byte order mark would decide how bytes are read, whatever scheme was asked for. No such
mark begins what is written of a text that begins with a less-than sign
(`afterMark?_encode`), and markup begins so.
-/

set_option autoImplicit false

namespace Polyglot

namespace EncodingScheme

/-- Whether a scheme has a character. Of the characters of several bytes no table is kept
here, so that nothing is said of them. -/
def Has : EncodingScheme → Char → Prop
  | utf8, _ | utf16 _, _ => True
  | singleByte upper, c => c.toNat < 0x80 ∨ c ≠ replacementChar ∧ c.toNat ∈ upper
  | userDefined, c => c.toNat < 0x80 ∨ 0xF780 ≤ c.toNat ∧ c.toNat ≤ 0xF7FF
  | multiByte, _ | replacement, _ => False

instance (scheme : EncodingScheme) (c : Char) : Decidable (scheme.Has c) :=
  match scheme with
  | utf8 | utf16 _ => .isTrue trivial
  | singleByte _ => inferInstanceAs (Decidable (_ ∨ _ ∧ _))
  | userDefined => inferInstanceAs (Decidable (_ ∨ _ ∧ _))
  | multiByte | replacement => .isFalse not_false

/-! ## Schemes that go byte by byte -/

section ByteByByte

variable {places : Nat → Option Nat} {points : Nat → Nat} {c : Char}

/-- A character that is in ASCII, or whose place in the upper half of a table is known, is
written as one byte, which is read as the character. -/
theorem map_decodeByte_encodeChar
    (found : c.toNat < 0x80 ∨ ∃ i < 0x80, places c.toNat = some i ∧ points i = c.toNat) :
    (encodeChar places c).map (decodeByte points) = [c] := by
  rw [encodeChar, byteOf?]
  by_cases ascii : c.toNat < 0x80
  · have byte : c.toNat < 256 := by omega
    have low : UInt8.ofNat c.toNat < 0x80 := (Utf8.ofNat_lt_iff byte _).mpr ascii
    simp only [if_pos ascii, List.map_cons, List.map_nil, decodeByte, if_pos low,
      Utf8.toNat_ofNat byte, Char.ofNat_toNat]
  · obtain ⟨i, bound, place, point⟩ := found.resolve_left ascii
    have byte : 0x80 + i < 256 := by omega
    have high : ¬ UInt8.ofNat (0x80 + i) < 0x80 := fun low =>
      Nat.not_lt.mpr (Nat.le_add_right _ _) ((Utf8.ofNat_lt_iff byte _).mp low)
    simp only [if_neg ascii, place, Option.map_some, List.map_cons, List.map_nil, decodeByte,
      if_neg high, Utf8.toNat_ofNat byte, Nat.add_sub_cancel_left, point, Char.ofNat_toNat]

theorem map_decodeByte_flatMap {text : Text} (found : ∀ c ∈ text,
    c.toNat < 0x80 ∨ ∃ i < 0x80, places c.toNat = some i ∧ points i = c.toNat) :
    (text.flatMap (encodeChar places)).map (decodeByte points) = text := by
  rw [List.map_flatMap]
  refine (List.flatMap_congr fun c listed => ?_).trans (List.flatMap_singleton' text)
  exact map_decodeByte_encodeChar (found c listed)

/-- A character of a table has a place in it. -/
theorem exists_placeOf? {upper : List Nat} (short : upper.length ≤ 0x80)
    (known : c ≠ replacementChar) (listed : c.toNat ∈ upper) :
    ∃ i < 0x80, placeOf? upper c.toNat = some i ∧
      upper.getD i replacementChar.toNat = c.toNat := by
  obtain ⟨i, place⟩ := Option.isSome_iff_exists.mp (List.isSome_idxOf?.mpr listed)
  obtain ⟨bound, stands, _⟩ := List.idxOf?_eq_some_iff.mp place
  have other : c.toNat ≠ replacementChar.toNat := fun same => known (Char.toNat_inj.mp same)
  refine ⟨i, by omega, ?_, ?_⟩
  · rw [placeOf?, if_neg other, place]
  · rw [List.getD_eq_getElem _ _ bound, stands]

/-- A private character that stands for a byte has a place as well. -/
theorem exists_privatePlace? (low : 0xF780 ≤ c.toNat) (high : c.toNat ≤ 0xF7FF) :
    ∃ i < 0x80, privatePlace? c.toNat = some i ∧ 0xF780 + i = c.toNat :=
  ⟨c.toNat - 0xF780, by omega, if_pos ⟨low, high⟩, by omega⟩

end ByteByByte

/-- A table is no longer than there are bytes for it. -/
def Fits : EncodingScheme → Prop
  | singleByte upper => upper.length ≤ 0x80
  | _ => True

instance : DecidablePred Fits
  | singleByte upper => inferInstanceAs (Decidable (upper.length ≤ 0x80))
  | utf8 | utf16 _ | userDefined | multiByte | replacement => .isTrue trivial

/-- **A text is read as it was written**, if the scheme has its characters and is not one of
two bytes to a unit. -/
theorem decode_encode {scheme : EncodingScheme} (fits : scheme.Fits)
    (narrow : ∀ bigEndian, scheme ≠ .utf16 bigEndian) {text : Text} (nonempty : text ≠ [])
    (has : ∀ c ∈ text, scheme.Has c) : scheme.decode (scheme.encode text) = text := by
  cases scheme with
  | utf8 => exact Utf8.decodeLossy_encode text
  | utf16 bigEndian => exact absurd rfl (narrow bigEndian)
  | singleByte upper =>
    refine map_decodeByte_flatMap fun c listed => ?_
    exact (has c listed).imp_right fun ⟨known, among⟩ => exists_placeOf? fits known among
  | userDefined =>
    refine map_decodeByte_flatMap fun c listed => ?_
    exact (has c listed).imp_right fun ⟨low, high⟩ => exists_privatePlace? low high
  | multiByte =>
    obtain ⟨c, listed⟩ := List.exists_mem_of_ne_nil text nonempty
    exact (has c listed).elim
  | replacement =>
    obtain ⟨c, listed⟩ := List.exists_mem_of_ne_nil text nonempty
    exact (has c listed).elim

/-- What is written of a text that begins with a less-than sign begins with its byte. -/
theorem exists_encode_cons (scheme : EncodingScheme) (text : Text) :
    ∃ rest, scheme.encode ('<' :: text) = 0x3C :: rest := by
  cases scheme <;> exact ⟨_, rfl⟩

end EncodingScheme

namespace Utf16

/-! ## Schemes that put two bytes to a unit -/

/-- Two bytes that make no half of a pair are a character. -/
theorem decode_cons (bigEndian : Bool) {first second : UInt8} {unit : Nat}
    (made : (if bigEndian then first.toNat * 256 + second.toNat
      else second.toNat * 256 + first.toNat) = unit)
    (unpaired : isHigh unit = false ∧ isLow unit = false) (rest : Bytes) :
    decode bigEndian (first :: second :: rest) = Char.ofNat unit :: decode bigEndian rest := by
  rw [decode, units, made, textOf, if_neg (Bool.not_eq_true _ ▸ unpaired.1),
    if_neg (Bool.not_eq_true _ ▸ unpaired.2), decode]

/-- A text written as UTF-8 is another one if it is read with two bytes to a unit, as its
first two characters make one. The two are here those that markup can begin with. -/
theorem exists_decode_cons (bigEndian : Bool) {c : Char} (mark : c = '!' ∨ c = 'h')
    (text : Text) :
    ∃ first rest, decode bigEndian (Utf8.encode ('<' :: c :: text)) = first :: rest ∧
      first ≠ '<' := by
  have bytes : Utf8.encode ('<' :: c :: text) =
      0x3C :: UInt8.ofNat c.toNat :: Utf8.encode text := by
    obtain rfl | rfl := mark <;> rfl
  rw [bytes]
  refine ⟨_, _, decode_cons bigEndian rfl ?_ _, ?_⟩
  all_goals obtain rfl | rfl := mark <;> cases bigEndian <;> decide

end Utf16

namespace Encoding

/-! ## Marks -/

theorem afterMark?_encode (scheme : EncodingScheme) (text : Text) :
    afterMark? (scheme.encode ('<' :: text)) = none := by
  obtain ⟨rest, begins⟩ := scheme.exists_encode_cons text
  rw [begins]
  rfl

/-- A text that begins with a less-than sign is read as it was written. -/
theorem decode_encode {encoding : Encoding} (fits : encoding.scheme.Fits)
    (narrow : ∀ bigEndian, encoding.scheme ≠ .utf16 bigEndian) {text : Text}
    (has : ∀ c ∈ '<' :: text, encoding.scheme.Has c) :
    encoding.decode (encoding.scheme.encode ('<' :: text)) = '<' :: text := by
  rw [decode, afterMark?_encode]
  exact EncodingScheme.decode_encode fits narrow (List.cons_ne_nil _ _) has

/-! ## Labels -/

/-- Every encoding is found by its own name. -/
theorem ofLabel?_name : ∀ encoding ∈ all, ofLabel? encoding.name = some encoding := by
  -- The names and labels are spelled out first: to look into a string takes long.
  unfold ofLabel?
  rw [all]
  simp only [named, List.flatMap_cons, List.flatMap_nil]
  repeat rw [String.toList_ofList]
  decide +kernel

/-- Every table fits. -/
theorem fits : ∀ encoding ∈ all, encoding.scheme.Fits := by
  decide +kernel

section Usable

variable {label : Text} {encoding : Encoding}
  (usable : ofUsableLabel? label = some encoding)
include usable

theorem ofLabel?_of_usable : ofLabel? label = some encoding :=
  (Option.filter_eq_some_iff.mp usable).1

theorem mem_all_of_usable : encoding ∈ all := by
  have found := ofLabel?_of_usable usable
  rw [ofLabel?] at found
  exact List.mem_of_find?_eq_some found

/-- A usable encoding is found under its own name. -/
theorem ofUsableLabel?_name : ofUsableLabel? encoding.name = some encoding :=
  Option.filter_eq_some_iff.mpr
    ⟨ofLabel?_name encoding (mem_all_of_usable usable), (Option.filter_eq_some_iff.mp usable).2⟩

theorem decodeLabeled_of_usable (bytes : Bytes) :
    decodeLabeled label bytes = encoding.decode bytes := by
  rw [decodeLabeled, ofLabel?_of_usable usable]

theorem encodeLabeled_of_usable (text : Text) :
    encodeLabeled label text = encoding.scheme.encode text := by
  rw [encodeLabeled, ofLabel?_of_usable usable]

/-- **Under its label a text is read as it was written**, if it begins with a less-than
sign. -/
theorem decodeLabeled_encode (narrow : ∀ bigEndian, encoding.scheme ≠ .utf16 bigEndian)
    {text : Text} (has : ∀ c ∈ '<' :: text, encoding.scheme.Has c) :
    decodeLabeled label (encoding.scheme.encode ('<' :: text)) = '<' :: text := by
  rw [decodeLabeled_of_usable usable]
  exact decode_encode (fits encoding (mem_all_of_usable usable)) narrow has

/-- **With two bytes to a unit markup is never read as it was written.** -/
theorem decodeLabeled_encode_ne {bigEndian : Bool} (wide : encoding.scheme = .utf16 bigEndian)
    {c : Char} (mark : c = '!' ∨ c = 'h') (text : Text) :
    decodeLabeled label (encoding.scheme.encode ('<' :: c :: text)) ≠ '<' :: c :: text := by
  obtain ⟨first, rest, read, other⟩ := Utf16.exists_decode_cons bigEndian mark text
  intro same
  rw [decodeLabeled_of_usable usable, decode, afterMark?_encode] at same
  dsimp only at same
  rw [wide] at same
  exact other (List.cons.inj (read.symm.trans same)).1

end Usable

/-- UTF-16 is usable under its name. -/
theorem exists_usable_utf16le :
    ∃ encoding, ofUsableLabel? "UTF-16LE".toList = some encoding ∧
      encoding.scheme = .utf16 false := by
  have listed := List.mem_of_getElem? (l := all) (i := 38) rfl
  have found := ofLabel?_name _ listed
  exact ⟨_, Option.filter_eq_some_iff.mpr ⟨found, rfl⟩, rfl⟩

end Encoding

end Polyglot
