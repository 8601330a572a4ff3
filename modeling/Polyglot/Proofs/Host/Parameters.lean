import Polyglot.Host.Location
import Polyglot.Proofs.Host.Escapes
import Polyglot.Proofs.Pairs
import Polyglot.Proofs.Text.Parts

/-!
# Reading the parameters of a query

What stands in a query is written byte by byte, and each byte is read as it was written: a
space comes back from its plus sign, a plain character is its own byte, and any other byte
comes back from its escape (`Query.unescape_encodeByte`). So a name or a value is read as it
was written (`Query.decodePart_encodePart`). Neither of them has the signs that separate
parameters, which is why the parameters of a query are read as they were written
(`Query.read_write`), and a parameter that was set is found
(`Location.parameter?_setParameter`).
-/

set_option autoImplicit false

namespace Polyglot

namespace Query

/-! ## Names and values -/

/-- A text in which a space stands for each plus sign. -/
def spaced (text : Text) : Text :=
  text.map fun c => if c = '+' then ' ' else c

theorem spaced_append (front behind : Text) :
    spaced (front ++ behind) = spaced front ++ spaced behind :=
  List.map_append

theorem spaced_of_ne {c : Char} (other : c ≠ '+') (rest : Text) :
    spaced (c :: rest) = c :: spaced rest := by
  rw [spaced, List.map_cons, if_neg other]
  rfl

/-- Of the characters that are numbered like bytes, only those of ASCII stand for themselves. -/
theorem lt_of_isPlain : ∀ n < 0x100, isPlain (Char.ofNat n) = true → n < 0x80 := by
  decide +kernel

theorem ne_of_isPlain {c sign : Char} (plain : isPlain c = true) (other : isPlain sign = false) :
    c ≠ sign := by
  rintro rfl
  exact Bool.false_ne_true (other.symm.trans plain)

theorem isPlain_hexDigit : ∀ n < 16, isPlain (Percent.hexDigit n) = true := by
  decide

/-- A byte is read as it was written, whatever follows it. -/
theorem unescape_encodeByte (byte : UInt8) (rest : Text) :
    Percent.unescape (Utf8.encode (spaced (encodeByte byte) ++ rest)) =
      byte :: Percent.unescape (Utf8.encode rest) := by
  have bound := byte.toNat_lt
  rw [encodeByte]
  split
  · next blank =>
    rw [blank]
    exact Percent.unescape_cons (by decide) _
  · split
    · next plain =>
      have value : (Char.ofNat byte.toNat).toNat = byte.toNat := by
        rw [Char.ofNat, dif_pos (.inl (by omega) : byte.toNat.isValidChar)]
        rfl
      have other : byte ≠ 0x25 := by
        rintro rfl
        cases plain
      have ascii : (Char.ofNat byte.toNat).toNat < 0x80 := by
        rw [value]
        exact lt_of_isPlain byte.toNat bound plain
      rw [spaced_of_ne (ne_of_isPlain plain rfl), List.cons_append,
        Utf8.encode_cons_of_ascii ascii, value, UInt8.ofNat_toNat, Percent.unescape_cons other]
      rfl
    · have digit (n : Nat) (small : n < 16) : Percent.hexDigit n ≠ '+' :=
        ne_of_isPlain (isPlain_hexDigit n small) rfl
      have escaped : spaced (Percent.escape byte) = Percent.escape byte := by
        rw [Percent.escape, spaced_of_ne (by decide), spaced_of_ne (digit _ (by omega)),
          spaced_of_ne (digit _ (by omega))]
        rfl
      rw [escaped, Percent.unescape_escape]

theorem unescape_flatMap_encodeByte (bytes : Bytes) :
    Percent.unescape (Utf8.encode (spaced (bytes.flatMap encodeByte))) = bytes := by
  induction bytes with
  | nil => rfl
  | cons byte rest ih => rw [List.flatMap_cons, spaced_append, unescape_encodeByte, ih]

/-- **A name or a value is read as it was written.** -/
theorem decodePart_encodePart (text : Text) : decodePart (encodePart text) = text := by
  rw [decodePart, Percent.decodeLossy, ← spaced, encodePart, unescape_flatMap_encodeByte,
    Utf8.decodeLossy_encode]

/-! ## Parameters -/

/-- A name or a value has no sign that separates parameters. -/
theorem not_mem_encodePart {sign : Char} (separates : sign = '&' ∨ sign = '=') (text : Text) :
    sign ∉ encodePart text := by
  have unused : sign ≠ '+' ∧ sign ≠ '%' ∧ isPlain sign = false := by
    rcases separates with rfl | rfl <;> decide
  obtain ⟨notPlus, notPercent, notPlain⟩ := unused
  intro listed
  obtain ⟨byte, _, written⟩ := List.mem_flatMap.mp listed
  have digit (n : Nat) (small : n < 16) : sign ≠ Percent.hexDigit n := fun same =>
    ne_of_isPlain (isPlain_hexDigit n small) notPlain same.symm
  have bound := byte.toNat_lt
  rw [encodeByte] at written
  split_ifs at written with blank plain
  · exact notPlus (List.mem_singleton.mp written)
  · exact ne_of_isPlain plain notPlain (List.mem_singleton.mp written).symm
  · simp only [Percent.escape, List.mem_cons, List.not_mem_nil, or_false] at written
    rcases written with same | same | same
    · exact notPercent same
    · exact digit _ (by omega) same
    · exact digit _ (by omega) same

/-- A parameter in the written form. -/
def writeParameter (parameter : Text × Text) : Text :=
  encodePart parameter.1 ++ '=' :: encodePart parameter.2

theorem readParameter_writeParameter (parameter : Text × Text) :
    readParameter (writeParameter parameter) = parameter := by
  have cut : Text.cut? '=' (writeParameter parameter) =
      some (encodePart parameter.1, encodePart parameter.2) :=
    Text.cut?_eq_some_iff.mpr ⟨not_mem_encodePart (.inr rfl) parameter.1, rfl⟩
  rw [readParameter, cut]
  dsimp only
  rw [decodePart_encodePart, decodePart_encodePart]

/-- **Parameters are read as they were written.** -/
theorem read_write (parameters : Parameters) : read (write parameters) = parameters := by
  cases parameters with
  | nil => rfl
  | cons first rest =>
    have apart : ∀ part ∈ writeParameter first :: rest.map writeParameter, '&' ∉ part := by
      rw [← List.map_cons, List.forall_mem_map]
      intro parameter _
      simp [writeParameter, not_mem_encodePart]
    have pieces : Text.pieces '&' (write (first :: rest)) = (first :: rest).map writeParameter := by
      rw [write]
      exact (Text.pieces_joined List.not_mem_nil apart).trans
        (congrArg _ (List.map_id _))
    have filled : ∀ part ∈ (first :: rest).map writeParameter, (!part.isEmpty) = true := by
      rw [List.forall_mem_map]
      intro parameter _
      simp [writeParameter]
    rw [read, pieces, List.filter_eq_self.mpr filled, List.map_map]
    exact List.map_id'' readParameter_writeParameter _

/-- A parameter that was set is found. -/
theorem get?_set (parameters : Parameters) (name value : Text) :
    get? (set parameters name value) name = some value := by
  rw [get?]
  induction parameters with
  | nil => rw [set, List.lookup_cons_self]
  | cons first rest ih =>
    obtain ⟨other, old⟩ := first
    rw [set]
    split
    · rw [List.lookup_cons_self]
    · next apart =>
      rw [Pairs.lookup_cons, if_neg (Ne.symm apart)]
      exact ih

end Query

namespace Location

variable (location : Location) (name value : Text)

/-- The parameters of a location with one parameter set are those of the location with that
one set. -/
theorem parameters_setParameter :
    (location.setParameter name value).parameters = Query.set location.parameters name value := by
  rw [parameters, setParameter, Option.getD_some, Query.read_write]

/-- **A parameter that was set is found at the location.** -/
theorem parameter?_setParameter :
    (location.setParameter name value).parameter? name = some value := by
  rw [parameter?, parameters_setParameter, Query.get?_set]

end Location

end Polyglot
