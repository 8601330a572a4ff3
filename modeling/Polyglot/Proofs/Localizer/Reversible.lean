import Mathlib.Data.List.Nodup
import Polyglot.Localizer.Reading
import Polyglot.Proofs.Catalog.Additions
import Polyglot.Proofs.Directive.Markers

/-!
# Texts that can be localized back and forth

A text and its carrier are reversible for a catalog if the text can be written in
any language of the catalog and read again: it has no data pairs, its readable
part holds no marker, and its phrase is in no language at all or in the same place
in all of them, always with the key suffix of the text behind it.

`Reading.rendered` is what such a text is in a language. Read together with the
carrier that the first pass left (`Reading.carrierAfter`), it has the phrase of that
language, so that a pass from one language to another makes it what it is in the
other (`Reversible.localized_rendered`).
-/

set_option autoImplicit false

namespace Polyglot

/-! ## Catalogs -/

namespace Catalog

variable (catalog : Catalog)

/-- No language has a phrase twice. -/
def Distinct : Prop :=
  ∀ language phrases, catalog.phrases? language = some phrases → phrases.Nodup

/-- A phrase that is in no language. -/
def Lacks (phrase : Text) : Prop :=
  ∀ language phrases, catalog.phrases? language = some phrases → phrase ∉ phrases

/-- A phrase of one language that has, in every language, a counterpart which is some
text without a marker and a suffix behind it. -/
def Aligns (written suffix phrase : Text) : Prop :=
  ∃ index, catalog.get? written index = some phrase ∧
    ∀ language, catalog.contains language = true →
      ∃ base, Directive.hasMarker base = false ∧
        catalog.get? language index = some (base ++ suffix)

variable {catalog} {source target phrase : Text}

theorem counterpart?_of_lacks (lacks : catalog.Lacks phrase) :
    catalog.counterpart? source target phrase = none := by
  rw [Table.counterpart?, catalog.consistent.indexOf?_eq_none_iff.mpr (lacks source),
    Option.bind_none]

/-- A phrase that stands at one place only is found there. -/
theorem counterpart?_of_unique {index : Nat}
    (unique : ∀ other, catalog.get? source other = some phrase ↔ other = index) :
    catalog.counterpart? source target phrase = catalog.get? target index := by
  obtain ⟨phrases, listed, stands⟩ := Option.bind_eq_some_iff.mp ((unique index).mpr rfl)
  have found : catalog.indexOf? source phrase = some index := by
    refine catalog.consistent.indexOf?_eq_some_iff.mpr
      ⟨phrases, listed, stands, fun earlier before also => ?_⟩
    have twice : earlier = index :=
      (unique earlier).mp (by rw [Table.get?, listed, Option.bind_some, also])
    omega
  rw [Table.counterpart?, found, Option.bind_some]

/-- Where no phrase stands twice, each is found where it stands. -/
theorem counterpart?_of_get? (distinct : catalog.Distinct) {index : Nat}
    (stands : catalog.get? source index = some phrase) :
    catalog.counterpart? source target phrase = catalog.get? target index := by
  refine counterpart?_of_unique fun other => ⟨fun also => ?_, fun same => same ▸ stands⟩
  obtain ⟨phrases, listed, here⟩ := Option.bind_eq_some_iff.mp stands
  rw [Table.get?, listed, Option.bind_some] at also
  obtain ⟨bound, _⟩ := List.getElem?_eq_some_iff.mp also
  exact (List.getElem?_inj bound (distinct source phrases listed)).mp (also.trans here.symm)

end Catalog

/-! ## Readings -/

namespace Reading

/-- What a text is in a language, before placeholders are filled. -/
def rendered (reading : Reading) (catalog : Catalog) (written language : Text) : Text :=
  (reading.chosen (catalog.counterpart? written language)).1

/-- The carrier of a text after a pass. -/
def carrierAfter (reading : Reading) (carrier? : Option Text) : Option Text :=
  reading.tail?.or carrier?

/-- The readable part of a text. -/
def baseOf (text : Text) : Text :=
  (Directives.read text).baseText text

end Reading

/-- A text and its carrier that can be localized and read again. -/
structure Reversible (catalog : Catalog) (written text : Text) (carrier? : Option Text) : Prop where
  data : (Reading.of text carrier?).directives.data = []
  base : Directive.hasMarker (Reading.baseOf text) = false
  phrase : (Reading.of text carrier?).directives.ignored = false →
    catalog.Lacks (Reading.of text carrier?).phrase ∨
      catalog.Aligns written (Reading.of text carrier?).directives.keySuffix
        (Reading.of text carrier?).phrase

namespace Reading

variable {text : Text} {carrier? : Option Text}

theorem of_of_present (present : (Directives.read text).present = true) :
    Reading.of text carrier? =
      ⟨baseOf text ++ (Directives.read text).keySuffix, Directives.read text,
        (Directives.read text).tail? text⟩ := by
  simp only [Reading.of, present, if_true]
  rfl

theorem of_of_carried (absent : (Directives.read text).present = false) (comment : Text) :
    Reading.of text (some comment) =
      ⟨withPlaceholders (Directives.read comment).data text ++ (Directives.read comment).keySuffix,
        Directives.read comment, none⟩ := by
  simp only [Reading.of, absent, Bool.false_eq_true, if_false]

theorem of_of_bare (absent : (Directives.read text).present = false) :
    Reading.of text none = ⟨text, Directives.none, none⟩ := by
  simp only [Reading.of, absent, Bool.false_eq_true, if_false]

/-- A text without directives of its own has nothing that is to be moved. -/
theorem tail?_of_absent (absent : (Directives.read text).present = false) :
    (Reading.of text carrier?).tail? = none := by
  cases carrier? with
  | none => rw [of_of_bare absent]
  | some comment => rw [of_of_carried absent]

/-- What is to be moved out of a text begins with its first directive. -/
theorem exists_start_of_tail? {tail : Text}
    (moves : (Reading.of text carrier?).tail? = some tail) :
    ∃ start, (Directives.read text).start? = some start ∧ text.drop start = tail := by
  cases present : (Directives.read text).present with
  | true =>
    rw [of_of_present present] at moves
    exact Option.map_eq_some_iff.mp moves
  | false =>
    rw [tail?_of_absent present] at moves
    cases moves

/-- What is to be moved out of a text has a marker, so that it is found again. -/
theorem hasMarker_of_tail? {tail : Text} (moves : (Reading.of text carrier?).tail? = some tail) :
    Directive.hasMarker tail = true := by
  obtain ⟨start, begins, rfl⟩ := exists_start_of_tail? moves
  obtain ⟨_, _, _, marked⟩ := Directives.read_tail begins
  exact Directive.hasMarker_of_startsWithMarker marked

/-- A text without directives is readable as a whole. -/
theorem baseOf_of_absent (absent : (Directives.read text).present = false) :
    baseOf text = text :=
  Directives.baseText_of_absent absent

theorem detached_keySuffix_of (text : Text) (carrier? : Option Text) :
    Directive.Detached (Reading.of text carrier?).directives.keySuffix := by
  cases present : (Directives.read text).present with
  | true =>
    rw [of_of_present present]
    exact Directives.detached_keySuffix text
  | false =>
    cases carrier? with
    | none =>
      rw [of_of_bare present]
      exact .inl rfl
    | some comment =>
      rw [of_of_carried present]
      exact Directives.detached_keySuffix comment

end Reading

namespace Reversible

open Reading

variable {catalog : Catalog} {written text : Text} {carrier? : Option Text}
  (reversible : Reversible catalog written text carrier?)
include reversible

/-- The phrase is the readable part and the key suffix behind it. -/
theorem phrase_eq :
    (Reading.of text carrier?).phrase =
      baseOf text ++ (Reading.of text carrier?).directives.keySuffix := by
  have data := reversible.data
  cases present : (Directives.read text).present with
  | true => rw [of_of_present present]
  | false =>
    rw [baseOf_of_absent present]
    cases carrier? with
    | none =>
      rw [of_of_bare present]
      exact (List.append_nil text).symm
    | some comment =>
      rw [of_of_carried present] at data ⊢
      simp only at data
      simp only [data]
      rfl

theorem strip_phrase :
    Directive.strip (Reading.of text carrier?).phrase = baseOf text := by
  rw [reversible.phrase_eq]
  exact Directive.strip_append reversible.base (detached_keySuffix_of text carrier?)

/-- A text that is exempt is its readable part in every language. -/
theorem rendered_of_ignored (ignored : (Reading.of text carrier?).directives.ignored = true)
    (language : Text) :
    (Reading.of text carrier?).rendered catalog written language = baseOf text := by
  rw [rendered, chosen, if_pos ignored]
  exact reversible.strip_phrase

/-- So is a text whose phrase is in no language. -/
theorem rendered_of_lacks (counts : (Reading.of text carrier?).directives.ignored = false)
    (lacks : catalog.Lacks (Reading.of text carrier?).phrase) (language : Text) :
    (Reading.of text carrier?).rendered catalog written language = baseOf text := by
  rw [rendered, chosen, if_neg (by simp [counts]), Catalog.counterpart?_of_lacks lacks]
  exact reversible.strip_phrase

omit reversible in
/-- Any other text is the counterpart of its phrase, without the suffix. -/
theorem rendered_of_get? (distinct : catalog.Distinct)
    (counts : (Reading.of text carrier?).directives.ignored = false) {index : Nat}
    (stands : catalog.get? written index = some (Reading.of text carrier?).phrase)
    {language base : Text} (free : Directive.hasMarker base = false)
    (counterpart : catalog.get? language index
      = some (base ++ (Reading.of text carrier?).directives.keySuffix)) :
    (Reading.of text carrier?).rendered catalog written language = base := by
  rw [rendered, chosen, if_neg (by simp [counts]), Catalog.counterpart?_of_get? distinct stands,
    counterpart]
  exact Directive.strip_append free (detached_keySuffix_of text carrier?)

/-- What a text is in a language has no marker. -/
theorem free_rendered (distinct : catalog.Distinct) {language : Text}
    (known : catalog.contains language = true) :
    Directive.hasMarker ((Reading.of text carrier?).rendered catalog written language) = false := by
  cases counts : (Reading.of text carrier?).directives.ignored with
  | true =>
    rw [reversible.rendered_of_ignored counts]
    exact reversible.base
  | false =>
    rcases reversible.phrase counts with lacks | ⟨index, stands, counterparts⟩
    · rw [reversible.rendered_of_lacks counts lacks]
      exact reversible.base
    · obtain ⟨base, free, counterpart⟩ := counterparts language known
      rw [rendered_of_get? distinct counts stands free counterpart]
      exact free

/-- Read again, a text has its phrase in the language that it is in, the same
suffix, and nothing to be moved. -/
theorem of_rendered (distinct : catalog.Distinct) {language : Text}
    (known : catalog.contains language = true) :
    ∃ directives : Directives, directives.data = [] ∧
      directives.ignored = (Reading.of text carrier?).directives.ignored ∧
      Reading.of ((Reading.of text carrier?).rendered catalog written language)
          ((Reading.of text carrier?).carrierAfter carrier?) =
        ⟨(Reading.of text carrier?).rendered catalog written language ++
          (Reading.of text carrier?).directives.keySuffix, directives, none⟩ := by
  have data := reversible.data
  have none' := Directives.read_of_free (reversible.free_rendered distinct known)
  generalize (Reading.of text carrier?).rendered catalog written language = shown at none'
  have absent : (Directives.read shown).present = false := by rw [none']; rfl
  cases present : (Directives.read text).present with
  | true =>
    obtain ⟨start, begins⟩ := Directives.exists_start present
    obtain ⟨sameData, sameIgnored, sameSuffix, _⟩ := Directives.read_tail begins
    rw [of_of_present present] at data ⊢
    have after : Reading.carrierAfter ⟨baseOf text ++ (Directives.read text).keySuffix,
        Directives.read text, (Directives.read text).tail? text⟩ carrier?
          = some (text.drop start) := by
      simp only [carrierAfter, Directives.tail?, begins, Option.map_some, Option.some_or]
    rw [after, of_of_carried absent]
    refine ⟨_, sameData.trans data, sameIgnored, ?_⟩
    simp only [sameData.trans data, sameSuffix]
    rfl
  | false =>
    cases carrier? with
    | none =>
      rw [of_of_bare present, carrierAfter, Option.none_or, of_of_bare absent]
      refine ⟨_, rfl, rfl, ?_⟩
      rw [show Directives.none.keySuffix = [] from rfl, List.append_nil]
    | some comment =>
      rw [of_of_carried present] at data ⊢
      rw [carrierAfter, Option.none_or, of_of_carried absent]
      refine ⟨_, data, rfl, ?_⟩
      simp only at data
      simp only [data]
      rfl

/-- **A pass from one language to another makes a text what it is in the other**, and
leaves its carrier alone. -/
theorem localized_rendered (distinct : catalog.Distinct) {source target : Text}
    (knownSource : catalog.contains source = true) (knownTarget : catalog.contains target = true) :
    (Reading.of ((Reading.of text carrier?).rendered catalog written source)
        ((Reading.of text carrier?).carrierAfter carrier?)).tail? = none ∧
      ((Reading.of ((Reading.of text carrier?).rendered catalog written source)
        ((Reading.of text carrier?).carrierAfter carrier?)).localized
          (catalog.counterpart? source target)).1 =
        (Reading.of text carrier?).rendered catalog written target := by
  obtain ⟨directives, data, ignored, again⟩ := reversible.of_rendered distinct knownSource
  have free := reversible.free_rendered distinct knownSource
  have strip := Directive.strip_append free (detached_keySuffix_of text carrier?)
  rw [again]
  refine ⟨rfl, ?_⟩
  rw [localized, chosen]
  simp only [data, withValues, List.foldl_nil, ignored]
  cases counts : (Reading.of text carrier?).directives.ignored with
  | true =>
    rw [if_pos rfl, strip, reversible.rendered_of_ignored counts,
      reversible.rendered_of_ignored counts]
  | false =>
    rw [if_neg (by decide)]
    rcases reversible.phrase counts with lacks | ⟨index, stands, counterparts⟩
    · have base := reversible.rendered_of_lacks counts lacks
      rw [base, ← reversible.phrase_eq, Catalog.counterpart?_of_lacks lacks, base]
      exact reversible.strip_phrase
    · obtain ⟨base, free, here⟩ := counterparts source knownSource
      obtain ⟨other, freeOther, there⟩ := counterparts target knownTarget
      rw [rendered_of_get? distinct counts stands free here,
        rendered_of_get? distinct counts stands freeOther there,
        Catalog.counterpart?_of_get? distinct here, there]
      exact Directive.strip_append freeOther (detached_keySuffix_of text carrier?)

/-- The first pass makes a text what it is in the language of the localizer. -/
theorem localized_eq_rendered (language : Text) :
    ((Reading.of text carrier?).localized (catalog.counterpart? written language)).1 =
      (Reading.of text carrier?).rendered catalog written language := by
  rw [localized, reversible.data]
  rfl

/-- In the language that it was written in, a text is its readable part. -/
theorem rendered_written (distinct : catalog.Distinct) :
    (Reading.of text carrier?).rendered catalog written written = baseOf text := by
  cases counts : (Reading.of text carrier?).directives.ignored with
  | true => exact reversible.rendered_of_ignored counts written
  | false =>
    rcases reversible.phrase counts with lacks | ⟨index, stands, _⟩
    · exact reversible.rendered_of_lacks counts lacks written
    · refine rendered_of_get? distinct counts stands reversible.base ?_
      rw [stands, reversible.phrase_eq]

end Reversible

end Polyglot
