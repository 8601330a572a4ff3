import Polyglot.Localizer.Reading
import Polyglot.Proofs.Directive.Behind
import Polyglot.Proofs.Text.Parts

/-!
# Values for placeholders and back

A text before a comment with data is looked up with the values of the data exchanged for
their placeholders, one pair after the other, and what it becomes is filled in the same
order. So a text that has no counterpart goes both ways and is written again.

No marker arises on the way out (`Reading.hasMarker_withPlaceholders`). Whether the way back
ends where the other began depends on the pairs: a value that occurs in the name of an
earlier pair is exchanged inside that placeholder, and a name that stands between two
placeholders makes one with their percent signs. `Separable` excludes both, of which neither
can happen with a single pair (`separable_singleton`). Then the text with placeholders is the
text with some of its values masked (`Masked`): exchanging a value masks one pair more
(`Masked.exchange`), filling a placeholder one pair less (`Masked.fill`), and in the end
nothing is masked (`Reading.withValues_withPlaceholders`).
-/

set_option autoImplicit false

namespace Polyglot

/-! ## No marker arises -/

namespace Directive

theorem percent_notMem_mark : ∀ mark ∈ marks, '%' ∉ mark := by
  decide

theorem markerWord_prefix : ∀ mark ∈ marks, markerWord <+: mark := by
  decide

/-- No marker has a percent sign in it, so none reaches over one. -/
theorem hasMarker_around {front back : Text} (free : hasMarker front = false)
    (freeBack : hasMarker back = false) : hasMarker (front ++ '%' :: back) = false := by
  induction front with
  | nil =>
    rw [List.nil_append, hasMarker, freeBack]
    rfl
  | cons c front ih =>
    rw [hasMarker, Bool.or_eq_false_iff] at free
    rw [List.cons_append, hasMarker, ih free.2, Bool.or_false, Bool.eq_false_iff]
    intro marked
    apply Bool.eq_false_iff.mp free.1
    obtain ⟨b, blank, mark, known, body, same⟩ := startsWithMarker_iff.mp marked
    obtain ⟨rfl, behind⟩ := List.cons.inj same
    obtain ⟨middle, rfl⟩ := Text.exists_eq_append_of_cons (percent_notMem_mark mark known) behind
    exact startsWithMarker_iff.mpr ⟨c, blank, mark, known, middle, rfl⟩

/-- A part of a text without a marker has none. -/
theorem hasMarker_of_infix {part text : Text} (inside : part <:+: text)
    (free : hasMarker text = false) : hasMarker part = false := by
  obtain ⟨front, back, rfl⟩ := inside
  induction front with
  | cons c front ih =>
    apply ih
    rw [List.append_assoc] at free ⊢
    rw [List.cons_append, hasMarker, Bool.or_eq_false_iff] at free
    exact free.2
  | nil =>
    rw [List.nil_append] at free
    induction part with
    | nil => rfl
    | cons c part ih =>
      rw [List.cons_append, hasMarker, Bool.or_eq_false_iff] at free
      rw [hasMarker, ih free.2, Bool.or_false, Bool.eq_false_iff]
      intro marked
      exact Bool.eq_false_iff.mp free.1 (startsWithMarker_append marked back)

/-- A payload ends where another marker would begin in it. -/
theorem hasMarker_payloadAt (text : Text) : hasMarker (payloadAt text) = false := by
  induction text with
  | nil => rfl
  | cons c rest ih =>
    rw [payloadAt]
    split
    · rfl
    · next stays =>
      rw [hasMarker, ih, Bool.or_false, Bool.eq_false_iff]
      intro marked
      apply stays
      obtain ⟨b, _, mark, known, body, same⟩ := startsWithMarker_iff.mp marked
      obtain ⟨rfl, behind⟩ := List.cons.inj same
      obtain ⟨further, whole⟩ := payloadAt_prefix rest
      obtain ⟨ending, rfl⟩ := markerWord_prefix mark known
      rw [Bool.or_eq_true, Text.startsWith_iff]
      exact .inr ⟨_, by rw [← whole, behind, List.append_assoc, List.append_assoc]⟩

/-- What a directive says is a payload of what follows its head. -/
theorem exists_payloadAt_of_at? {text : Text} {directive : Directive}
    (found : at? text = some directive) : ∃ rest, directive.payload = payloadAt rest := by
  rw [at?] at found
  split at found
  · cases found
  · next tag rest _ =>
    split at found
    · cases found
    · cases found
      exact ⟨rest, rfl⟩

end Directive

/-- A name is a part of the payload that it is read from. -/
theorem DataPair.name_infix {payload : Text} {pair : DataPair}
    (read : DataPair.ofPayload? payload = some pair) : pair.name <:+: payload := by
  rw [ofPayload?] at read
  split at read
  · cases read
  · next name value cut =>
    split at read
    · cases read
    · cases read
      obtain ⟨_, rfl⟩ := Text.cut?_eq_some_iff.mp cut
      exact (Text.trimmed_infix isBlank name).trans (List.prefix_append name _).isInfix

/-- No name of a data directive has a marker in it. -/
theorem Directives.hasMarker_name (comment : Text) :
    ∀ pair ∈ (Directives.read comment).data, Directive.hasMarker pair.name = false := by
  intro pair listed
  rw [Directives.data_read] at listed
  obtain ⟨directive, found, read⟩ := List.mem_filterMap.mp listed
  obtain ⟨occurrence, scanned, rfl⟩ := List.mem_map.mp found
  obtain ⟨rest, payload⟩ := Directive.exists_payloadAt_of_at? (Directive.at?_of_mem_scan scanned)
  split at read
  · apply Directive.hasMarker_of_infix (DataPair.name_infix read)
    rw [payload]
    exact Directive.hasMarker_payloadAt rest
  · cases read

namespace Text

/-- Up to the first percent sign a text with placeholders in it is what it was. -/
theorem prefix_of_prefix_replaceAll {pattern replacement front : Text} (filled : pattern ≠ [])
    (plain : '%' ∉ front) :
    ∀ {text : Text}, front <+: replaceAll pattern ('%' :: replacement) text → front <+: text := by
  induction front with
  | nil =>
    intro text _
    exact List.nil_prefix
  | cons d front ih =>
    rw [List.mem_cons, not_or] at plain
    intro text begins
    cases text with
    | nil =>
      rw [replaceAll_nil] at begins
      exact begins
    | cons c rest =>
      cases here : startsWith pattern (c :: rest) with
      | true =>
        obtain ⟨further, whole⟩ := startsWith_iff.mp here
        rw [whole, replaceAll_append _ _ filled, List.cons_append, List.cons_prefix_cons] at begins
        exact absurd begins.1.symm plain.1
      | false =>
        rw [replaceAll_cons _ here, List.cons_prefix_cons] at begins
        exact List.cons_prefix_cons.mpr ⟨begins.1, ih plain.2 begins.2⟩

end Text

namespace Reading

/-- No marker arises from a placeholder that is put in. -/
theorem hasMarker_replaceAll {pattern name : Text} (filled : pattern ≠ [])
    (named : Directive.hasMarker name = false) (text : Text) :
    Directive.hasMarker text = false →
      Directive.hasMarker (Text.replaceAll pattern ('%' :: name ++ ['%']) text) = false := by
  -- An occurrence is taken at once, so the induction is on the length.
  induction length : text.length using Nat.strong_induction_on generalizing text with
  | _ count ih =>
    subst length
    intro free
    cases text with
    | nil =>
      rw [Text.replaceAll_nil]
      exact free
    | cons c rest =>
      cases here : Text.startsWith pattern (c :: rest) with
      | true =>
        obtain ⟨further, whole⟩ := Text.startsWith_iff.mp here
        have shorter : further.length < (c :: rest).length := by
          rw [whole, List.length_append]
          have positive := List.length_pos_iff.mpr filled
          omega
        have behind := ih _ shorter further rfl
          (Directive.hasMarker_of_infix (whole ▸ (List.suffix_append pattern further).isInfix) free)
        have opened : Directive.hasMarker ([] ++ '%' :: name) = false :=
          Directive.hasMarker_around rfl named
        rw [whole, Text.replaceAll_append _ _ filled, List.append_assoc]
        exact Directive.hasMarker_around opened behind
      | false =>
        rw [Directive.hasMarker, Bool.or_eq_false_iff] at free
        have behind := ih rest.length (Nat.lt_succ_self _) rest rfl free.2
        rw [Text.replaceAll_cons _ here, Directive.hasMarker, behind, Bool.or_false,
          Bool.eq_false_iff]
        intro marked
        apply Bool.eq_false_iff.mp free.1
        obtain ⟨b, blank, mark, known, body, same⟩ := Directive.startsWithMarker_iff.mp marked
        obtain ⟨rfl, ahead⟩ := List.cons.inj same
        obtain ⟨body, rfl⟩ := Text.prefix_of_prefix_replaceAll filled
          (Directive.percent_notMem_mark mark known) ⟨body, ahead.symm⟩
        exact Directive.startsWithMarker_iff.mpr ⟨c, blank, mark, known, body, rfl⟩

/-- Pair after pair, a text goes the way to its placeholders. -/
theorem withPlaceholders_cons (pair : DataPair) (rest : List DataPair) (text : Text) :
    withPlaceholders (pair :: rest) text =
      withPlaceholders rest (Text.replaceAll pair.value pair.placeholder text) := by
  cases filled : pair.value.isEmpty with
  | true =>
    rw [withPlaceholders, List.filter_cons_of_neg (by rw [filled]; decide), Text.replaceAll,
      if_pos filled, withPlaceholders]
  | false =>
    rw [withPlaceholders, List.filter_cons_of_pos (by rw [filled]; rfl), List.foldl_cons,
      withPlaceholders]

theorem withValues_cons (pair : DataPair) (rest : List DataPair) (text : Text) :
    withValues (pair :: rest) text =
      withValues rest (Text.replaceAll pair.placeholder pair.value text) := rfl

/-- **No marker arises on the way out.** -/
theorem hasMarker_withPlaceholders {pairs : List DataPair}
    (named : ∀ pair ∈ pairs, Directive.hasMarker pair.name = false) {text : Text}
    (free : Directive.hasMarker text = false) :
    Directive.hasMarker (withPlaceholders pairs text) = false := by
  induction pairs generalizing text with
  | nil => exact free
  | cons pair rest ih =>
    obtain ⟨here, further⟩ := List.forall_mem_cons.mp named
    rw [withPlaceholders_cons]
    apply ih further
    cases filled : pair.value with
    | nil => exact free
    | cons c value => exact hasMarker_replaceAll (List.cons_ne_nil c value) here text free

end Reading

/-! ## Masks -/

/-- A text, and how it is shown with the values of pairs given as placeholders at some of
its places. -/
inductive Masked (pairs : List DataPair) : Text → Text → Prop where
  | nil : Masked pairs [] []
  | char {c : Char} {text shown : Text} : c ≠ '%' → Masked pairs text shown →
      Masked pairs (c :: text) (c :: shown)
  | pair {pair : DataPair} {text shown : Text} : pair ∈ pairs → pair.value ≠ [] →
      Masked pairs text shown → Masked pairs (pair.value ++ text) (pair.placeholder ++ shown)

namespace Masked

variable {pairs more : List DataPair} {front text shown : Text}

theorem mono (masked : Masked pairs text shown) (further : pairs ⊆ more) :
    Masked more text shown := by
  induction masked with
  | nil => exact nil
  | char plain _ ih => exact char plain ih
  | pair listed filled _ ih => exact pair (further listed) filled ih

/-- Where nothing can be masked the text is shown as it is. -/
theorem eq_of_nil (masked : Masked [] text shown) : shown = text := by
  induction masked with
  | nil => rfl
  | char _ _ ih => rw [ih]
  | pair listed => cases listed

section Plain

variable (plain : '%' ∉ front)
include plain

theorem append (masked : Masked pairs text shown) :
    Masked pairs (front ++ text) (front ++ shown) := by
  induction front with
  | nil => exact masked
  | cons c front ih =>
    rw [List.mem_cons, not_or] at plain
    exact char (Ne.symm plain.1) (ih plain.2)

theorem refl : Masked pairs front front := by
  have masked : Masked pairs (front ++ []) (front ++ []) := append plain nil
  rwa [List.append_nil] at masked

/-- What is shown without percent signs is there. -/
theorem exists_of_append (masked : Masked pairs text (front ++ shown)) :
    ∃ rest, text = front ++ rest ∧ Masked pairs rest shown := by
  induction front generalizing text with
  | nil => exact ⟨text, rfl, masked⟩
  | cons c front ih =>
    rw [List.mem_cons, not_or] at plain
    rw [List.cons_append] at masked
    generalize whole : c :: (front ++ shown) = seen at masked
    cases masked with
    | nil => cases whole
    | char _ below =>
      obtain ⟨rfl, rfl⟩ := List.cons.inj whole
      obtain ⟨rest, rfl, further⟩ := ih plain.2 below
      exact ⟨rest, rfl, further⟩
    | pair => exact absurd (List.cons.inj whole).1.symm plain.1

end Plain

/-- A percent sign that is shown begins a placeholder. -/
theorem exists_of_percent (masked : Masked pairs text ('%' :: shown)) :
    ∃ pair ∈ pairs, pair.value ≠ [] ∧ ∃ rest, text = pair.value ++ rest := by
  generalize whole : '%' :: shown = seen at masked
  cases masked with
  | nil => cases whole
  | char plain => exact absurd (List.cons.inj whole).1.symm plain
  | pair listed filled => exact ⟨_, listed, filled, _, rfl⟩

/-! ## Masking one more pair -/

/-- What a placeholder ends with ends with a percent sign. -/
theorem exists_of_ending {pair : DataPair} {ending : Text} (present : ending ≠ [])
    (ends : ending <:+ pair.placeholder) :
    ∃ inner, inner <:+ '%' :: pair.name ∧ ending = inner ++ ['%'] := by
  rcases List.suffix_concat_iff.mp ends with rfl | ⟨inner, same, inside⟩
  · exact absurd rfl present
  · exact ⟨inner, inside, same⟩

/-- What does not occur in a name, nor has a percent sign in it, begins nowhere in the
placeholder of that name. -/
theorem startsWith_ending_eq_false {pattern ending rest : Text} {pair : DataPair}
    (filled : pattern ≠ []) (plain : '%' ∉ pattern)
    (absent : Text.contains pattern pair.name = false) (present : ending ≠ [])
    (ends : ending <:+ pair.placeholder) :
    Text.startsWith pattern (ending ++ rest) = false := by
  rw [Bool.eq_false_iff]
  intro begins
  obtain ⟨further, same⟩ := Text.startsWith_iff.mp begins
  obtain ⟨inner, inside, rfl⟩ := exists_of_ending present ends
  rw [List.append_assoc] at same
  obtain ⟨middle, rfl⟩ := Text.exists_eq_append_of_cons plain same
  have inside := (List.prefix_append pattern middle).isInfix.trans inside.isInfix
  rcases List.infix_cons_iff.mp inside with front | inside
  · cases pattern with
    | nil => exact filled rfl
    | cons c pattern =>
      rw [List.cons_prefix_cons] at front
      exact plain (front.1 ▸ List.mem_cons_self)
  · exact Text.contains_eq_false_iff.mp absent inside

/-- **Exchanging a value masks its pair**, if the value occurs in no name that is masked. -/
theorem exchange {new : DataPair} (filled : new.value ≠ []) (plain : '%' ∉ new.value)
    (apart : ∀ pair ∈ pairs, pair.value ≠ [] → Text.contains new.value pair.name = false)
    (masked : Masked pairs text shown) :
    Masked (pairs ++ [new]) text (Text.replaceAll new.value new.placeholder shown) := by
  induction length : shown.length using Nat.strong_induction_on generalizing text shown with
  | _ count ih =>
    subst length
    cases masked with
    | nil =>
      rw [Text.replaceAll_nil]
      exact nil
    | @char c text shown other masked =>
      cases here : Text.startsWith new.value (c :: shown) with
      | false =>
        rw [Text.replaceAll_cons _ here]
        exact char other (ih shown.length (Nat.lt_succ_self _) masked rfl)
      | true =>
        obtain ⟨further, whole⟩ := Text.startsWith_iff.mp here
        obtain ⟨rest, same, below⟩ := exists_of_append plain (whole ▸ char other masked)
        have shorter : further.length < (c :: shown).length := by
          rw [whole, List.length_append]
          have positive := List.length_pos_iff.mpr filled
          omega
        rw [whole, same, Text.replaceAll_append _ _ filled]
        exact pair (by simp) filled (ih _ shorter below rfl)
    | @pair earlier text shown listed present masked =>
      have shorter : shown.length < (earlier.placeholder ++ shown).length := by
        simp [DataPair.placeholder]
        omega
      rw [Text.replaceAll_append_of_apart]
      · exact pair (List.mem_append_left _ listed) present (ih _ shorter masked rfl)
      · intro ending here ends
        exact startsWith_ending_eq_false filled plain (apart earlier listed present) here ends

/-! ## Masking one pair less -/

/-- **Filling a placeholder unmasks its pair**, if no other pair has its name, and the name
does not stand in the text between the values of two other ones. -/
theorem fill {first : DataPair} {rest : List DataPair} (named : '%' ∉ first.name)
    (plain : '%' ∉ first.value) (others : ∀ pair ∈ rest, '%' ∉ pair.name ∧ pair.name ≠ first.name)
    (masked : Masked (first :: rest) text shown)
    (apart : ∀ left ∈ rest, ∀ right ∈ first :: rest, left.value ≠ [] → right.value ≠ [] →
      Text.contains (left.value ++ first.name ++ right.value) text = false) :
    Masked rest text (Text.replaceAll first.placeholder first.value shown) := by
  induction masked with
  | nil =>
    rw [Text.replaceAll_nil]
    exact nil
  | @char c text shown other _ ih =>
    have here : Text.startsWith first.placeholder (c :: shown) = false := by
      rw [Bool.eq_false_iff]
      intro begins
      obtain ⟨_, same⟩ := Text.startsWith_iff.mp begins
      exact other (List.cons.inj same).1
    rw [Text.replaceAll_cons _ here]
    apply char other
    apply ih
    intro left listed right among filled filledRight
    have absent := apart left listed right among filled filledRight
    rw [Text.contains, Bool.or_eq_false_iff] at absent
    exact absent.2
  | @pair masking text shown listed filled masked ih =>
    have below := ih fun left listed right among filled filledRight => by
      have absent := apart left listed right among filled filledRight
      rw [Text.contains_eq_false_iff] at absent ⊢
      intro inside
      exact absent (inside.trans (List.suffix_append _ text).isInfix)
    rcases List.mem_cons.mp listed with rfl | behind
    · rw [Text.replaceAll_append _ _ (by simp [DataPair.placeholder])]
      exact append plain below
    · rw [Text.replaceAll_append_of_apart]
      · exact pair behind filled below
      · intro ending present ends
        rw [Bool.eq_false_iff]
        intro begins
        obtain ⟨further, same⟩ := Text.startsWith_iff.mp begins
        obtain ⟨inner, inside, rfl⟩ := exists_of_ending present ends
        obtain ⟨namedHere, different⟩ := others masking behind
        rw [DataPair.placeholder, List.append_assoc, List.append_assoc] at same
        rcases List.suffix_cons_iff.mp inside with whole | inside
        · rw [whole] at same
          exact different (Text.eq_of_append_cons namedHere named (List.cons.inj same).2).1
        cases inner with
        | cons c inner =>
          rw [(List.cons.inj same).1] at inside
          exact namedHere (inside.subset List.mem_cons_self)
        | nil =>
          -- The sign that ends this placeholder would begin one with the name in it.
          have ahead : shown = first.name ++ '%' :: further := (List.cons.inj same).2
          obtain ⟨between, rfl, seen⟩ := exists_of_append named (ahead ▸ masked)
          obtain ⟨right, among, filledRight, beyond, rfl⟩ := exists_of_percent seen
          have absent := apart masking behind right among filled filledRight
          rw [Text.contains_eq_false_iff] at absent
          exact absent ⟨[], beyond, by simp only [List.nil_append, List.append_assoc]⟩

end Masked

/-! ## There and back -/

/-- Pairs that do not meddle with one another in a text: no value occurs in the name of an
earlier pair, and no name stands in the text between the values of a later pair and of this
or a later one. -/
def Separable : List DataPair → Text → Prop
  | [], _ => True
  | pair :: rest, text =>
    (∀ later ∈ rest, pair.value ≠ [] → later.value ≠ [] →
      Text.contains later.value pair.name = false) ∧
    (∀ left ∈ rest, ∀ right ∈ pair :: rest, left.value ≠ [] → right.value ≠ [] →
      Text.contains (left.value ++ pair.name ++ right.value) text = false) ∧
    Separable rest text

instance decidableSeparable : (pairs : List DataPair) → (text : Text) →
    Decidable (Separable pairs text)
  | [], _ => .isTrue trivial
  | _ :: rest, text =>
    haveI := decidableSeparable rest text
    inferInstanceAs (Decidable (_ ∧ _ ∧ _))

/-- A single pair is always separable. -/
theorem separable_singleton (pair : DataPair) (text : Text) : Separable [pair] text :=
  ⟨fun _ listed => absurd listed List.not_mem_nil, fun _ listed => absurd listed List.not_mem_nil,
    trivial⟩

namespace Reading

variable {pairs : List DataPair} {text shown : Text}

/-- Exchanging the values of pairs masks them. -/
theorem masked_withPlaceholders {earlier : List DataPair}
    (plain : ∀ pair ∈ pairs, '%' ∉ pair.value) (separable : Separable pairs text)
    (apart : ∀ pair ∈ earlier, ∀ later ∈ pairs, pair.value ≠ [] → later.value ≠ [] →
      Text.contains later.value pair.name = false)
    (masked : Masked earlier text shown) :
    Masked (earlier ++ pairs) text (withPlaceholders pairs shown) := by
  induction pairs generalizing earlier shown with
  | nil =>
    rw [List.append_nil]
    exact masked
  | cons pair rest ih =>
    obtain ⟨plainHere, plainBehind⟩ := List.forall_mem_cons.mp plain
    obtain ⟨apartHere, _, separableBehind⟩ := separable
    have apartThen : ∀ before ∈ earlier ++ [pair], ∀ later ∈ rest, before.value ≠ [] →
        later.value ≠ [] → Text.contains later.value before.name = false := by
      intro before listed later behind
      rcases List.mem_append.mp listed with listed | same
      · exact apart before listed later (List.mem_cons_of_mem pair behind)
      · rw [List.mem_singleton.mp same]
        exact apartHere later behind
    have maskedThen : Masked (earlier ++ [pair]) text
        (Text.replaceAll pair.value pair.placeholder shown) := by
      by_cases filled : pair.value = []
      · rw [filled]
        exact masked.mono (List.subset_append_left earlier [pair])
      · apply masked.exchange filled plainHere
        intro before listed present
        exact apart before listed pair List.mem_cons_self present filled
    have result := ih plainBehind separableBehind apartThen maskedThen
    rw [withPlaceholders_cons]
    rwa [List.append_assoc, List.singleton_append] at result

/-- Filling the placeholders of pairs unmasks them. -/
theorem withValues_of_masked (distinct : (pairs.map DataPair.name).Nodup)
    (plain : ∀ pair ∈ pairs, '%' ∉ pair.name ∧ '%' ∉ pair.value) (separable : Separable pairs text)
    (masked : Masked pairs text shown) : withValues pairs shown = text := by
  induction pairs generalizing shown with
  | nil => exact masked.eq_of_nil
  | cons pair rest ih =>
    obtain ⟨⟨named, plainValue⟩, plainBehind⟩ := List.forall_mem_cons.mp plain
    obtain ⟨_, apart, separableBehind⟩ := separable
    rw [List.map_cons, List.nodup_cons] at distinct
    rw [withValues_cons]
    apply ih distinct.2 plainBehind separableBehind
    refine masked.fill named plainValue ?_ apart
    intro other behind
    refine ⟨(plainBehind other behind).1, ?_⟩
    intro same
    exact distinct.1 (same ▸ List.mem_map_of_mem behind)

/-- **There and back.** A text without percent signs, whose values are exchanged for
placeholders and whose placeholders are filled again, is the text that it was, if the pairs
are separable in it. -/
theorem withValues_withPlaceholders (plainText : '%' ∉ text)
    (distinct : (pairs.map DataPair.name).Nodup)
    (plain : ∀ pair ∈ pairs, '%' ∉ pair.name ∧ '%' ∉ pair.value)
    (separable : Separable pairs text) :
    withValues pairs (withPlaceholders pairs text) = text := by
  apply withValues_of_masked distinct plain separable
  have bare : Masked [] text text := Masked.refl plainText
  apply masked_withPlaceholders (fun pair listed => (plain pair listed).2) separable ?_ bare
  intro pair listed
  cases listed

end Reading

end Polyglot
