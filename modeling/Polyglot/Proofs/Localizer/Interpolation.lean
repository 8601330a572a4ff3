import Polyglot.Proofs.Localizer.Missed

/-!
# Values that are recognized

A text whose placeholders were filled is read back by exchanging the values for their
placeholders again. This leads back to the text if the values can be told from everything
else: no character of a value occurs in the text, in a placeholder or in another value
(`Recognizable`). So it does although placeholders may share their percent signs and values
may stand side by side (`Reading.withPlaceholders_withValues`).

What the characters of a pattern do not occur in stands like a wall in a text: what is in
front of it and what is behind it are replaced apart from each other (`Text.replaceAll_wall`).
The first placeholder that is filled leaves a value, and to the pairs that follow this is such
a wall, as is the placeholder that is put in its place again.

A text that was filled is therefore found in the catalog before it was filled, and its
counterpart is filled with the same values (`Localizer.localizeText_refilled`).
-/

set_option autoImplicit false

namespace Polyglot

/-! ## Walls -/

namespace Text

variable {pattern : Text} (replacement : Text)

theorem startsWith_cons_of_foreign {c : Char} (filled : pattern ≠ []) (foreign : c ∉ pattern)
    (rest : Text) : startsWith pattern (c :: rest) = false := by
  rw [Bool.eq_false_iff]
  intro begins
  obtain ⟨further, same⟩ := startsWith_iff.mp begins
  cases pattern with
  | nil => exact filled rfl
  | cons d pattern =>
    obtain ⟨rfl, _⟩ := List.cons.inj same
    exact foreign List.mem_cons_self

/-- What shares no character with the pattern is kept. -/
theorem replaceAll_append_of_foreign (filled : pattern ≠ []) {front : Text}
    (foreign : ∀ c ∈ front, c ∉ pattern) (rest : Text) :
    replaceAll pattern replacement (front ++ rest) =
      front ++ replaceAll pattern replacement rest := by
  induction front with
  | nil => rfl
  | cons c front ih =>
    obtain ⟨here, further⟩ := List.forall_mem_cons.mp foreign
    rw [List.cons_append, replaceAll_cons _ (startsWith_cons_of_foreign filled here _), ih further,
      List.cons_append]

/-- No occurrence reaches over a character that is not in the pattern. -/
theorem replaceAll_append_cons (filled : pattern ≠ []) {sign : Char} (foreign : sign ∉ pattern)
    (front rest : Text) :
    replaceAll pattern replacement (front ++ sign :: rest) =
      replaceAll pattern replacement front ++ sign :: replaceAll pattern replacement rest := by
  -- An occurrence is taken at once, so the induction is on the length.
  induction length : front.length using Nat.strong_induction_on generalizing front with
  | _ count ih =>
    subst length
    cases front with
    | nil =>
      rw [List.nil_append, replaceAll_cons _ (startsWith_cons_of_foreign filled foreign rest),
        replaceAll_nil, List.nil_append]
    | cons c front =>
      cases here : startsWith pattern (c :: front ++ sign :: rest) with
      | true =>
        obtain ⟨further, same⟩ := startsWith_iff.mp here
        obtain ⟨middle, whole⟩ := exists_eq_append_of_cons foreign same
        have shorter : middle.length < (c :: front).length := by
          have positive := List.length_pos_iff.mpr filled
          rw [whole, List.length_append]
          omega
        rw [whole, List.append_assoc, replaceAll_append _ _ filled, replaceAll_append _ _ filled,
          ih _ shorter middle rfl, List.append_assoc]
      | false =>
        have alone : startsWith pattern (c :: front) = false := by
          rw [Bool.eq_false_iff] at here ⊢
          intro begins
          obtain ⟨further, same⟩ := startsWith_iff.mp begins
          exact here (startsWith_iff.mpr ⟨further ++ sign :: rest, by
            rw [same, List.append_assoc]⟩)
        rw [List.cons_append] at here ⊢
        rw [replaceAll_cons _ here, replaceAll_cons _ alone, ih _ (Nat.lt_succ_self _) front rfl,
          List.cons_append]

/-- **What is in front of a wall and what is behind it are replaced apart from each other.** -/
theorem replaceAll_wall (filled : pattern ≠ []) {wall : Text} (present : wall ≠ [])
    (foreign : ∀ c ∈ wall, c ∉ pattern) (front rest : Text) :
    replaceAll pattern replacement (front ++ (wall ++ rest)) =
      replaceAll pattern replacement front ++ (wall ++ replaceAll pattern replacement rest) := by
  cases wall with
  | nil => exact absurd rfl present
  | cons sign wall =>
    obtain ⟨here, further⟩ := List.forall_mem_cons.mp foreign
    rw [List.cons_append, replaceAll_append_cons _ filled here,
      replaceAll_append_of_foreign _ filled further, List.cons_append]

/-- What a replacement leaves was there or was put in. -/
theorem mem_of_mem_replaceAll {c : Char} {text : Text}
    (listed : c ∈ replaceAll pattern replacement text) : c ∈ text ∨ c ∈ replacement := by
  by_cases filled : pattern = []
  · rw [replaceAll, filled, List.isEmpty_nil, if_pos rfl] at listed
    exact .inl listed
  induction length : text.length using Nat.strong_induction_on generalizing text with
  | _ count ih =>
    subst length
    cases text with
    | nil =>
      rw [replaceAll_nil] at listed
      exact .inl listed
    | cons d text =>
      cases here : startsWith pattern (d :: text) with
      | true =>
        obtain ⟨further, same⟩ := startsWith_iff.mp here
        have shorter : further.length < (d :: text).length := by
          have positive := List.length_pos_iff.mpr filled
          rw [same, List.length_append]
          omega
        rw [same, replaceAll_append _ _ filled, List.mem_append] at listed
        rcases listed with put | listed
        · exact .inr put
        · rw [same, List.mem_append]
          exact (ih _ shorter listed rfl).imp_left .inr
      | false =>
        rw [replaceAll_cons _ here, List.mem_cons] at listed
        rw [List.mem_cons]
        rcases listed with rfl | listed
        · exact .inl (.inl rfl)
        · exact (ih _ (Nat.lt_succ_self _) listed rfl).imp_left .inr

omit replacement in
/-- A text is divided by the first occurrence of a pattern, which is replaced. -/
theorem exists_split_of_contains (filled : pattern ≠ []) {text : Text}
    (present : contains pattern text = true) :
    ∃ front rest, text = front ++ (pattern ++ rest) ∧
      ∀ replacement, replaceAll pattern replacement text =
        front ++ (replacement ++ replaceAll pattern replacement rest) := by
  induction text with
  | nil =>
    rw [contains, List.isEmpty_iff] at present
    exact absurd present filled
  | cons c text ih =>
    cases here : startsWith pattern (c :: text) with
    | true =>
      obtain ⟨rest, same⟩ := startsWith_iff.mp here
      refine ⟨[], rest, same, fun replacement => ?_⟩
      rw [same, replaceAll_append _ _ filled, List.nil_append]
    | false =>
      rw [contains, here, Bool.false_or] at present
      obtain ⟨front, rest, same, replaced⟩ := ih present
      refine ⟨c :: front, rest, congrArg (c :: ·) same, fun replacement => ?_⟩
      rw [replaceAll_cons _ here, replaced, List.cons_append]

end Text

/-! ## Values and placeholders -/

/-- Values that can be told from everything else: none is empty, and no character of a value
occurs in the text, in a placeholder or in the value of another pair. -/
structure Recognizable (pairs : List DataPair) (text : Text) : Prop where
  filled : ∀ pair ∈ pairs, pair.value ≠ []
  text : ∀ pair ∈ pairs, ∀ c ∈ pair.value, c ∉ text
  placeholders : ∀ pair ∈ pairs, ∀ c ∈ pair.value, ∀ other ∈ pairs, c ∉ other.placeholder
  values : pairs.Pairwise fun pair other => ∀ c ∈ pair.value, c ∉ other.value

/-- Fewer pairs can be told from a part of the text. -/
theorem Recognizable.behind {pair : DataPair} {rest : List DataPair} {text part : Text}
    (recognizable : Recognizable (pair :: rest) text) (inside : part ⊆ text) :
    Recognizable rest part where
  filled other listed := recognizable.filled other (List.mem_cons_of_mem pair listed)
  text other listed c inValue here :=
    recognizable.text other (List.mem_cons_of_mem pair listed) c inValue (inside here)
  placeholders other listed c inValue named among :=
    recognizable.placeholders other (List.mem_cons_of_mem pair listed) c inValue named
      (List.mem_cons_of_mem pair among)
  values := (List.pairwise_cons.mp recognizable.values).2

namespace Reading

variable {pairs : List DataPair} {text wall : Text}

theorem placeholder_ne_nil (pair : DataPair) : pair.placeholder ≠ [] :=
  List.cons_ne_nil _ _

/-- Placeholders are filled in front of a wall and behind it. -/
theorem withValues_wall (present : wall ≠ [])
    (foreign : ∀ pair ∈ pairs, ∀ c ∈ wall, c ∉ pair.placeholder) (front rest : Text) :
    withValues pairs (front ++ (wall ++ rest)) =
      withValues pairs front ++ (wall ++ withValues pairs rest) := by
  induction pairs generalizing front rest with
  | nil => rfl
  | cons pair others ih =>
    obtain ⟨here, further⟩ := List.forall_mem_cons.mp foreign
    rw [withValues_cons, Text.replaceAll_wall _ (placeholder_ne_nil pair) present here, ih further,
      withValues_cons, withValues_cons]

/-- Values are exchanged in front of a wall and behind it. -/
theorem withPlaceholders_wall (filled : ∀ pair ∈ pairs, pair.value ≠ []) (present : wall ≠ [])
    (foreign : ∀ pair ∈ pairs, ∀ c ∈ wall, c ∉ pair.value) (front rest : Text) :
    withPlaceholders pairs (front ++ (wall ++ rest)) =
      withPlaceholders pairs front ++ (wall ++ withPlaceholders pairs rest) := by
  induction pairs generalizing front rest with
  | nil => rfl
  | cons pair others ih =>
    obtain ⟨filledHere, filledBehind⟩ := List.forall_mem_cons.mp filled
    obtain ⟨here, further⟩ := List.forall_mem_cons.mp foreign
    rw [withPlaceholders_cons, Text.replaceAll_wall _ filledHere present here,
      ih filledBehind further, withPlaceholders_cons, withPlaceholders_cons]

/-- What a filled text has in it was there or belongs to a value. -/
theorem mem_of_mem_withValues {c : Char} (listed : c ∈ withValues pairs text) :
    c ∈ text ∨ ∃ pair ∈ pairs, c ∈ pair.value := by
  induction pairs generalizing text with
  | nil => exact .inl listed
  | cons pair others ih =>
    rw [withValues_cons] at listed
    rcases ih listed with kept | ⟨other, among, inValue⟩
    · rcases Text.mem_of_mem_replaceAll _ kept with kept | put
      · exact .inl kept
      · exact .inr ⟨pair, List.mem_cons_self, put⟩
    · exact .inr ⟨other, List.mem_cons_of_mem pair among, inValue⟩

/-- **A text that was filled is read back**, if the values can be recognized in it. -/
theorem withPlaceholders_withValues (recognizable : Recognizable pairs text) :
    withPlaceholders pairs (withValues pairs text) = text := by
  induction pairs generalizing text with
  | nil => rfl
  | cons pair rest ih =>
    induction length : text.length using Nat.strong_induction_on generalizing text with
    | _ count shorter =>
      subst length
      have filled := recognizable.filled pair List.mem_cons_self
      have unlike : ∀ c ∈ pair.value, ∀ other ∈ rest, c ∉ other.value := fun c inValue other among =>
        (List.pairwise_cons.mp recognizable.values).1 other among c inValue
      have placeholders := recognizable.placeholders pair List.mem_cons_self
      -- The pairs that follow leave no character of this value anywhere.
      have foreign : ∀ part ⊆ text, ∀ c ∈ withValues rest part, c ∉ pair.value := by
        intro part inside c listed inValue
        rcases mem_of_mem_withValues listed with kept | ⟨other, among, put⟩
        · exact recognizable.text pair List.mem_cons_self c inValue (inside kept)
        · exact unlike c inValue other among put
      rw [withValues_cons, withPlaceholders_cons]
      cases present : Text.contains pair.placeholder text with
      | false =>
        have kept := Text.replaceAll_append_of_foreign pair.placeholder filled
          (foreign text (List.Subset.refl text)) []
        rw [List.append_nil, Text.replaceAll_nil, List.append_nil] at kept
        rw [Text.replaceAll_of_absent _ present, kept]
        exact ih (recognizable.behind (List.Subset.refl text))
      | true =>
        obtain ⟨front, behind, rfl, replaced⟩ :=
          Text.exists_split_of_contains (placeholder_ne_nil pair) present
        have inFront : front ⊆ front ++ (pair.placeholder ++ behind) :=
          List.subset_append_left _ _
        have inBack : behind ⊆ front ++ (pair.placeholder ++ behind) := fun c listed =>
          List.mem_append_right front (List.mem_append_right pair.placeholder listed)
        have fewer : behind.length < (front ++ (pair.placeholder ++ behind)).length := by
          have positive := List.length_pos_iff.mpr (placeholder_ne_nil pair)
          rw [List.length_append, List.length_append]
          omega
        have further : Recognizable (pair :: rest) behind :=
          ⟨recognizable.filled, fun other among c inValue here =>
            recognizable.text other among c inValue (inBack here), recognizable.placeholders,
            recognizable.values⟩
        have later := shorter _ fewer further rfl
        rw [withValues_cons, withPlaceholders_cons] at later
        have valueWall : ∀ other ∈ rest, ∀ c ∈ pair.value, c ∉ other.placeholder :=
          fun other among c inValue => placeholders c inValue other (List.mem_cons_of_mem pair among)
        have nameWall : ∀ other ∈ rest, ∀ c ∈ pair.placeholder, c ∉ other.value :=
          fun other among c named inValue => recognizable.placeholders other
            (List.mem_cons_of_mem pair among) c inValue pair List.mem_cons_self named
        rw [replaced, withValues_wall filled valueWall,
          Text.replaceAll_append_of_foreign _ filled (foreign front inFront),
          Text.replaceAll_append _ _ filled,
          withPlaceholders_wall (recognizable.behind inFront).filled (placeholder_ne_nil pair)
            nameWall, ih (recognizable.behind inFront), later]

end Reading

/-! ## Texts that were filled -/

namespace Localizer

/-- **Data survive a change of language.** Values that are recognized in a text lead back to it.
So let the comment after a text have pairs that are recognized in some base, and let the text,
without a marker, be that base filled. If the base with the keys of the comment is at one place
of the catalog and at no other, and the language that is wanted has an entry there, then the
text is localized and becomes that entry, up to its first marker, filled with the same values;
nothing else changes. -/
theorem localizeText_refilled :
    (∀ (pairs : List DataPair) (base : Text), Recognizable pairs base →
      Reading.withPlaceholders pairs (Reading.withValues pairs base) = base) ∧
    ∀ (localizer : Localizer) (document : Document) (source : Text) {node sibling : NodeId}
      {base comment entry : Text} {index : Nat},
      Recognizable (Directives.read comment).data base →
      document.forest.text? node =
        some (Reading.withValues (Directives.read comment).data base) →
      Directive.hasMarker (Reading.withValues (Directives.read comment).data base) = false →
      document.forest.nextSibling? node = some sibling →
      document.forest.comment? sibling = some comment →
      (Directives.read comment).ignored = false →
      (∀ other, localizer.catalog.get? source other =
        some (base ++ (Directives.read comment).keySuffix) ↔ other = index) →
      localizer.catalog.get? localizer.language index = some entry →
      ∃ after, localizer.localizeText document node source = .ok (after, .localized) ∧
        after.forest.text? node =
          some (Reading.withValues (Directives.read comment).data (Directive.strip entry)) ∧
        after.forest = document.forest.write node
          (Reading.withValues (Directives.read comment).data (Directive.strip entry)) := by
  refine ⟨fun _ _ recognizable => Reading.withPlaceholders_withValues recognizable, ?_⟩
  intro localizer document source node sibling base comment entry index recognizable spoken free
    next noted heeded unique wanted
  have carrier : document.forest.carrierText? node = (some comment).filter Directive.hasMarker := by
    rw [Forest.carrierText?_eq, next, Option.bind_some, noted]
  -- The text is read as its base with the keys of the comment.
  have read : document.forest.reading? node = some ⟨base ++ (Directives.read comment).keySuffix,
      Directives.read comment, none⟩ := by
    rw [Forest.reading?, spoken, Option.map_some, carrier, Reading.of_beside free,
      Reading.withPlaceholders_withValues recognizable]
  have found : localizer.counterpart? source (base ++ (Directives.read comment).keySuffix) =
      some entry := (Catalog.counterpart?_of_unique unique).trans wanted
  have becomes : (⟨base ++ (Directives.read comment).keySuffix, Directives.read comment,
      none⟩ : Reading).localized (localizer.counterpart? source) =
      (Reading.withValues (Directives.read comment).data (Directive.strip entry), .localized) := by
    simp only [Reading.localized, Reading.chosen, heeded, found, Bool.false_eq_true, if_false]
  obtain ⟨after, done, forest⟩ := localizer.localizeText_of_reading? document node source read
  rw [Forest.localize_of_tail?_eq_none read rfl, becomes] at forest
  rw [becomes] at done
  exact ⟨after, done, by rw [forest, Forest.text?_write spoken, if_pos rfl], forest⟩

/-- A note of a name, a number and a key. -/
def scoreNote : Text := " I18N_D x=Ana I18N_D y=42 I18N_K k".toList

/-- A localizer that has a score in two languages. -/
def scoring : Localizer :=
  { withKey with catalog := .ofList [(['e'], [['a'], "%x%%y%, %x% I18N_K k".toList]),
      (['f'], [['b'], "%y% %x%! I18N_K k".toList])] }

/-- The values stand side by side, and one of them twice; each is found again. -/
theorem localizeText_refilled_score :
    let score := paragraph "Ana42, Ana".toList [.node () (.comment scoreNote) []]
    Reading.withPlaceholders (Directives.read scoreNote).data "Ana42, Ana".toList =
        "%x%%y%, %x%".toList ∧
      ∃ after, scoring.localizeText score 2 ['e'] = .ok (after, .localized) ∧
        after.forest.text? 2 = some "42 Ana!".toList := by
  intro score
  have pairs : (Directives.read scoreNote).data =
      [⟨['x'], ['A', 'n', 'a']⟩, ⟨['y'], ['4', '2']⟩] := by decide
  have recognizable : Recognizable (Directives.read scoreNote).data "%x%%y%, %x%".toList := by
    rw [pairs]
    constructor <;> simp [DataPair.placeholder]
  have filled : Reading.withValues (Directives.read scoreNote).data "%x%%y%, %x%".toList =
      "Ana42, Ana".toList := by decide
  have becomes : Reading.withValues (Directives.read scoreNote).data
      (Directive.strip "%y% %x%! I18N_K k".toList) = "42 Ana!".toList := by decide
  have unique : ∀ other, scoring.catalog.get? ['e'] other =
      some ("%x%%y%, %x%".toList ++ (Directives.read scoreNote).keySuffix) ↔ other = 1 := by
    intro other
    rcases other with _ | _ | more
    · decide
    · decide
    · constructor
      · intro stands
        cases stands
      · intro same
        omega
  have spoken : score.forest.text? 2 = some (Reading.withValues
      (Directives.read scoreNote).data "%x%%y%, %x%".toList) := filled.symm ▸ rfl
  have next : score.forest.nextSibling? 2 = some 3 := rfl
  have noted : score.forest.comment? 3 = some scoreNote := rfl
  obtain ⟨back, localized⟩ := localizeText_refilled
  obtain ⟨after, done, said, _⟩ := localized scoring score ['e'] recognizable spoken (by decide)
    next noted (by decide) unique rfl
  refine ⟨?_, after, done, said.trans (congrArg some becomes)⟩
  rw [← filled]
  exact back _ _ recognizable

end Localizer

end Polyglot
