import Polyglot.Proofs.Directive.Placeholders
import Polyglot.Proofs.Localizer.CarriersAgree

/-!
# Texts that are missed

A text before a comment with data is looked up with placeholders in it. Where its phrase has
no counterpart, what was looked up is cut at its first marker and filled with the values
again. The cut takes off the keys of the comment and nothing else
(`Reading.localized_missed`), so what the text becomes is the text there and back; nothing
else of the document changes, and if the pairs are separable in the text, nothing at all
(`Localizer.localizeText_missed`).

Pairs that are not separable can put percent signs and names into a text
(`Localizer.localizeText_meddling`).

A text to which no directives belong is looked up as it stands, and the cut is made of the
text itself. The cut is made at the first marker, and there are markers that make no
directive: a tag without anything behind it, a head without a payload. A text with such a
marker loses it with everything behind it; every other text is left alone
(`Localizer.localizeText_missed_bare`).
-/

set_option autoImplicit false

namespace Polyglot

namespace Reading

variable {text comment : Text} (free : Directive.hasMarker text = false)
include free

/-- A text without a marker is read by the comment after it, if that has any directives. -/
theorem of_beside :
    Reading.of text ((some comment).filter Directive.hasMarker) =
      ⟨withPlaceholders (Directives.read comment).data text ++ (Directives.read comment).keySuffix,
        Directives.read comment, none⟩ := by
  have absent := Directives.present_of_free free
  cases marked : Directive.hasMarker comment with
  | true => rw [Option.filter_some_pos marked, of_of_carried absent]
  | false =>
    rw [Option.filter_some_neg marked, of_of_bare absent, Directives.read_of_free marked,
      Directives.none, List.append_nil]
    rfl

/-- What a text becomes when its phrase is missed. -/
theorem localized_missed {counterpart? : Text → Option Text}
    (heeded : (Directives.read comment).ignored = false)
    (missing : counterpart? (withPlaceholders (Directives.read comment).data text ++
      (Directives.read comment).keySuffix) = none) :
    (Reading.of text ((some comment).filter Directive.hasMarker)).localized counterpart? =
      (withValues (Directives.read comment).data
        (withPlaceholders (Directives.read comment).data text), .missed) := by
  have unmarked := hasMarker_withPlaceholders (Directives.hasMarker_name comment) free
  have cut := Directive.strip_append unmarked (Directives.detached_keySuffix comment)
  rw [of_beside free, localized, chosen]
  simp only [heeded, missing, cut, Bool.false_eq_true, if_false]

omit free in
/-- What a text becomes when it is looked up as it stands and missed. -/
theorem localized_of_missed {counterpart? : Text → Option Text} (missing : counterpart? text = none) :
    (⟨text, Directives.none, none⟩ : Reading).localized counterpart? =
      (Directive.strip text, .missed) := by
  simp only [localized, chosen, Directives.none, missing, Bool.false_eq_true, if_false]
  rfl

end Reading

/-- A text is left whole by the cut if and only if there is no marker in it. -/
theorem Directive.strip_eq_self_iff {text : Text} : strip text = text ↔ hasMarker text = false :=
  ⟨fun uncut => uncut ▸ hasMarker_strip text, strip_eq_self⟩

namespace Localizer

/-- A text without directives of its own is set, if it becomes another one, and nothing
else is done. -/
theorem localizeText_of_tail?_eq_none (localizer : Localizer) (document : Document)
    (source : Text) {node : NodeId} {text : Text} (spoken : document.forest.text? node = some text)
    (stays : (Reading.of text (document.forest.carrierText? node)).tail? = none) :
    localizer.localizeText document node source =
      let result := (Reading.of text (document.forest.carrierText? node)).localized
        (localizer.counterpart? source)
      .ok (if result.1 = text then document else (document.setText node result.1).1, result.2) := by
  rw [Forest.carrierText?] at stays ⊢
  rw [localizeText, spoken]
  simp only [stays]

/-- **A text that is missed.** Let no marker and no percent sign be in a text, and let the
comment after it have directives that do not exempt the text, with no name twice and no
percent sign in names and values. If the phrase has no counterpart, the text is missed and
becomes what the placeholders and then the values make of it; nothing else changes. If the
pairs are separable in the text, the document stays as it is. -/
theorem localizeText_missed (localizer : Localizer) (document : Document) (source : Text)
    {node sibling : NodeId} {text comment : Text}
    (spoken : document.forest.text? node = some text)
    (next : document.forest.nextSibling? node = some sibling)
    (noted : document.forest.comment? sibling = some comment)
    (free : Directive.hasMarker text = false) (plainText : '%' ∉ text)
    (heeded : (Directives.read comment).ignored = false)
    (distinct : ((Directives.read comment).data.map DataPair.name).Nodup)
    (plain : ∀ pair ∈ (Directives.read comment).data, '%' ∉ pair.name ∧ '%' ∉ pair.value)
    (missing : localizer.counterpart? source
      (Reading.withPlaceholders (Directives.read comment).data text ++
        (Directives.read comment).keySuffix) = none) :
    ∃ after, localizer.localizeText document node source = .ok (after, .missed) ∧
      after.forest = document.forest.write node
        (Reading.withValues (Directives.read comment).data
          (Reading.withPlaceholders (Directives.read comment).data text)) ∧
      (Separable (Directives.read comment).data text → after = document) := by
  have carrier : document.forest.carrierText? node = (some comment).filter Directive.hasMarker := by
    rw [Forest.carrierText?_eq, next, Option.bind_some, noted]
  have stays : (Reading.of text (document.forest.carrierText? node)).tail? = none := by
    rw [carrier, Reading.of_beside free]
  have read : document.forest.reading? node =
      some (Reading.of text (document.forest.carrierText? node)) := by
    rw [Forest.reading?, spoken, Option.map_some]
  have becomes := Reading.localized_missed free heeded missing
  rw [← carrier] at becomes
  obtain ⟨after, done, forest⟩ := localizer.localizeText_of_reading? document node source read
  have same := localizer.localizeText_of_tail?_eq_none document source spoken stays
  rw [becomes] at done same
  refine ⟨after, done, ?_, ?_⟩
  · rw [forest, Forest.localize_of_tail?_eq_none read stays, becomes]
  · intro separable
    have back := Reading.withValues_withPlaceholders plainText distinct plain separable
    rw [done] at same
    simp only [back, if_true, Except.ok.injEq, Prod.mk.injEq, and_true] at same
    exact same

/-- A note of the two ends of a range, and a key. -/
def rangeNote : Text := " I18N_D from=7 I18N_D to=9 I18N_K price".toList

/-- The range is looked up with both placeholders and stays as it is. -/
theorem localizeText_missed_range :
    let range := paragraph "7 - 9".toList [.node () (.comment rangeNote) []]
    Reading.withPlaceholders (Directives.read rangeNote).data "7 - 9".toList =
        "%from% - %to%".toList ∧
      withKey.localizeText range 2 ['e'] = .ok (range, .missed) := by
  intro range
  have spoken : range.forest.text? 2 = some "7 - 9".toList := rfl
  have next : range.forest.nextSibling? 2 = some 3 := rfl
  have noted : range.forest.comment? 3 = some rangeNote := rfl
  obtain ⟨after, done, _, same⟩ := localizeText_missed withKey range ['e'] spoken next noted
    (by decide) (by decide) (by decide) (by decide) (by decide) (by decide)
  rw [same (by decide)] at done
  exact ⟨by decide, done⟩

/-- A value that is the name of the pair before it. -/
def meddling : Text := " I18N_D ab=x I18N_D n=a".toList

/-- Exchanged inside the placeholder of the pair before it, a value leaves percent signs
behind, although the phrase is missed. -/
theorem localizeText_meddling :
    let document := paragraph ['x'] [.node () (.comment meddling) []]
    document.forest.text? 2 = some ['x'] ∧
      document.forest.nextSibling? 2 = some 3 ∧
      document.forest.comment? 3 = some meddling ∧
      Directive.hasMarker ['x'] = false ∧ '%' ∉ ['x'] ∧
      (Directives.read meddling).ignored = false ∧
      ((Directives.read meddling).data.map DataPair.name).Nodup ∧
      (∀ pair ∈ (Directives.read meddling).data, '%' ∉ pair.name ∧ '%' ∉ pair.value) ∧
      withKey.counterpart? ['e'] (Reading.withPlaceholders (Directives.read meddling).data ['x'] ++
        (Directives.read meddling).keySuffix) = none ∧
      (withKey.localizeText document 2 ['e']).toOption.map (fun result =>
        (result.1.forest.text? 2, result.2)) = some (some "%ab%".toList, .missed) := by
  decide

/-- A name that stands in the text between two values makes a placeholder with the percent
signs of theirs. -/
example :
    let pairs : List DataPair := [⟨['b'], ['9']⟩, ⟨['a'], ['1']⟩]
    Reading.withValues pairs (Reading.withPlaceholders pairs "1b1".toList) = "%a9a%".toList := by
  decide

/-! ## Texts without directives -/

/-- **A text without directives that is missed.** Let a text have no directives, and let no
comment with a marker stand after it. If the text is not in the language that it is taken
for, or the language that is wanted has nothing at its place, the text is missed and cut at
its first marker; nothing else changes. The document stays as it is, with everything that
observers have yet to hear of, if and only if there is no marker in the text. -/
theorem localizeText_missed_bare (localizer : Localizer) (document : Document) (source : Text)
    {node : NodeId} {text : Text} (spoken : document.forest.text? node = some text)
    (undirected : (Directives.read text).present = false)
    (alone : carrier? document.forest node = none)
    (missing : ∀ index, localizer.catalog.indexOf? source text = some index →
      localizer.catalog.get? localizer.language index = none) :
    ∃ after, localizer.localizeText document node source = .ok (after, .missed) ∧
      after.forest.text? node = some (Directive.strip text) ∧
      after.forest = document.forest.write node (Directive.strip text) ∧
      (after = document ↔ Directive.hasMarker text = false) := by
  have bare : document.forest.carrierText? node = none := by
    rw [Forest.carrierText?, alone, Option.bind_none]
  have reading : Reading.of text (document.forest.carrierText? node) =
      ⟨text, Directives.none, none⟩ := by
    rw [bare, Reading.of_of_bare undirected]
  have nothing : localizer.counterpart? source text = none :=
    Option.bind_eq_none_iff.mpr missing
  have becomes := Reading.localized_of_missed nothing
  have read : document.forest.reading? node = some ⟨text, Directives.none, none⟩ := by
    rw [Forest.reading?, spoken, Option.map_some, reading]
  obtain ⟨after, done, forest⟩ := localizer.localizeText_of_reading? document node source read
  have same := localizer.localizeText_of_tail?_eq_none document source spoken
    (by rw [reading])
  rw [becomes] at done
  rw [Forest.localize_of_tail?_eq_none read rfl, becomes] at forest
  rw [reading, becomes, done] at same
  have said : after.forest.text? node = some (Directive.strip text) := by
    rw [forest, Forest.text?_write spoken, if_pos rfl]
  refine ⟨after, done, said, forest, ?_⟩
  rw [← Directive.strip_eq_self_iff]
  constructor
  · rintro rfl
    exact Option.some.inj (said.symm.trans spoken)
  · intro uncut
    simp only [uncut, if_true, Except.ok.injEq, Prod.mk.injEq, and_true] at same
    exact same

/-- A localizer into a language that has fewer phrases than the other one. -/
def shorthanded : Localizer :=
  { withKey with catalog := .ofList [(['e'], [['a'], "I18N_K k".toList]), (['f'], [['b']])] }

/-- Words with no blank before them are no marker, and the comment after them has none. There
is nothing at their place in the other language, and the document stays as it is. -/
theorem localizeText_missed_bare_words :
    let document := paragraph "I18N_K k".toList [.node () (.comment "I18N_K k".toList) []]
    shorthanded.catalog.indexOf? ['e'] "I18N_K k".toList = some 1 ∧
      shorthanded.localizeText document 2 ['e'] = .ok (document, .missed) := by
  intro document
  have spoken : document.forest.text? 2 = some "I18N_K k".toList := rfl
  have found : shorthanded.catalog.indexOf? ['e'] "I18N_K k".toList = some 1 := by decide
  obtain ⟨after, done, _, _, same⟩ := localizeText_missed_bare shorthanded document ['e'] spoken
    (by decide) (by decide) fun index stands => by
      cases found.symm.trans stands
      rfl
  rw [same.mpr (by decide)] at done
  exact ⟨found, done⟩

/-- A tag that nothing follows makes no directive, but the text is cut before it. -/
theorem localizeText_truncated :
    let document := paragraph "x I18N_INFO".toList []
    document.forest.text? 2 = some "x I18N_INFO".toList ∧
      (Directives.read "x I18N_INFO".toList).present = false ∧
      carrier? document.forest 2 = none ∧
      withKey.catalog.indexOf? ['e'] "x I18N_INFO".toList = none ∧
      (withKey.localizeText document 2 ['e']).toOption.map (fun result =>
        (result.1.forest.text? 2, result.2)) = some (some ['x'], .missed) := by
  decide

end Localizer

end Polyglot
