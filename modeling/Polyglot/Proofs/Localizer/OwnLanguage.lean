import Polyglot.Proofs.Localizer.Exchange
import Polyglot.Proofs.Localizer.Orders

/-!
# Passes into the language that the texts are in

When a localizer makes a pass from the language that it keeps, its catalog has no say in
what the texts become. A phrase that is found has itself for a counterpart: what stands at
the first place of a phrase is the phrase, however often it occurs
(`Catalog.counterpart?_self`). A phrase that is not found stays as it is. Either way the text
is left with its own words, which are its phrase up to the first marker, with values in the
places of their placeholders (`Reading.localized_own`).

What a visit does to a document depends on the words that the text is to have, and not on
whether they were found (`Localizer.visited_congr`). So two localizers with different catalogs
go through the same documents, text by text, though one may find what the other one misses
(`Localizer.localizeTreeUnheard_own`).
-/

set_option autoImplicit false

namespace Polyglot

/-- A phrase has no counterpart in its own language but itself. -/
theorem Catalog.counterpart?_self (catalog : Catalog) (language phrase : Text) :
    ∀ counterpart ∈ catalog.counterpart? language language phrase, counterpart = phrase := by
  intro counterpart found
  obtain ⟨index, place, there⟩ := Option.bind_eq_some_iff.mp found
  exact Option.some.inj (there.symm.trans (catalog.consistent.get?_of_indexOf? place))

namespace Reading

/-- What a text is in the language that it is in: its phrase up to the first marker, with
values in the places of their placeholders. -/
def ownWords (reading : Reading) : Text :=
  withValues reading.directives.data (Directive.strip reading.phrase)

/-- Where phrases have no counterparts but themselves, it does not matter which have one. -/
theorem localized_own {counterpart? : Text → Option Text}
    (own : ∀ phrase, ∀ counterpart ∈ counterpart? phrase, counterpart = phrase)
    (reading : Reading) : (reading.localized counterpart?).1 = reading.ownWords := by
  have kept : (reading.chosen counterpart?).1 = Directive.strip reading.phrase := by
    rw [chosen]
    split
    · rfl
    · cases found : counterpart? reading.phrase with
      | none => rfl
      | some counterpart => rw [own reading.phrase counterpart found]
  exact congrArg (withValues reading.directives.data) kept

end Reading

namespace Localizer

section Alike

variable {one other : Localizer} {source : Text}
  (same : ∀ reading : Reading, (reading.localized (other.counterpart? source)).1 =
    (reading.localized (one.counterpart? source)).1)
include same

/-- A visit does to the document what the words say that the text is to have. -/
theorem visited_congr (document : Document) (node : NodeId) :
    other.visited source document node = one.visited source document node := by
  rw [visited, visited, visit, visit, localizeText, localizeText]
  cases document.forest.text? node with
  | none => rfl
  | some text =>
    simp only [same]
    cases (Reading.of text ((carrier? document.forest node).bind
      document.forest.comment?)).tail? <;> rfl

/-- So does a pass, if the same observers are kept from hearing of it. -/
theorem localizeTreeUnheard_congr (watch : other.watch = one.watch) (document : Document)
    (root : NodeId) :
    (other.localizeTreeUnheard document root source).2.1 =
      (one.localizeTreeUnheard document root source).2.1 := by
  have visits : other.visited source = one.visited source :=
    funext₂ (visited_congr same)
  rw [localizeTreeUnheard_eq, localizeTreeUnheard_eq, watch, visits]

end Alike

/-- After a pass every text that was below the node has the words that it was to get. -/
theorem text?_localizeTreeUnheard (localizer : Localizer) {document : Document} {root node : NodeId}
    (source : Text) (wellFormed : document.forest.WellFormed)
    (acyclic : document.forest.Acyclic) (listed : node ∈ document.forest.textNodes root) :
    ∃ reading, document.forest.reading? node = some reading ∧
      (localizer.localizeTreeUnheard document root source).2.1.forest.text? node =
        some (reading.localized (localizer.counterpart? source)).1 := by
  obtain ⟨⟨text, spoken⟩, _⟩ := Forest.text_of_mem_textNodes listed
  obtain ⟨reading, read⟩ := Forest.exists_reading spoken
  obtain ⟨toured, _⟩ := localizer.toured_of_perm source wellFormed acyclic (List.Perm.refl _)
  rw [forest_foldl_visited, ← forest_localizeTreeUnheard] at toured
  refine ⟨reading, read, ?_⟩
  rw [Forest.text?, toured.content? node (document.forest.lt_size_of_text? node spoken),
    if_pos listed, Forest.becomes?, read]
  rfl

/-- **A pass into the language that the texts are in does not depend on the catalog.** In a
forest whose parents and children agree and that has no cycles, let a pass begin below any
node, from the language that the localizer keeps. Two localizers with the same observers and
this language leave the same document, whatever is in their catalogs, and every text below the
node is left with its own words. -/
theorem localizeTreeUnheard_own (one other : Localizer) (watch : other.watch = one.watch)
    (language : other.language = one.language) {document : Document}
    (wellFormed : document.forest.WellFormed) (acyclic : document.forest.Acyclic) (root : NodeId) :
    (other.localizeTreeUnheard document root one.language).2.1 =
        (one.localizeTreeUnheard document root one.language).2.1 ∧
      ∀ node ∈ document.forest.textNodes root, ∃ reading,
        document.forest.reading? node = some reading ∧
          (one.localizeTreeUnheard document root one.language).2.1.forest.text? node =
            some reading.ownWords := by
  have own : ∀ (localizer : Localizer) (reading : Reading), localizer.language = one.language →
      (reading.localized (localizer.counterpart? one.language)).1 = reading.ownWords := by
    intro localizer reading same
    apply Reading.localized_own
    rw [← same]
    exact localizer.catalog.counterpart?_self localizer.language
  refine ⟨localizeTreeUnheard_congr (fun reading => ?_) watch document root, ?_⟩
  · rw [own other reading language, own one reading rfl]
  · intro node listed
    obtain ⟨reading, read, words⟩ :=
      one.text?_localizeTreeUnheard one.language wellFormed acyclic listed
    exact ⟨reading, read, words.trans (congrArg some (own one reading rfl))⟩

/-- A text with a value, a text before a comment with one, and a text that is exempt. -/
def valued : Document :=
  .ofForest (Forest.ofTrees [.node () (.text "a %n% I18N_K k I18N_D n=x".toList) [],
    .node () (.text "b y".toList) [], .node () (.comment " I18N_D n=y".toList) [],
    .node () (.text "c I18N_I".toList) []]).1

/-- A localizer that finds the first two of the texts, one of them in two places. -/
def fluent : Localizer :=
  { withKey with
    catalog := .ofList [(['e'], ["b %n%".toList, "a %n% I18N_K k".toList, "b %n%".toList])]
    language := ['e'] }

/-- A localizer that finds none of them. -/
def unlettered : Localizer :=
  { fluent with catalog := .ofList [(['e'], [])] }

/-- One localizer finds two texts, the other one none, and they leave the same document. -/
theorem localizeTreeUnheard_own_valued :
    let found := fluent.localizeTreeUnheard valued 0 ['e']
    let lost := unlettered.localizeTreeUnheard valued 0 ['e']
    found.2.2 = ⟨3, 2, 0, 1, 0⟩ ∧ lost.2.2 = ⟨3, 0, 2, 1, 0⟩ ∧ lost.2.1 = found.2.1 ∧
      valued.forest.textNodes 0 = [1, 2, 4] ∧
      [1, 2, 4].map found.2.1.forest.text? =
        [some "a x".toList, some "b y".toList, some ['c']] ∧
      ∀ node ∈ valued.forest.textNodes 0, ∃ reading, valued.forest.reading? node = some reading ∧
        found.2.1.forest.text? node = some reading.ownWords := by
  intro found lost
  have grown : valued.forest.Grown := (Forest.grown_ofTrees _).1
  obtain ⟨same, words⟩ := localizeTreeUnheard_own fluent unlettered rfl rfl
    grown.wellFormed grown.acyclic 0
  exact ⟨by decide, by decide, same, by decide, by decide, words⟩

end Localizer

end Polyglot
