import Polyglot.Proofs.Localizer.Passes

/-!
# Changing languages on any path

However often the language of a localizer is changed and to whatever is asked for, in
the end the document is what it would have been if the localizer had been attached to
the original document in the language that it has in the end
(`Localizer.changeLanguages_eq_attach`). In the language that the document was written
in, each text is its readable part.

What carries the proof is that the document always shows the original one in the
language of the localizer (`Localizer.Keeps`). A localizer that was just attached keeps
its document, and it does so after each change of language, since the language that is
taken is always one of the catalog.
-/

set_option autoImplicit false

namespace Polyglot

namespace Localizer

/-- A localizer, its document and its host after several changes of language. -/
def changeLanguages (state : Localizer × Document × Host) (languages : List Text) :
    Localizer × Document × Host :=
  languages.foldl (fun (localizer, document, host) language =>
    let (localizer, document, host, _) := localizer.changeLanguage document host language
    (localizer, document, host)) state

/-- The node whose subtree a localizer is to keep. -/
def targetOf (forest : Forest) (options : LocalizerOptions) : NodeId :=
  options.target?.getD forest.body

/-- The subtree that a localizer is to be attached to can be localized back and
forth. -/
abbrev Suits (forest : Forest) (options : LocalizerOptions) : Prop :=
  Exchangeable forest options.catalog (writtenLanguage forest options.htmlLanguage?)
    (targetOf forest options)

/-- A localizer keeps a document in its language: the document shows the original one
in that language, which is one of the catalog. -/
structure Keeps (original : Forest) (options : LocalizerOptions) (localizer : Localizer)
    (document : Document) : Prop where
  sameCatalog : localizer.catalog = options.catalog
  sameTarget : localizer.watch.target = targetOf original options
  fallback : ∀ language, localizer.fallback? = some language →
    options.catalog.contains language = true
  known : options.catalog.contains localizer.language = true
  shows : Shows original options.catalog (writtenLanguage original options.htmlLanguage?)
    (original.textNodes (targetOf original options)) (fun _ => localizer.language) document.forest

/-! ## Languages -/

/-- The language that is taken is one of the catalog, if the catalog has any. -/
theorem contains_resolve (localizer : Localizer) {present : Text}
    (inhabited : localizer.catalog.contains present = true)
    (fallback : ∀ language, localizer.fallback? = some language →
      localizer.catalog.contains language = true) (language : Text) :
    localizer.catalog.contains (localizer.resolve language) = true := by
  rw [resolve]
  split
  · next known => exact known
  · cases given : localizer.fallback? with
    | some other =>
      rw [Option.some_or, Option.getD_some]
      exact fallback other given
    | none =>
      have listed := (localizer.catalog.consistent.contains_iff present).mp inhabited
      rw [Option.none_or, localizer.catalog.consistent.contains_iff, Catalog.Table.first?]
      cases languages : localizer.catalog.languages with
      | nil =>
        rw [languages] at listed
        cases listed
      | cons first rest => exact List.mem_cons_self

theorem Suits.validate {forest : Forest} {options : LocalizerOptions}
    (suits : Suits forest options) : options.catalog.validate = .ok () := by
  have listed := (options.catalog.consistent.contains_iff _).mp suits.known
  rw [Catalog.Table.validate, Catalog.Table.isEmpty]
  cases languages : options.catalog.languages with
  | nil =>
    rw [languages] at listed
    cases listed
  | cons first rest => rfl

/-! ## Keeping a document -/

section Keeping

variable (localizer : Localizer) (document : Document)

/-- A pass counts itself and leaves the rest of the localizer alone. -/
theorem localizeTreeUnheard_fst (root : NodeId) (source : Text) :
    (localizer.localizeTreeUnheard document root source).1 =
      { localizer with
        passes := localizer.passes + 1
        lastPass := (localizer.localizeTreeUnheard document root source).2.2 } := rfl

/-- After a pass a localizer keeps its document if the forest that the pass leaves shows
the original one. -/
theorem keeps_localizeTreeUnheard {original : Forest} {options : LocalizerOptions}
    (sameCatalog : localizer.catalog = options.catalog)
    (sameTarget : localizer.watch.target = targetOf original options)
    (fallback : ∀ language, localizer.fallback? = some language →
      options.catalog.contains language = true)
    (known : options.catalog.contains localizer.language = true) (source : Text)
    (shows : Shows original options.catalog (writtenLanguage original options.htmlLanguage?)
      (original.textNodes (targetOf original options)) (fun _ => localizer.language)
      ((document.forest.textNodes (targetOf original options)).foldl
        (Forest.localize (options.catalog.counterpart? source localizer.language))
        document.forest)) :
    Keeps original options
      (localizer.localizeTreeUnheard document localizer.watch.target source).1
      (localizer.localizeTreeUnheard document localizer.watch.target source).2.1 := by
  have pass := localizer.forest_localizeTreeUnheard document source localizer.watch.target
  have counterparts : localizer.counterpart? source
      = options.catalog.counterpart? source localizer.language := by
    rw [← sameCatalog]
    rfl
  rw [counterparts, sameTarget] at pass
  rw [sameTarget, localizeTreeUnheard_fst]
  exact ⟨sameCatalog, sameTarget, fallback, known, pass ▸ shows⟩

/-- Watching the document from then on does not matter. -/
theorem Keeps.start {original : Forest} {options : LocalizerOptions} {localizer : Localizer}
    {document : Document} (keeps : Keeps original options localizer document) (watch : Watch) :
    Keeps original options localizer (watch.start document) :=
  ⟨keeps.sameCatalog, keeps.sameTarget, keeps.fallback, keeps.known, keeps.shows⟩

end Keeping

/-! ## Attaching -/

section Attach

variable {document : Document} {options : LocalizerOptions}

/-- A language that is asked for is taken if the catalog has it. -/
theorem resolve_requestedLanguage {localizer : Localizer} {language : Text}
    (known : localizer.catalog.contains language = true) (named : language ≠ [])
    (asked : options.language? = some language) (forest : Forest) (host : Host) :
    localizer.resolve (requestedLanguage forest host options) = language := by
  have proper : (!language.isEmpty) = true := by
    cases language with
    | nil => exact absurd rfl named
    | cons c rest => rfl
  rw [requestedLanguage, asked, Option.filter_some, if_pos proper, Option.some_or,
    Option.getD_some, resolve, if_pos known]

/-- **Attaching succeeds**, in the language that is asked for if the catalog has it, and
the localizer keeps the document from then on. -/
theorem attach_keeps (suits : Suits document.forest options) (host : Host) :
    ∃ localizer after, attach document host options = .ok (localizer, after) ∧
      Keeps document.forest options localizer after ∧
      ∀ language, options.language? = some language → language ≠ [] →
        options.catalog.contains language = true → localizer.language = language := by
  have created : ∃ localizer unheard, create document host options = (localizer, unheard) ∧
      unheard.forest = document.forest ∧
      localizer.htmlLanguage = writtenLanguage document.forest options.htmlLanguage? ∧
      localizer.catalog = options.catalog ∧
      localizer.watch.target = targetOf document.forest options ∧
      localizer.fallback? = options.fallback?.filter options.catalog.contains ∧
      localizer.language
        = localizer.resolve (requestedLanguage document.forest host options) :=
    ⟨_, _, rfl, rfl, rfl, rfl, rfl, rfl, rfl⟩
  obtain ⟨localizer, unheard, made, forest, written, catalog, target, fallback?, chosen⟩ := created
  have fallback : ∀ language, localizer.fallback? = some language →
      options.catalog.contains language = true := by
    intro language given
    rw [fallback?] at given
    exact (Option.filter_eq_some_iff.mp given).2
  have known : options.catalog.contains localizer.language = true := by
    have any := localizer.contains_resolve (catalog.symm ▸ suits.known) (catalog.symm ▸ fallback)
      (requestedLanguage document.forest host options)
    rw [chosen, ← catalog]
    exact any
  have first := suits.shows_first localizer.language
  have keeps := localizer.keeps_localizeTreeUnheard unheard catalog target fallback known
    localizer.htmlLanguage (by rw [forest, written]; exact first)
  refine ⟨_, _, ?_, keeps.start localizer.watch, ?_⟩
  · rw [attach, suits.validate, made]
    rfl
  · intro language asked named known
    rw [localizeTreeUnheard_fst]
    exact chosen.trans (resolve_requestedLanguage (catalog.symm ▸ known) named asked _ _)

end Attach

/-! ## Changing the language -/

section Change

variable {original : Forest} {options : LocalizerOptions} (suits : Suits original options)
include suits

theorem Keeps.changeLanguage {localizer : Localizer} {document : Document}
    (keeps : Keeps original options localizer document) (host : Host) (language : Text) :
    Keeps original options (localizer.changeLanguage document host language).1
      (localizer.changeLanguage document host language).2.1 := by
  rw [Localizer.changeLanguage]
  split
  · exact keeps
  · have known : options.catalog.contains (localizer.resolve language) = true := by
      have any := localizer.contains_resolve (keeps.sameCatalog.symm ▸ suits.known)
        (keeps.sameCatalog.symm ▸ keeps.fallback) language
      exact keeps.sameCatalog ▸ any
    have again := suits.shows_again keeps.known known keeps.shows
    exact (localizer.setLanguage language).keeps_localizeTreeUnheard document keeps.sameCatalog
      keeps.sameTarget keeps.fallback known localizer.language again

/-- A localizer that keeps its document does so after any changes of language. -/
theorem Keeps.changeLanguages (languages : List Text) :
    ∀ {localizer : Localizer} {document : Document} (host : Host),
      Keeps original options localizer document →
      ∃ last changed later,
        Localizer.changeLanguages (localizer, document, host) languages = (last, changed, later) ∧
          Keeps original options last changed := by
  induction languages with
  | nil => exact fun host keeps => ⟨_, _, host, rfl, keeps⟩
  | cons language rest ih =>
    intro localizer document host keeps
    exact ih (localizer.changeLanguage document host language).2.2.1
      (keeps.changeLanguage suits host language)

end Change

/-! ## Independence of the path -/

/-- Options for the same subtree of a document, written in the same language, and the
same catalog. -/
structure SameSubject (options other : LocalizerOptions) : Prop where
  target : other.target? = options.target?
  htmlLanguage : other.htmlLanguage? = options.htmlLanguage?
  catalog : other.catalog = options.catalog

theorem SameSubject.suits {forest : Forest} {options other : LocalizerOptions}
    (same : SameSubject options other) (suits : Suits forest options) : Suits forest other := by
  rw [Suits, targetOf, same.target, same.htmlLanguage, same.catalog]
  exact suits

/-- In one language there is only one document that a localizer can keep. -/
theorem Keeps.forest_eq {original : Forest} {options other : LocalizerOptions}
    {one another : Localizer} {document otherDocument : Document}
    (same : SameSubject options other) (first : Keeps original options one document)
    (second : Keeps original other another otherDocument)
    (language : another.language = one.language) : document.forest = otherDocument.forest := by
  have shows := second.shows
  rw [targetOf, same.target, same.htmlLanguage, same.catalog, language] at shows
  exact first.shows.eq shows

/-- In the language that it was written in, a document that is kept has each text as its
readable part. -/
theorem Keeps.text?_of_written {original : Forest} {options : LocalizerOptions}
    {localizer : Localizer} {document : Document} (suits : Suits original options)
    (keeps : Keeps original options localizer document)
    (language : localizer.language = writtenLanguage original options.htmlLanguage?)
    {node : NodeId} (listed : node ∈ original.textNodes (targetOf original options)) :
    document.forest.text? node = (original.text? node).map Reading.baseOf := by
  obtain ⟨⟨text, spoken⟩, _⟩ := Forest.text_of_mem_textNodes listed
  have written := (suits.reversible node listed text spoken).rendered_written suits.distinct
  rw [keeps.shows.text?, if_pos listed, language, Forest.rendered?, Forest.reading?, spoken,
    Option.map_some, Option.map_some, written, Option.map_some]

/-- **Changes of language do not depend on the path.** A localizer can be attached, and
however often its language is changed after that and to whatever, the document is the
one that attaching a localizer to the original document in the last language leads to;
the same text nodes are below the node as at first; and if the last language is the one
that the document was written in, each of them is its readable part. -/
theorem changeLanguages_eq_attach (document : Document) (host : Host)
    (options : LocalizerOptions) (suits : Suits document.forest options) :
    ∃ localizer attached, attach document host options = .ok (localizer, attached) ∧
      ∀ languages, ∃ last changed later,
        changeLanguages (localizer, attached, host) languages = (last, changed, later) ∧
        (∀ elsewhere other direct after, SameSubject options other →
          attach document elsewhere other = .ok (direct, after) →
          direct.language = last.language → changed.forest = after.forest) ∧
        (last.language ≠ [] → ∃ direct after,
          attach document host { options with language? := some last.language }
            = .ok (direct, after) ∧
          direct.language = last.language ∧ changed.forest = after.forest) ∧
        changed.forest.textNodes (targetOf document.forest options)
          = document.forest.textNodes (targetOf document.forest options) ∧
        (last.language = writtenLanguage document.forest options.htmlLanguage? →
          ∀ node ∈ document.forest.textNodes (targetOf document.forest options),
            changed.forest.text? node = (document.forest.text? node).map Reading.baseOf) := by
  obtain ⟨localizer, attached, done, keeps, _⟩ := attach_keeps suits host
  refine ⟨localizer, attached, done, fun languages => ?_⟩
  obtain ⟨last, changed, later, run, kept⟩ := Keeps.changeLanguages suits languages host keeps
  refine ⟨last, changed, later, run, ?_, ?_, suits.textNodes_of_shows kept.shows, ?_⟩
  · intro elsewhere other direct after same directly language
    obtain ⟨_, _, again, keeps, _⟩ := attach_keeps (same.suits suits) elsewhere
    cases directly.symm.trans again
    exact kept.forest_eq same keeps language
  · intro named
    have same : SameSubject options { options with language? := some last.language } :=
      ⟨rfl, rfl, rfl⟩
    obtain ⟨direct, after, directly, keeps, asked⟩ := attach_keeps (same.suits suits) host
    have language := asked last.language rfl named kept.known
    exact ⟨direct, after, directly, language, kept.forest_eq same keeps language⟩
  · intro language node listed
    exact kept.text?_of_written suits language listed

/-- A document of one text with a directive in it, and a comment with another one after
it, which is not heeded. -/
def letter : Forest :=
  ⟨#[⟨.document, none, [1, 2]⟩, ⟨.text "a I18N_K x".toList, some 0, []⟩,
    ⟨.comment " I18N_I".toList, some 0, []⟩]⟩

/-- Options for that document in two languages, to begin with the one that it was not
written in. -/
def letters : LocalizerOptions :=
  ⟨some 0, some ['e'], .ofList [(['e'], ["a I18N_K x".toList]), (['f'], ["b I18N_K x".toList])],
    some ['f'], none, ⟨[], [], [], [], [], []⟩⟩

theorem phrases?_letters {language : Text} {phrases : List Text}
    (listed : letters.catalog.phrases? language = some phrases) :
    language = ['e'] ∧ phrases = ["a I18N_K x".toList] ∨
      language = ['f'] ∧ phrases = ["b I18N_K x".toList] := by
  have entry : (language, phrases) ∈ letters.catalog.entries :=
    letters.catalog.consistent.mem_entries_iff.mpr listed
  rcases List.mem_cons.mp entry with same | entry
  · obtain ⟨rfl, rfl⟩ := Prod.mk.inj same
    exact .inl ⟨rfl, rfl⟩
  · obtain ⟨rfl, rfl⟩ := Prod.mk.inj (List.mem_singleton.mp entry)
    exact .inr ⟨rfl, rfl⟩

theorem suits_letter : Suits letter letters where
  orderly := by decide
  distinct language phrases listed := by
    rcases phrases?_letters listed with ⟨_, rfl⟩ | ⟨_, rfl⟩ <;> exact List.nodup_singleton _
  known := by decide
  reversible node listed text spoken := by
    have only : node = 1 := by
      have all : letter.textNodes (targetOf letter letters) = [1] := by decide
      rw [all] at listed
      exact List.mem_singleton.mp listed
    subst only
    cases spoken
    refine ⟨by decide, by decide, fun _ => .inr ⟨0, by decide, fun language known => ?_⟩⟩
    obtain ⟨phrases, listed⟩ := Catalog.Table.contains_iff_exists.mp known
    rw [Catalog.Table.get?, listed]
    rcases phrases?_letters listed with ⟨_, rfl⟩ | ⟨_, rfl⟩
    · exact ⟨['a'], by decide, by decide⟩
    · exact ⟨['b'], by decide, by decide⟩

/-- The letter is put into one language, where its directive takes the place of the
comment, and back into the other. -/
theorem changeLanguages_letter :
    Suits letter letters ∧
      ∃ localizer attached,
        attach (.ofForest letter) (.new 0) letters = .ok (localizer, attached) ∧
        attached.forest.text? 1 = some ['b'] ∧ attached.forest.children 0 = [1, 3] ∧
        attached.forest.comment? 3 = some " I18N_K x".toList ∧
        ∃ last changed later,
          changeLanguages (localizer, attached, .new 0) [['e']] = (last, changed, later) ∧
          last.language = ['e'] ∧ changed.forest.text? 1 = some ['a'] := by
  obtain ⟨localizer, attached, done, paths⟩ :=
    changeLanguages_eq_attach (.ofForest letter) (.new 0) letters suits_letter
  obtain ⟨last, changed, later, run, _, _, _, back⟩ := paths [['e']]
  have begins : ((attach (.ofForest letter) (.new 0) letters).toOption.map fun made =>
      (made.2.forest.text? 1, made.2.forest.children 0, made.2.forest.comment? 3,
        (changeLanguages (made.1, made.2, .new 0) [['e']]).1.language))
        = some (some ['b'], [1, 3], some " I18N_K x".toList, ['e']) := by decide
  rw [done, Except.toOption, Option.map_some, Option.some.injEq, Prod.mk.injEq, Prod.mk.injEq,
    Prod.mk.injEq, run] at begins
  obtain ⟨text, children, comment, language⟩ := begins
  refine ⟨suits_letter, localizer, attached, done, text, children, comment, last, changed, later,
    run, language, ?_⟩
  exact back (language.trans (by decide)) 1 (by decide)

end Localizer

end Polyglot
