import Polyglot.Proofs.Detection.Kept
import Polyglot.Proofs.Localizer.Grounded
import Polyglot.Proofs.Localizer.Materialized

/-!
# The language that is taken

Whatever languages a localizer is attached with and asked for, it is in one that its
catalog lists, and that is the only kind it ever takes (`Localizer.steady_fulfilAll`). A
change of language does something just when the language that is taken is another one
than that in use; to ask for the language in use by its own name is a case of this, since
that name resolves to itself (`Localizer.Steady.own`).

A language that is kept goes to every cache of the options and nowhere else
(`Host.Stores`), and it is the one that is taken, whatever was asked for.
-/

set_option autoImplicit false

namespace Polyglot

/-! ## Keeping a language -/

namespace Host

/-- A language was written to every cache of the options, and nothing was written
elsewhere. -/
structure Stores (before after : Host) (language : Text) (options : DetectionOptions) : Prop where
  kept : after = before.keep language options
  /-- Every cache gives the language, a cookie on its terms. -/
  cached : ∀ cache ∈ options.caches, ∀ (declared? : Option Text) (later : ClockTime),
    (cache = .cookie →
      before.cookies.Sound ∧ before.CookieTerms language options.cookie later) →
    (after.atTime later).languageIn? declared? options cache.source = some language
  /-- The line of the language was written to the cookies, as often as they are listed. -/
  cookies : ∀ line, Cookie.compose? options.cookie language cookieDays before.now = some line →
    after.cookies = (fun jar : CookieJar => jar.write line before.now)^[options.caches.count .cookie]
      before.cookies
  /-- A source that is no cache says what it said before. -/
  uncached : ∀ source, (∀ cache ∈ options.caches, cache.source ≠ source) →
    ∀ (declared? : Option Text) (later : ClockTime),
      (after.atTime later).languageIn? declared? options source =
        (before.atTime later).languageIn? declared? options source

variable {language : Text} {options : DetectionOptions} {cache : LanguageCache}

/-- What is kept in a cache other than the cookie is found there. -/
theorem languageIn?_keepIn_of_ne_cookie (host : Host) (stored : cache ≠ .cookie)
    (declared? : Option Text) (later : ClockTime) :
    ((host.keepIn language options cache).atTime later).languageIn? declared? options cache.source =
      some language := by
  cases cache with
  | queryParameter => exact host.location.parameter?_setParameter options.queryParameter language
  | cookie => exact absurd rfl stored
  | localStorage => exact Storage.get?_insert host.localStorage options.localStorage language
  | sessionStorage => exact Storage.get?_insert host.sessionStorage options.sessionStorage language

/-- The last time that a cache is written to counts. -/
theorem languageIn?_foldl_of_ne_cookie (stored : cache ≠ .cookie) (declared? : Option Text)
    (later : ClockTime) {caches : List LanguageCache} :
    ∀ host : Host, cache ∈ caches →
      ((caches.foldl (fun host cache => host.keepIn language options cache) host).atTime
        later).languageIn? declared? options cache.source = some language := by
  induction caches with
  | nil => exact fun _ listed => absurd listed List.not_mem_nil
  | cons first rest ih =>
    intro host listed
    rw [List.foldl_cons]
    by_cases again : cache ∈ rest
    · exact ih _ again
    · obtain rfl : cache = first := (List.mem_cons.mp listed).resolve_right again
      have others : ∀ other ∈ rest, other.source ≠ cache.source := by
        intro other listed same
        exact again (LanguageCache.source_injective same ▸ listed)
      rw [languageIn?_foldl_of_ne declared? others]
      exact host.languageIn?_keepIn_of_ne_cookie stored declared? later

theorem cookies_foldl_keepIn {line : Text} {now : ClockTime}
    (composed : Cookie.compose? options.cookie language cookieDays now = some line)
    (caches : List LanguageCache) :
    ∀ host : Host, host.now = now →
      (caches.foldl (fun host cache => host.keepIn language options cache) host).cookies =
        (fun jar : CookieJar => jar.write line now)^[caches.count .cookie] host.cookies := by
  induction caches with
  | nil => exact fun _ _ => rfl
  | cons first rest ih =>
    intro host clock
    rw [List.foldl_cons, ih _ (keepIn_now.trans clock)]
    cases first with
    | cookie =>
      have written : (host.keepIn language options .cookie).cookies =
          host.cookies.write line now := by
        rw [← clock] at composed ⊢
        simp only [keepIn, setCookie?, composed, Option.map_some, Option.getD_some, writeCookie]
      rw [List.count_cons_self, Function.iterate_succ_apply, written]
    | _ => rfl

/-- **Keeping a language writes it to every cache and nowhere else.** -/
theorem stores_keep (host : Host) (language : Text) (options : DetectionOptions) :
    host.Stores (host.keep language options) language options where
  kept := rfl
  cached cache listed declared? later terms := by
    by_cases cookie : cache = .cookie
    · obtain ⟨sound, possible⟩ := terms cookie
      exact languageIn?_keep declared? sound (fun _ => possible) listed
    · exact languageIn?_foldl_of_ne_cookie cookie declared? later host listed
  cookies _ composed := cookies_foldl_keepIn composed options.caches host rfl
  uncached _ other declared? later := languageIn?_keep_of_ne declared? other

end Host

/-! ## Asking for a language -/

namespace Localizer

variable {localizer : Localizer}

/-- What a localizer made from some options does when it is asked for languages. -/
structure Steady (localizer : Localizer) (options : LocalizerOptions) : Prop where
  /-- The language in use is one of the catalog. -/
  language : localizer.language ∈ options.catalog.languages
  /-- The language that is taken is one of the catalog. -/
  resolve : ∀ language, localizer.resolve language ∈ options.catalog.languages
  /-- The language in use is taken when it is asked for. -/
  own : localizer.resolve localizer.language = localizer.language
  /-- A change of language leaves everything alone just when the language in use is the
  one that is taken. -/
  stays : ∀ document host language,
    localizer.fulfil document host (.changeLanguage language) = (localizer, document, host) ↔
      localizer.resolve language = localizer.language
  /-- Otherwise the language is taken and kept, and a pass is made and counted. -/
  changes : ∀ document host language, localizer.resolve language ≠ localizer.language →
    ∃ after kept stats, localizer.changeLanguage document host language =
      ({ localizer with
          language := localizer.resolve language
          passes := localizer.passes + 1
          lastPass := stats }, after, kept, stats) ∧
      host.Stores kept (localizer.resolve language) options.detection
  /-- Setting the language to be kept takes it and keeps what was taken. -/
  keeps : ∀ document host language, ∃ kept,
    localizer.fulfil document host (.keepLanguage language) =
      ({ localizer with language := localizer.resolve language }, document, kept) ∧
    host.Stores kept (localizer.resolve language) options.detection

/-- A localizer that comes of some options: it has their catalog, keeps languages where
they say, and is in a language of the catalog. -/
structure Made (options : LocalizerOptions) (localizer : Localizer) : Prop where
  grounded : localizer.Grounded
  catalog : localizer.catalog = options.catalog
  detection : localizer.detection = options.detection

variable {options : LocalizerOptions}

/-- A localizer that is in a language of its catalog takes no other. -/
theorem Made.steady (made : Made options localizer) : localizer.Steady options where
  language := by
    rw [← made.catalog, ← localizer.catalog.consistent.contains_iff]
    exact made.grounded.language
  resolve language := by
    rw [← made.catalog, ← localizer.catalog.consistent.contains_iff]
    exact localizer.contains_resolve made.grounded.language made.grounded.fallback language
  own := resolve_of_contains made.grounded.language
  stays document host language := by
    rw [fulfil, changeLanguage]
    simp only [stays_iff_of_contains made.grounded.language]
    split
    · next same => exact ⟨fun _ => same, fun _ => rfl⟩
    · next other =>
      refine ⟨fun unchanged => ?_, fun same => absurd same other⟩
      exact congrArg (fun state => state.1.language) unchanged
  changes document host language other := by
    rw [changeLanguage]
    simp only [stays_iff_of_contains made.grounded.language]
    rw [if_neg other, ← made.detection]
    exact ⟨_, _, _, rfl, host.stores_keep _ _⟩
  keeps document host language := by
    rw [← made.detection]
    exact ⟨_, rfl, host.stores_keep _ _⟩

/-- What is attached with some options comes of them. -/
theorem exists_made (valid : options.catalog.validate = .ok ()) (document : Document)
    (host : Host) :
    ∃ localizer after, attach document host options = .ok (localizer, after) ∧
      Made options localizer := by
  obtain ⟨localizer, after, attached, catalog, detection⟩ :
      ∃ localizer after, attach document host options = .ok (localizer, after) ∧
        localizer.catalog = options.catalog ∧ localizer.detection = options.detection := by
    rw [attach, valid]
    exact ⟨_, _, rfl, rfl, rfl⟩
  exact ⟨localizer, after, attached, grounded_attach attached, catalog, detection⟩

/-- No request changes the catalog of a localizer, or where it keeps languages. -/
theorem Made.fulfil (made : Made options localizer) (document : Document) (host : Host)
    (request : Request) : Made options (localizer.fulfil document host request).1 := by
  have same : (localizer.fulfil document host request).1.catalog = localizer.catalog ∧
      (localizer.fulfil document host request).1.detection = localizer.detection := by
    cases request with
    | changeLanguage language =>
      rw [Localizer.fulfil, changeLanguage]
      dsimp only
      split <;> exact ⟨rfl, rfl⟩
    | _ => exact ⟨rfl, rfl⟩
  exact ⟨made.grounded.fulfil document host request, same.1.trans made.catalog,
    same.2.trans made.detection⟩

theorem Made.fulfilAll (requests : List Request) :
    ∀ {localizer : Localizer}, Made options localizer → ∀ (document : Document) (host : Host),
      Made options (localizer.fulfilAll document host requests).1 := by
  induction requests with
  | nil => exact fun made _ _ => made
  | cons request rest ih =>
    intro localizer made document host
    exact ih (made.fulfil document host request) _ _

/-- **A localizer is always in a language of its catalog**: with any catalog that can be
used, and whatever language is asked for, detected or to fall back on, it is attached;
and after any requests, for any languages, it is in a language that the catalog lists, a
change of language does something just when another language is taken, and the language
that is taken is the one that is kept. -/
theorem steady_fulfilAll (valid : options.catalog.validate = .ok ()) (document : Document)
    (host : Host) (requests : List Request) :
    ∃ localizer after, attach document host options = .ok (localizer, after) ∧
      (localizer.fulfilAll after host requests).1.Steady options := by
  obtain ⟨localizer, after, attached, made⟩ := exists_made valid document host
  exact ⟨localizer, after, attached, (made.fulfilAll requests after host).steady⟩

/-- Options for a language that the catalog lacks, to fall back on another one that it
lacks, and to keep languages everywhere. -/
def stray : LocalizerOptions :=
  ⟨some 0, some ['e'], .ofList [(['e'], [['a']]), (['f'], [['b']])], some ['q'], some ['x'],
    Host.everywhere⟩

/-- A document of one text that is in the catalog. -/
def single : Document :=
  .ofForest ⟨#[⟨.document, none, [1]⟩, ⟨.text ['a'], some 0, []⟩]⟩

/-- Requests for a language that the catalog has, and for two that it lacks. -/
def astray : List Request :=
  [.changeLanguage ['f'], .setLanguage ['z'], .keepLanguage ['y']]

theorem steady_fulfilAll_stray :
    stray.catalog.validate = .ok () ∧
      ∃ localizer after, attach single Host.visitor stray = .ok (localizer, after) ∧
        (localizer.fulfilAll after Host.visitor astray).1.Steady stray :=
  ⟨rfl, steady_fulfilAll rfl single Host.visitor astray⟩

/-- It is the first language of the catalog that is taken and kept in the end. -/
example :
    (attach single Host.visitor stray).toOption.map (fun (localizer, after) =>
      let last := localizer.fulfilAll after Host.visitor astray
      (localizer.language, last.1.language, last.2.2.localStorage.get? stray.detection.localStorage,
        last.2.2.cookie? stray.detection.cookie)) =
      some (['e'], ['e'], some ['e'], some ['e']) := by
  decide +kernel

end Localizer

end Polyglot
