import Polyglot.Detection.Detect
import Polyglot.Host.Access
import Polyglot.Proofs.Host.Cookies
import Polyglot.Proofs.Host.Parameters

/-!
# Finding a language that was kept

A language that was kept is detected again (`Host.detect?_keep`). Each cache is read by a source
of its own, and keeping a language in it gives the language to that source
(`Host.languageIn?_keepIn`) and leaves to the other sources what they had
(`Host.languageIn?_keepIn_of_ne`). So after all caches were written, each of them has the
language, in whichever order they were written and though some were written twice
(`Host.languageIn?_keep`), and the sources that are no caches say what they said before.

The query and the two storages take every language and give it back. The cookie does so on
terms (`Host.CookieTerms`): the line that sets it and the line in which it is found are texts
in which some signs have a meaning, and after a number of days it ends. The end is written in
whole seconds, so the days count from the beginning of the second in which the language was
kept, and at the end of the last day the language may be gone a fraction of a second early
(`Host.detect?_keep_fraction`).
-/

set_option autoImplicit false

namespace Polyglot

theorem LanguageCache.source_injective {cache other : LanguageCache}
    (same : cache.source = other.source) : cache = other := by
  cases cache <;> cases other <;> first | rfl | cases same

/-- An item that was set is found. -/
theorem Storage.get?_insert (storage : Storage) (key value : Text) :
    (storage.insert key value).get? key = some value := by
  have erased : (storage.erase key).items.lookup key = none := by
    rw [List.lookup_eq_none_iff]
    intro item listed
    have other := (List.mem_filter.mp listed).2
    rw [bne_iff_ne] at other ⊢
    exact other.symm
  rw [get?, insert, List.lookup_append, erased, Option.none_or, List.lookup_cons_self]

namespace Host

/-! ## Hosts in use -/

/-- A host at another time. -/
def atTime (host : Host) (now : ClockTime) : Host :=
  { host with now := now }

/-- The hosts that come about: at any location and for any user, after any uses that were made
of them, at any time. -/
inductive Reached : Host → Prop
  | start (location : Location) (language? : Option Text) (now : ClockTime) :
      Reached { Host.new now with location := location, language? := language? }
  | used {host after : Host} {use : HostAccess} {answer : Option Text} :
      Reached host → host.access? use = some (after, answer) → Reached after
  | waited {host : Host} (later : ClockTime) : Reached host → Reached (host.atTime later)

/-- One use of a host writes at most one line to its cookies. -/
theorem cookies_of_access? {host after : Host} {use : HostAccess} {answer : Option Text}
    (step : host.access? use = some (after, answer)) :
    after.cookies = host.cookies ∨ ∃ line, after.cookies = host.cookies.write line host.now := by
  cases use with
  | setCookie name value days =>
    rw [access?, Option.map_eq_some_iff] at step
    obtain ⟨_, set, ends⟩ := step
    obtain ⟨rfl, _⟩ := Prod.mk.inj ends
    rw [setCookie?, Option.map_eq_some_iff] at set
    obtain ⟨line, _, rfl⟩ := set
    exact .inr ⟨line, rfl⟩
  | writeCookie line =>
    obtain ⟨rfl, _⟩ := Prod.mk.inj (Option.some.inj step)
    exact .inr ⟨line, rfl⟩
  | setItem area key value =>
    obtain ⟨rfl, _⟩ := Prod.mk.inj (Option.some.inj step)
    cases area <;> exact .inl rfl
  | eraseItem area key =>
    obtain ⟨rfl, _⟩ := Prod.mk.inj (Option.some.inj step)
    cases area <;> exact .inl rfl
  | _ =>
    obtain ⟨rfl, _⟩ := Prod.mk.inj (Option.some.inj step)
    exact .inl rfl

theorem Reached.sound {host : Host} (reached : host.Reached) : host.cookies.Sound := by
  induction reached with
  | start location language? now => exact CookieJar.sound_empty
  | used _ step ih =>
    rcases cookies_of_access? step with same | ⟨line, written⟩
    · rw [same]
      exact ih
    · rw [written]
      exact ih.write line _
  | waited later _ ih => exact ih

/-! ## One cache -/

/-- A language that a cookie of a name can spell: neither of them has a semicolon, a percent sign
or a blank at its ends, and the name has no equals sign; and no cookie in the jar has a percent
sign. The calendar has to have the day on which the cookie ends, or it could not be set. -/
structure CookieSpells (host : Host) (language name : Text) : Prop where
  language_whole : ';' ∉ language
  language_plain : '%' ∉ language
  language_trim : Text.trim language = language
  name_apart : '=' ∉ name
  name_whole : ';' ∉ name
  name_plain : '%' ∉ name
  name_trim : Text.trim name = name
  others_plain : host.cookies.Plain
  possible : (host.now.instant.addDays? cookieDays).isSome

/-- The terms on which a language is found again in a cookie: the cookie can spell it and has not
ended, which it does when the days that it is kept for are over. They count from the beginning
of the second in which it is set. -/
structure CookieTerms (host : Host) (language name : Text) (later : ClockTime) : Prop
    extends host.CookieSpells language name where
  soon : later < host.now.instant + cookieDays * Instant.daySeconds

variable {host : Host} {language : Text} {options : DetectionOptions} {later : ClockTime}

/-- On these terms the line that sets the cookie gives the cookie that was meant, which has not
ended. -/
theorem CookieTerms.exists_setCookie? {name : Text}
    (terms : host.CookieTerms language name later) : ∃ line ends,
      host.setCookie? name language cookieDays = some (host.writeCookie line) ∧
        Cookie.read? line = some ⟨name, language, some ends⟩ ∧ host.now < ends ∧ later < ends := by
  obtain ⟨ends, added⟩ := Option.isSome_iff_exists.mp terms.possible
  obtain ⟨line, composed⟩ : ∃ line, Cookie.compose? name language cookieDays host.now = some line :=
    ⟨_, by rw [Cookie.compose?, added, Option.map_some]⟩
  obtain ⟨_, same, read⟩ :=
    Cookie.read?_compose? terms.name_apart terms.name_whole terms.language_whole composed
  obtain rfl := Option.some.inj (added.symm.trans same)
  rw [terms.name_trim, terms.language_trim] at read
  have value := (Instant.addDays?_eq_some added).1
  refine ⟨line, ends, by rw [setCookie?, composed, Option.map_some], read, ?_, ?_⟩
  · rw [value, ClockTime.lt_iff_instant_lt]
    exact Int.lt_add_of_pos_right host.now.instant (by decide)
  · rw [value]
    exact terms.soon

/-- Keeping a language in the cookie changes nothing but the cookies. -/
theorem keepIn_cookie_eq (host : Host) (language : Text) (options : DetectionOptions) :
    ∃ jar, host.keepIn language options .cookie = { host with cookies := jar } ∧
      (jar = host.cookies ∨ ∃ line, jar = host.cookies.write line host.now) := by
  rw [keepIn]
  cases set : host.setCookie? options.cookie language cookieDays with
  | none => exact ⟨host.cookies, rfl, .inl rfl⟩
  | some after =>
    rw [setCookie?, Option.map_eq_some_iff] at set
    obtain ⟨line, _, rfl⟩ := set
    exact ⟨host.cookies.write line host.now, rfl, .inr ⟨line, rfl⟩⟩

variable {cache : LanguageCache} (declared? : Option Text)

/-- **Keeping a language in a cache leaves the other sources alone.** -/
theorem languageIn?_keepIn_of_ne {source : LanguageSource} (other : cache.source ≠ source) :
    ((host.keepIn language options cache).atTime later).languageIn? declared? options source =
      (host.atTime later).languageIn? declared? options source := by
  cases cache with
  | cookie =>
    obtain ⟨jar, kept, _⟩ := keepIn_cookie_eq host language options
    rw [kept]
    cases source <;> first | rfl | exact absurd rfl other
  | _ => cases source <;> first | rfl | exact absurd rfl other

/-- **Keeping a language in a cache gives it to the source of the cache.** -/
theorem languageIn?_keepIn (sound : host.cookies.Sound)
    (terms : cache = .cookie → host.CookieTerms language options.cookie later) :
    ((host.keepIn language options cache).atTime later).languageIn? declared? options cache.source =
      some language := by
  cases cache with
  | queryParameter => exact host.location.parameter?_setParameter options.queryParameter language
  | cookie =>
    have terms := terms rfl
    obtain ⟨line, ends, set, read, lasts, lastsStill⟩ := terms.exists_setCookie?
    rw [keepIn, set, Option.getD_some]
    exact CookieJar.find?_line_write sound terms.others_plain read
      ⟨terms.name_plain, terms.language_plain⟩ (decide_eq_true lasts) (decide_eq_true lastsStill)
  | localStorage => exact Storage.get?_insert host.localStorage options.localStorage language
  | sessionStorage => exact Storage.get?_insert host.sessionStorage options.sessionStorage language

/-! ## All caches -/

theorem keepIn_now : (host.keepIn language options cache).now = host.now := by
  cases cache with
  | cookie =>
    obtain ⟨jar, kept, _⟩ := keepIn_cookie_eq host language options
    rw [kept]
  | _ => rfl

theorem sound_keepIn (sound : host.cookies.Sound) :
    (host.keepIn language options cache).cookies.Sound := by
  cases cache with
  | cookie =>
    obtain ⟨jar, kept, same | ⟨line, written⟩⟩ := keepIn_cookie_eq host language options
    · rw [kept, same]
      exact sound
    · rw [kept, written]
      exact sound.write line host.now
  | _ => exact sound

/-- The terms still hold after the language was kept somewhere. -/
theorem CookieTerms.keepIn (terms : host.CookieTerms language options.cookie later) :
    (host.keepIn language options cache).CookieTerms language options.cookie later := by
  have plain : (host.keepIn language options cache).cookies.Plain := by
    cases cache with
    | cookie =>
      obtain ⟨line, ends, set, read, _⟩ := terms.exists_setCookie?
      rw [Host.keepIn, set, Option.getD_some]
      exact CookieJar.Plain.write terms.others_plain read ⟨terms.name_plain, terms.language_plain⟩
    | _ => exact terms.others_plain
  exact
    { terms with
      others_plain := plain
      soon := by
        rw [keepIn_now]
        exact terms.soon
      possible := by
        rw [keepIn_now]
        exact terms.possible }

theorem languageIn?_foldl_of_ne {source : LanguageSource} {caches : List LanguageCache} :
    ∀ {host : Host}, (∀ cache ∈ caches, cache.source ≠ source) →
      ((caches.foldl (fun host cache => host.keepIn language options cache) host).atTime
        later).languageIn? declared? options source =
      (host.atTime later).languageIn? declared? options source := by
  induction caches with
  | nil =>
    intro host _
    rfl
  | cons first rest ih =>
    intro host others
    rw [List.forall_mem_cons] at others
    rw [List.foldl_cons, ih others.2, languageIn?_keepIn_of_ne declared? others.1]

theorem languageIn?_foldl {caches : List LanguageCache} :
    ∀ {host : Host}, host.cookies.Sound →
      (.cookie ∈ caches → host.CookieTerms language options.cookie later) →
      ∀ cache ∈ caches,
        ((caches.foldl (fun host cache => host.keepIn language options cache) host).atTime
          later).languageIn? declared? options cache.source = some language := by
  induction caches with
  | nil =>
    intro host _ _ cache listed
    cases listed
  | cons first rest ih =>
    intro host sound terms cache listed
    rw [List.foldl_cons]
    by_cases again : cache ∈ rest
    · apply ih (sound_keepIn sound) _ cache again
      intro cookie
      exact (terms (List.mem_cons_of_mem first cookie)).keepIn
    · obtain rfl : cache = first := (List.mem_cons.mp listed).resolve_right again
      have others : ∀ other ∈ rest, other.source ≠ cache.source := by
        intro other listed same
        exact again (LanguageCache.source_injective same ▸ listed)
      rw [languageIn?_foldl_of_ne declared? others]
      apply languageIn?_keepIn declared? sound
      intro cookie
      exact terms (cookie ▸ List.mem_cons_self)

/-- **Every cache has the language** after it was kept. -/
theorem languageIn?_keep (sound : host.cookies.Sound)
    (terms : .cookie ∈ options.caches → host.CookieTerms language options.cookie later)
    (cached : cache ∈ options.caches) :
    ((host.keep language options).atTime later).languageIn? declared? options cache.source =
      some language :=
  languageIn?_foldl declared? sound terms cache cached

/-- A source that is no cache says what it said before. -/
theorem languageIn?_keep_of_ne {source : LanguageSource}
    (other : ∀ cache ∈ options.caches, cache.source ≠ source) :
    ((host.keep language options).atTime later).languageIn? declared? options source =
      (host.atTime later).languageIn? declared? options source :=
  languageIn?_foldl_of_ne declared? other

/-! ## Detection -/

/-- What is found first is what is found at one place and at no place before it otherwise. -/
theorem findSome?_append_cons {α β : Type} {find : α → Option β} {found : β} {here : α}
    (finds : find here = some found) (behind : List α) :
    ∀ {before : List α}, (∀ place ∈ before, find place = none ∨ find place = some found) →
      (before ++ here :: behind).findSome? find = some found := by
  intro before
  induction before with
  | nil =>
    intro _
    rw [List.nil_append, List.findSome?_cons, finds]
  | cons first rest ih =>
    intro early
    rw [List.forall_mem_cons] at early
    rw [List.cons_append, List.findSome?_cons]
    rcases early.1 with none | same
    · rw [none]
      exact ih early.2
    · rw [same]

/-- **A language that was kept is detected again**, whatever the document declares, if one of
the caches is looked at and every source before it is a cache as well or has nothing to say at
that time. If a cookie is one of the caches, that is on its terms. -/
theorem detect?_keep (reached : host.Reached) (named : language ≠ [])
    (terms : .cookie ∈ options.caches → host.CookieTerms language options.cookie later)
    {before after : List LanguageSource} (cached : cache ∈ options.caches)
    (order : options.order = before ++ cache.source :: after)
    (silent : ∀ source ∈ before, (∃ cache ∈ options.caches, cache.source = source) ∨
      ∀ found, (host.atTime later).languageIn? declared? options source = some found →
        found = []) :
    ((host.keep language options).atTime later).detect? declared? options = some language := by
  have kept {cache : LanguageCache} (cached : cache ∈ options.caches) :
      (((host.keep language options).atTime later).languageIn? declared? options
        cache.source).filter (fun found => !found.isEmpty) = some language := by
    rw [languageIn?_keep declared? reached.sound terms cached, Option.filter_some, if_pos]
    simp [named]
  rw [detect?, order]
  apply findSome?_append_cons
  · exact kept cached
  · intro source early
    by_cases caching : ∃ cache ∈ options.caches, cache.source = source
    · obtain ⟨cache, cached, rfl⟩ := caching
      exact .inr (kept cached)
    · left
      have quiet := (silent source early).resolve_left caching
      rw [languageIn?_keep_of_ne declared? fun cache cached same => caching ⟨cache, cached, same⟩]
      cases answer : (host.atTime later).languageIn? declared? options source with
      | none => rfl
      | some found =>
        rw [quiet found answer]
        rfl

/-- A host with a cookie of someone else, at the last tenth of a second. -/
def visitor : Host :=
  (Host.new ⟨1792411200900000000⟩).writeCookie "a=b".toList

/-- Options that keep a language everywhere, and look for it everywhere after asking the user. -/
def everywhere : DetectionOptions :=
  { DetectionOptions.default with
    order := [.navigator, .cookie, .localStorage, .queryParameter, .sessionStorage, .htmlTag]
    caches := LanguageCache.all }

theorem reached_visitor : visitor.Reached := by
  have fresh : (Host.new ⟨1792411200900000000⟩).Reached :=
    .start Location.localhost none ⟨1792411200900000000⟩
  have step : (Host.new ⟨1792411200900000000⟩).access? (.writeCookie "a=b".toList) =
      some (visitor, some visitor.cookieLine) := rfl
  exact fresh.used step

theorem cookieSpells_visitor : visitor.CookieSpells "zh-Hans".toList everywhere.cookie where
  language_whole := by decide
  language_plain := by decide
  language_trim := by decide +kernel
  name_apart := by decide
  name_whole := by decide
  name_plain := by decide
  name_trim := by decide +kernel
  others_plain := by
    have cookies : visitor.cookies.cookies = [⟨['a'], ['b'], none⟩] := by decide +kernel
    rw [CookieJar.Plain, cookies]
    rintro cookie (_ | ⟨_, ⟨⟩⟩)
    exact ⟨by decide, by decide⟩
  possible := by decide +kernel

/-- The language of the document is detected until another one is kept, which is found in the
cookie up to the last nanosecond; the cookie is gone in the next. -/
theorem detect?_keep_everywhere :
    let kept := visitor.keep "zh-Hans".toList everywhere
    visitor.detect? (some "de".toList) everywhere = some "de".toList ∧
      (kept.atTime ⟨1795003199999999999⟩).detect? (some "de".toList) everywhere =
        some "zh-Hans".toList ∧
      (kept.atTime ⟨1795003200000000000⟩).languageIn? none everywhere .cookie = none := by
  intro kept
  have terms : visitor.CookieTerms "zh-Hans".toList everywhere.cookie ⟨1795003199999999999⟩ :=
    { cookieSpells_visitor with soon := by decide +kernel }
  have silent : ∀ source ∈ [LanguageSource.navigator],
      (∃ cache ∈ everywhere.caches, cache.source = source) ∨ ∀ found,
        (visitor.atTime ⟨1795003199999999999⟩).languageIn? (some "de".toList) everywhere source =
          some found → found = [] := by
    rintro source (_ | ⟨_, ⟨⟩⟩)
    right
    rintro found ⟨⟩
  refine ⟨by decide +kernel, ?_, by decide +kernel⟩
  have cached : LanguageCache.cookie ∈ everywhere.caches := by decide
  exact detect?_keep _ reached_visitor (by decide) (fun _ => terms) cached rfl silent

/-- Options that keep a language in a cookie, and look for it only there. -/
def cookieOnly : DetectionOptions :=
  { DetectionOptions.default with order := [.cookie], caches := [.cookie] }

/-- **A language that was kept in a cookie can be gone before the days are over**: kept in the
last tenth of a second, it is not detected four tenths of a second into the one in which its
days end, which is half a second too early. -/
theorem detect?_keep_fraction :
    visitor.Reached ∧ visitor.CookieSpells "zh-Hans".toList cookieOnly.cookie ∧
      LanguageCache.cookie ∈ cookieOnly.caches ∧
      cookieOnly.order = [] ++ LanguageCache.cookie.source :: [] ∧
      let later : ClockTime := ⟨1795003200400000000⟩
      later.nanoseconds - visitor.now.nanoseconds =
          cookieDays * Instant.daySeconds * ClockTime.secondNanoseconds - 500000000 ∧
        ((visitor.keep "zh-Hans".toList cookieOnly).atTime later).detect? none cookieOnly = none :=
  ⟨reached_visitor, cookieSpells_visitor, by decide, rfl, by decide, by decide +kernel⟩

end Host

end Polyglot
