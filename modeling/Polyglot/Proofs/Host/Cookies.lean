import Polyglot.Host.Cookie
import Polyglot.Proofs.Calendar.Stamps
import Polyglot.Proofs.Host.Escapes
import Polyglot.Proofs.Text.Parts

/-!
# Reading cookies that were written

A cookie that was written has no sign in its name or value that would end them, since both
were read between such signs (`Cookie.sound_of_read?`). For this reason the line that a jar of
such cookies shows can be taken apart again into its cookies, as long as no percent sign makes
it another line, and the value that is found in it for a name is the value of the cookie of
that name (`CookieJar.find?_line`).

The line that writes a cookie with its last day gives the cookie that it was made for
(`Cookie.read?_compose?`), since the day is read from its stamp. So a cookie that was written
is found until it ends (`CookieJar.find?_line_write`).
-/

set_option autoImplicit false

namespace Polyglot

/-! ## Cookies of a jar -/

/-- A cookie as it can be in a jar. -/
structure Cookie.Sound (cookie : Cookie) : Prop where
  equals_not_mem : '=' ∉ cookie.name
  semicolon_not_mem_name : ';' ∉ cookie.name
  semicolon_not_mem_value : ';' ∉ cookie.value
  /-- No blank stands in front of the name. -/
  front : ∀ c ∈ cookie.name.head?, isBlank c = false

/-- A cookie in which nothing can be taken for an escape. -/
def Cookie.Plain (cookie : Cookie) : Prop :=
  '%' ∉ cookie.name ∧ '%' ∉ cookie.value

/-- A jar as it comes about. -/
def CookieJar.Sound (jar : CookieJar) : Prop :=
  ∀ cookie ∈ jar.cookies, cookie.Sound

def CookieJar.Plain (jar : CookieJar) : Prop :=
  ∀ cookie ∈ jar.cookies, cookie.Plain

namespace Cookie

/-- **Each cookie that is read is sound.** -/
theorem sound_of_read? {line : Text} {cookie : Cookie} (read : read? line = some cookie) :
    cookie.Sound := by
  rw [read?] at read
  split at read
  · cases read
  · next first parts pieces =>
    rw [Option.map_eq_some_iff] at read
    obtain ⟨⟨name, value⟩, cut, rfl⟩ := read
    obtain ⟨apart, rfl⟩ := Text.cut?_eq_some_iff.mp cut
    have whole : ';' ∉ name ++ '=' :: value :=
      Text.not_mem_of_mem_pieces _ (pieces ▸ List.mem_cons_self)
    rw [List.mem_append, List.mem_cons, not_or, not_or] at whole
    exact
      { equals_not_mem := fun listed => apart ((Text.trimmed_infix _ name).subset listed)
        semicolon_not_mem_name := fun listed => whole.1 ((Text.trimmed_infix _ name).subset listed)
        semicolon_not_mem_value := fun listed =>
          whole.2.2 ((Text.trimmed_infix _ value).subset listed)
        front := fun c first => Text.not_kind_of_head?_trimmed first }

theorem isLive_iff {cookie : Cookie} {now : ClockTime} :
    cookie.isLive now = true ↔ ∀ ends : Instant, ends ∈ cookie.ends? → now < ends := by
  simp [isLive, Option.all_eq_true]

/-! ## Lines -/

/-- A cookie in a line of cookies. -/
def shown (cookie : Cookie) : Text :=
  cookie.name ++ '=' :: cookie.value

variable {cookie : Cookie}

theorem Sound.not_mem_shown (sound : cookie.Sound) : ';' ∉ cookie.shown := by
  simp [shown, sound.semicolon_not_mem_name, sound.semicolon_not_mem_value]

theorem Plain.not_mem_shown (plain : cookie.Plain) : '%' ∉ cookie.shown := by
  simp [shown, plain.1, plain.2]

/-- No space stands in front of a cookie. -/
theorem Sound.dropWhile_shown (sound : cookie.Sound) :
    cookie.shown.dropWhile (· == ' ') = cookie.shown := by
  apply Text.dropWhile_eq_self
  intro c first
  rw [shown] at first
  cases name : cookie.name with
  | nil =>
    rw [name] at first
    obtain rfl : '=' = c := Option.some.inj first
    rfl
  | cons d rest =>
    rw [name] at first
    obtain rfl : d = c := Option.some.inj first
    have seen := sound.front d (by rw [name]; rfl)
    rw [beq_eq_false_iff_ne]
    rintro rfl
    cases seen

/-- What a cookie says for a name. -/
def valueFor? (name : Text) (cookie : Cookie) : Option Text :=
  if cookie.name = name then some cookie.value else none

/-- A name is looked for in a cookie as it is shown. -/
theorem Sound.after?_shown (sound : cookie.Sound) {name : Text} (apart : '=' ∉ name) :
    Text.after? (name ++ ['=']) cookie.shown = cookie.valueFor? name := by
  rw [valueFor?]
  split
  · next same =>
    rw [Text.after?_eq_some_iff, ← same, shown, List.append_assoc, List.singleton_append]
  · next other =>
    rw [Option.eq_none_iff_forall_ne_some]
    intro rest found
    rw [Text.after?_eq_some_iff, shown, List.append_assoc, List.singleton_append] at found
    exact other (Text.eq_of_append_cons sound.equals_not_mem apart found).1

/-- So it is in the cookies of a line that come after a blank. -/
theorem findSome?_shown {name : Text} (apart : '=' ∉ name) {cookies : List Cookie}
    (sound : ∀ cookie ∈ cookies, cookie.Sound) :
    ((cookies.map shown).map ([' '] ++ ·)).findSome?
        (fun part => Text.after? (name ++ ['=']) (part.dropWhile (· == ' '))) =
      cookies.findSome? (valueFor? name) := by
  induction cookies with
  | nil => rfl
  | cons first rest ih =>
    rw [List.forall_mem_cons] at sound
    have bare : ([' '] ++ first.shown).dropWhile (· == ' ') = first.shown := by
      rw [List.singleton_append, List.dropWhile_cons_of_pos rfl, sound.1.dropWhile_shown]
    rw [List.map_cons, List.map_cons, List.findSome?_cons, List.findSome?_cons, bare,
      sound.1.after?_shown apart, ih sound.2]

end Cookie

namespace CookieJar

/-- The cookies that have not ended. -/
def live (jar : CookieJar) (now : ClockTime) : List Cookie :=
  jar.cookies.filter (·.isLive now)

variable {jar : CookieJar}

theorem sound_empty : empty.Sound := by
  intro cookie listed
  cases listed

/-- **Writing a line**: the cookie that it reads as takes the place of the one of its name and
comes last, unless it has ended. -/
theorem write_of_read? {line : Text} {cookie : Cookie} (read : Cookie.read? line = some cookie)
    (now : ClockTime) :
    (jar.write line now).cookies = (jar.cookies.filter fun other => other.name != cookie.name) ++
      if cookie.isLive now then [cookie] else [] := by
  rw [write, read]
  dsimp only
  split
  · rfl
  · rw [List.append_nil]

/-- What is live after a line was written: all that was live but the cookie of that name, and
the new cookie if it has ended neither then nor at the time of the writing. -/
theorem live_write {line : Text} {cookie : Cookie} (read : Cookie.read? line = some cookie)
    (now later : ClockTime) :
    (jar.write line now).live later =
      ((jar.live later).filter fun other => other.name != cookie.name) ++
        if cookie.isLive now = true ∧ cookie.isLive later = true then [cookie] else [] := by
  rw [live, write_of_read? read, List.filter_append, live, List.filter_comm]
  cases lasts : cookie.isLive now
  all_goals cases lastsStill : cookie.isLive later <;> simp [lastsStill]

/-- What is in a jar after something was written to it was in it or was written. -/
theorem mem_write {line : Text} {now : ClockTime} {cookie : Cookie}
    (listed : cookie ∈ (jar.write line now).cookies) :
    cookie ∈ jar.cookies ∨ Cookie.read? line = some cookie := by
  cases read : Cookie.read? line with
  | none =>
    rw [write, read] at listed
    exact .inl listed
  | some written =>
    rw [write_of_read? read, List.mem_append] at listed
    rcases listed with other | newest
    · exact .inl (List.mem_of_mem_filter other)
    · split at newest
      · exact .inr (congrArg some (List.mem_singleton.mp newest).symm)
      · cases newest

/-- A jar stays sound whatever is written to it. -/
theorem Sound.write (sound : jar.Sound) (line : Text) (now : ClockTime) :
    (jar.write line now).Sound := by
  intro cookie listed
  rcases mem_write listed with before | read
  · exact sound cookie before
  · exact Cookie.sound_of_read? read

/-- What is written without escapes leaves a jar without them. -/
theorem Plain.write (plain : jar.Plain) {line : Text} {cookie : Cookie} {now : ClockTime}
    (read : Cookie.read? line = some cookie) (bare : cookie.Plain) :
    (jar.write line now).Plain := by
  intro other listed
  rcases mem_write listed with before | written
  · exact plain other before
  · rw [read, Option.some.injEq] at written
    exact written ▸ bare

theorem line_eq (now : ClockTime) :
    jar.line now = Text.joined [';', ' '] ((jar.live now).map Cookie.shown) :=
  rfl

/-- **What is found in the line of a jar** is the value of the first cookie of the name. -/
theorem find?_line (sound : jar.Sound) (plain : jar.Plain) {name : Text} (apart : '=' ∉ name)
    (now : ClockTime) :
    Cookie.find? (jar.line now) name = (jar.live now).findSome? (Cookie.valueFor? name) := by
  have sound : ∀ cookie ∈ jar.live now, cookie.Sound := fun cookie listed =>
    sound cookie (List.mem_of_mem_filter listed)
  have text : '%' ∉ jar.line now := by
    rw [line_eq]
    apply Text.not_mem_joined (by decide)
    rw [List.forall_mem_map]
    exact fun cookie listed => (plain cookie (List.mem_of_mem_filter listed)).not_mem_shown
  rw [Cookie.find?, Percent.decodeLossy_of_not_mem text, line_eq]
  cases cookies : jar.live now with
  | nil => cases name <;> rfl
  | cons first rest =>
    rw [cookies] at sound
    have pieces : Text.pieces ';' (Text.joined [';', ' '] ((first :: rest).map Cookie.shown)) =
        first.shown :: (rest.map Cookie.shown).map ([' '] ++ ·) := by
      apply Text.pieces_joined (by decide)
      rw [← List.map_cons, List.forall_mem_map]
      exact fun cookie listed => (sound cookie listed).not_mem_shown
    rw [List.forall_mem_cons] at sound
    rw [pieces, List.findSome?_cons, List.findSome?_cons, sound.1.dropWhile_shown,
      sound.1.after?_shown apart, Cookie.findSome?_shown apart sound.2]

end CookieJar

/-! ## Cookies with a last day -/

namespace Cookie

/-- The end that is written is the one that is read. -/
theorem endOf?_expires {ends : Instant} (reached : ends.InCalendar) :
    endOf? (" expires=".toList ++ Stamp.write ends) = some ends := by
  have cut : Text.cut? '=' (" expires=".toList ++ Stamp.write ends) =
      some (" expires".toList, Stamp.write ends) :=
    Text.cut?_eq_some_iff.mpr ⟨by decide, rfl⟩
  have key : Text.equalsIgnoringCase (Text.trim " expires".toList) "expires".toList = true := by
    decide
  rw [endOf?, cut]
  dsimp only
  rw [if_pos key, Stamp.trim_write, Stamp.read?_write reached]

/-- **A line that was composed writes the cookie it was composed for.** -/
theorem read?_compose? {name value line : Text} {days : Int} {now : ClockTime} (apart : '=' ∉ name)
    (whole : ';' ∉ name) (whole' : ';' ∉ value)
    (composed : compose? name value days now = some line) :
    ∃ ends, now.instant.addDays? days = some ends ∧
      read? line = some ⟨Text.trim name, Text.trim value, some ends⟩ := by
  rw [compose?, Option.map_eq_some_iff] at composed
  obtain ⟨ends, added, rfl⟩ := composed
  refine ⟨ends, added, ?_⟩
  have first : ';' ∉ name ++ '=' :: value := by simp [whole, whole']
  have rest : ';' ∉ " expires=".toList ++ Stamp.write ends := by
    rw [List.mem_append, not_or]
    exact ⟨by decide, Stamp.semicolon_not_mem_write ends⟩
  have pieces : Text.pieces ';' (name ++ '=' :: value ++ "; expires=".toList ++ Stamp.write ends) =
      [name ++ '=' :: value, " expires=".toList ++ Stamp.write ends] := by
    rw [List.append_assoc]
    exact (Text.pieces_append_cons first _).trans (congrArg _ (Text.pieces_of_not_mem rest))
  have cut : Text.cut? '=' (name ++ '=' :: value) = some (name, value) :=
    Text.cut?_eq_some_iff.mpr ⟨apart, rfl⟩
  rw [read?, pieces]
  dsimp only
  rw [cut, Option.map_some, List.findSome?_cons, endOf?_expires (Instant.addDays?_eq_some added).2]

end Cookie

namespace CookieJar

variable {jar : CookieJar} {line : Text} {cookie : Cookie}

/-- A cookie that was written is in the jar behind all others, which have other names. -/
theorem find?_line_write (sound : jar.Sound) (plain : jar.Plain) {now later : ClockTime}
    (read : Cookie.read? line = some cookie) (bare : cookie.Plain)
    (lasts : cookie.isLive now = true) (lastsStill : cookie.isLive later = true) :
    Cookie.find? ((jar.write line now).line later) cookie.name = some cookie.value := by
  have others : ((jar.live later).filter fun other => other.name != cookie.name).findSome?
      (Cookie.valueFor? cookie.name) = none := by
    rw [List.findSome?_eq_none_iff]
    intro other listed
    have apart := (List.mem_filter.mp listed).2
    rw [Cookie.valueFor?, if_neg (by simpa using apart)]
  have apart := (Cookie.sound_of_read? read).equals_not_mem
  rw [find?_line (sound.write line now) (plain.write read bare) apart, live_write read,
    if_pos ⟨lasts, lastsStill⟩, List.findSome?_append, others, Option.none_or,
    List.findSome?_cons, Cookie.valueFor?, if_pos rfl]

end CookieJar

end Polyglot
