import Polyglot.Proofs.Host.Cookies

/-!
# Cookies of one line

The line that a jar shows is unescaped as a whole before it is taken apart. No escape reaches
from one cookie into the next, so the line says of a name what its cookies say of it, one after
the other (`CookieJar.find?_line_eq`). A single cookie, however, can say something of several
names: with an escaped semicolon in its value it reads as two cookies, and with an escape in
its name it reads as one of another name (`CookieJar.find?_line_smuggled`).

A cookie without either is enclosed. It says of its own name what its value stands for, and
nothing of any other. Where all cookies are enclosed a name is looked up as it should be, and
whatever the others are, writing an enclosed cookie over an enclosed one or over none changes
nothing for any other name (`CookieJar.find?_line_written`).
-/

set_option autoImplicit false

namespace Polyglot

namespace Cookie

variable {cookie : Cookie} {name : Text}

/-! ## Several cookies in a line -/

/-- A text that begins with a space says of a name what it says without the space. -/
theorem findSome?_pieces_space (name text : Text) :
    (Text.pieces ';' (' ' :: text)).findSome?
        (fun part => Text.after? (name ++ ['=']) (part.dropWhile (· == ' '))) =
      (Text.pieces ';' text).findSome?
        fun part => Text.after? (name ++ ['=']) (part.dropWhile (· == ' ')) := by
  cases cut : Text.pieces ';' text with
  | nil => exact absurd cut (Text.pieces_ne_nil text)
  | cons first others =>
    have spaced : Text.pieces ';' ([' '] ++ text) = ([' '] ++ first) :: others :=
      Text.pieces_append (by decide) cut
    rw [List.singleton_append] at spaced
    rw [spaced, List.findSome?_cons, List.findSome?_cons, List.singleton_append,
      List.dropWhile_cons_of_pos rfl]

/-- Of two lines in one the first says first what a name stands for. -/
theorem find?_append (front rest name : Text) :
    find? (front ++ [';', ' '] ++ rest) name = (find? front name).or (find? rest name) := by
  have decoded : Percent.decodeLossy (front ++ [';', ' '] ++ rest) =
      Percent.decodeLossy front ++ ';' :: ' ' :: Percent.decodeLossy rest := by
    have separates : Percent.Separates ' ' := by decide
    have space := Percent.decodeLossy_append_cons separates [] rest
    rw [List.append_assoc, List.cons_append, Percent.decodeLossy_append_cons (by decide)]
    exact congrArg (Percent.decodeLossy front ++ ';' :: ·) space
  rw [find?, decoded, Text.pieces_append_sign, List.findSome?_append, findSome?_pieces_space]
  rfl

theorem find?_joined (name : Text) (lines : List Text) :
    find? (Text.joined [';', ' '] lines) name = lines.findSome? (find? · name) := by
  induction lines with
  | nil => cases name <;> rfl
  | cons first rest ih =>
    cases rest with
    | nil =>
      rw [Text.joined, List.findSome?_singleton]
    | cons second others =>
      rw [Text.joined, find?_append, ih]
      simp only [List.findSome?_cons]
      cases find? first name <;> rfl

/-! ## Enclosed cookies -/

/-- A cookie that is still one cookie, of the same name, when it is unescaped. -/
def Enclosed (cookie : Cookie) : Prop :=
  Percent.decodeLossy cookie.name = cookie.name ∧ ';' ∉ Percent.decodeLossy cookie.value

instance (cookie : Cookie) : Decidable cookie.Enclosed :=
  inferInstanceAs (Decidable (_ ∧ _))

/-- **An enclosed cookie says of its own name what its value stands for, and nothing of any
other name.** -/
theorem find?_shown (sound : cookie.Sound) (enclosed : cookie.Enclosed) (apart : '=' ∉ name) :
    find? cookie.shown name =
      if cookie.name = name then some (Percent.decodeLossy cookie.value) else none := by
  obtain ⟨same, whole⟩ := enclosed
  let read : Cookie := { cookie with value := Percent.decodeLossy cookie.value }
  have readSound : read.Sound :=
    ⟨sound.equals_not_mem, sound.semicolon_not_mem_name, whole, sound.front⟩
  have decoded : Percent.decodeLossy cookie.shown = read.shown := by
    rw [shown, Percent.decodeLossy_append_cons (by decide), same]
    rfl
  rw [find?, decoded, Text.pieces_of_not_mem readSound.not_mem_shown, List.findSome?_cons,
    readSound.dropWhile_shown, readSound.after?_shown apart, List.findSome?_nil]
  by_cases named : cookie.name = name
  · simp only [valueFor?, read, if_pos named]
  · simp only [valueFor?, read, if_neg named]

end Cookie

namespace CookieJar

variable {jar : CookieJar} {name : Text}

/-- **A line of cookies says of a name what its cookies say of it, one after the other.** -/
theorem find?_line_eq (jar : CookieJar) (now : ClockTime) (name : Text) :
    Cookie.find? (jar.line now) name =
      (jar.live now).findSome? fun cookie => Cookie.find? cookie.shown name := by
  rw [line_eq, Cookie.find?_joined, List.findSome?_map]
  rfl

/-! ## Names -/

/-- A jar with one cookie of each name at most. -/
def Distinct (jar : CookieJar) : Prop :=
  (jar.cookies.map Cookie.name).Nodup

theorem Distinct.write (distinct : jar.Distinct) (line : Text) (now : ClockTime) :
    (jar.write line now).Distinct := by
  cases read : Cookie.read? line with
  | none => rwa [CookieJar.write, read]
  | some written =>
    rw [Distinct, write_of_read? read, List.map_append, List.nodup_append]
    refine ⟨distinct.sublist (List.filter_sublist.map Cookie.name), by split <;> simp, ?_⟩
    intro other listed same here
    obtain ⟨cookie, kept, rfl⟩ := List.mem_map.mp listed
    have differs := (List.mem_filter.mp kept).2
    rw [bne_iff_ne] at differs
    split at here
    · rw [List.map_singleton, List.mem_singleton] at here
      exact fun equal => differs (equal.trans here)
    · cases here

/-- The jar that comes of writing lines at times. -/
def written (writes : List (Text × ClockTime)) : CookieJar :=
  writes.foldl (fun jar (line, now) => jar.write line now) empty

theorem sound_distinct_foldl (writes : List (Text × ClockTime)) :
    ∀ {jar : CookieJar}, jar.Sound → jar.Distinct →
      (writes.foldl (fun jar (line, now) => jar.write line now) jar).Sound ∧
        (writes.foldl (fun jar (line, now) => jar.write line now) jar).Distinct := by
  induction writes with
  | nil => exact fun sound distinct => ⟨sound, distinct⟩
  | cons first rest ih =>
    intro jar sound distinct
    exact ih (sound.write first.1 first.2) (distinct.write first.1 first.2)

theorem sound_written (writes : List (Text × ClockTime)) : (written writes).Sound :=
  (sound_distinct_foldl writes sound_empty List.nodup_nil).1

theorem distinct_written (writes : List (Text × ClockTime)) : (written writes).Distinct :=
  (sound_distinct_foldl writes sound_empty List.nodup_nil).2

/-! ## Looking up a name -/

/-- **A name is looked up among enclosed cookies**: it stands for what the value of the cookie
of that name stands for, and for nothing if there is none. -/
theorem find?_line_of_enclosed (sound : jar.Sound) (distinct : jar.Distinct) (apart : '=' ∉ name)
    {now : ClockTime} (enclosed : ∀ cookie ∈ jar.live now, cookie.Enclosed) :
    (∀ cookie ∈ jar.live now, cookie.name = name →
      Cookie.find? (jar.line now) name = some (Percent.decodeLossy cookie.value)) ∧
    ((∀ cookie ∈ jar.live now, cookie.name ≠ name) →
      Cookie.find? (jar.line now) name = none) := by
  have reads : ∀ cookie ∈ jar.live now, Cookie.find? cookie.shown name =
      if cookie.name = name then some (Percent.decodeLossy cookie.value) else none :=
    fun cookie listed => Cookie.find?_shown (sound cookie (List.mem_of_mem_filter listed))
      (enclosed cookie listed) apart
  rw [find?_line_eq]
  constructor
  · intro cookie listed named
    obtain ⟨front, behind, here⟩ := List.append_of_mem listed
    have others : ∀ other ∈ front, Cookie.find? other.shown name = none := by
      intro other before
      have member : other ∈ jar.live now := here ▸ List.mem_append_left _ before
      rw [reads other member, if_neg]
      intro same
      have names : ((jar.live now).map Cookie.name).Nodup :=
        distinct.sublist (List.filter_sublist.map Cookie.name)
      rw [here, List.map_append, List.nodup_append] at names
      exact names.2.2 other.name (List.mem_map_of_mem before) cookie.name
        (List.mem_map_of_mem List.mem_cons_self) (same.trans named.symm)
    rw [here, List.findSome?_append, List.findSome?_eq_none_iff.mpr others, Option.none_or,
      List.findSome?_cons, reads cookie listed, if_pos named]
  · intro none
    rw [List.findSome?_eq_none_iff]
    intro cookie listed
    rw [reads cookie listed, if_neg (none cookie listed)]

/-- What says nothing may be left out of a search. -/
theorem findSome?_filter_of_none {α β : Type} {find : α → Option β} {keep : α → Bool}
    {list : List α} (silent : ∀ item ∈ list, keep item = false → find item = none) :
    (list.filter keep).findSome? find = list.findSome? find := by
  induction list with
  | nil => rfl
  | cons first rest ih =>
    rw [List.forall_mem_cons] at silent
    cases kept : keep first with
    | true => rw [List.filter_cons_of_pos kept, List.findSome?_cons, List.findSome?_cons, ih silent.2]
    | false =>
      rw [List.filter_cons_of_neg (by simp [kept]), List.findSome?_cons, silent.1 kept, ih silent.2]

/-- **Writing an enclosed cookie changes nothing for another name**, if the cookies that it
takes the place of were enclosed as well. -/
theorem find?_line_write_of_ne (sound : jar.Sound) (apart : '=' ∉ name) {line : Text}
    {now later : ClockTime}
    (enclosed : ∀ cookie, Cookie.read? line = some cookie → cookie.name ≠ name ∧ cookie.Enclosed ∧
      ∀ other ∈ jar.live later, other.name = cookie.name → other.Enclosed) :
    Cookie.find? ((jar.write line now).line later) name = Cookie.find? (jar.line later) name := by
  rw [find?_line_eq, find?_line_eq]
  cases read : Cookie.read? line with
  | none => rw [write, read]
  | some cookie =>
    obtain ⟨differs, whole, replaced⟩ := enclosed cookie read
    have others : ((jar.live later).filter fun other => other.name != cookie.name).findSome?
          (fun cookie => Cookie.find? cookie.shown name) =
        (jar.live later).findSome? fun cookie => Cookie.find? cookie.shown name := by
      apply findSome?_filter_of_none
      intro other listed same
      rw [bne_eq_false_iff_eq] at same
      rw [Cookie.find?_shown (sound other (List.mem_of_mem_filter listed))
        (replaced other listed same) apart, if_neg (same ▸ differs)]
    have new : Cookie.find? cookie.shown name = none := by
      rw [Cookie.find?_shown (Cookie.sound_of_read? read) whole apart, if_neg differs]
    rw [live_write read, List.findSome?_append, others]
    split
    · rw [List.findSome?_singleton, new, Option.or_none]
    · rw [List.findSome?_nil, Option.or_none]

/-- **The cookies of a jar are read one by one**, whatever lines were written to it at whatever
times: a name stands for what the first cookie that says something of it says. If all cookies
are enclosed, that is what the value of the cookie of that name stands for; and writing an
enclosed cookie of another name changes nothing, if the one that it takes the place of was
enclosed. -/
theorem find?_line_written (writes : List (Text × ClockTime)) (now : ClockTime)
    (apart : '=' ∉ name) :
    (Cookie.find? ((written writes).line now) name =
      ((written writes).live now).findSome? fun cookie => Cookie.find? cookie.shown name) ∧
    ((∀ cookie ∈ (written writes).live now, cookie.Enclosed) →
      (∀ cookie ∈ (written writes).live now, cookie.name = name →
        Cookie.find? ((written writes).line now) name = some (Percent.decodeLossy cookie.value)) ∧
      ((∀ cookie ∈ (written writes).live now, cookie.name ≠ name) →
        Cookie.find? ((written writes).line now) name = none)) ∧
    ∀ line time, (∀ cookie, Cookie.read? line = some cookie → cookie.name ≠ name ∧
        cookie.Enclosed ∧ ∀ other ∈ (written writes).live now, other.name = cookie.name →
          other.Enclosed) →
      Cookie.find? ((written (writes ++ [(line, time)])).line now) name =
        Cookie.find? ((written writes).line now) name := by
  have sound := sound_written writes
  refine ⟨find?_line_eq _ now name, find?_line_of_enclosed sound (distinct_written writes) apart,
    fun line time enclosed => ?_⟩
  rw [written, List.foldl_concat]
  exact find?_line_write_of_ne sound apart enclosed

/-- Two cookies with escapes in their values. -/
def accents : List (Text × ClockTime) :=
  [("a=x%20y".toList, 0), ("b=%C3%A9; path=/".toList, 0)]

/-- The second is read as the letter that it stands for, also after the first was written anew
with an escaped equals sign. -/
theorem find?_line_written_accents :
    '=' ∉ ['b'] ∧ Cookie.find? ((written accents).line 0) ['b'] = some ['é'] ∧
      Cookie.find? ((written (accents ++ [("a=%3D".toList, 0)])).line 0) ['b'] = some ['é'] := by
  have apart : '=' ∉ ['b'] := by decide
  have live : (written accents).live 0 =
      [⟨['a'], "x%20y".toList, none⟩, ⟨['b'], "%C3%A9".toList, none⟩] := by decide +kernel
  have all : ∀ cookie ∈ (written accents).live 0, cookie.Enclosed := by
    rw [live]
    decide +kernel
  obtain ⟨_, enclosed, writing⟩ := find?_line_written accents 0 apart
  have found := (enclosed all).1 ⟨['b'], "%C3%A9".toList, none⟩ (by simp [live]) rfl
  have letter : Percent.decodeLossy "%C3%A9".toList = ['é'] := by decide +kernel
  rw [letter] at found
  refine ⟨apart, found, (writing _ 0 ?_).trans found⟩
  intro cookie read
  have other : Cookie.read? "a=%3D".toList = some ⟨['a'], "%3D".toList, none⟩ := by
    decide +kernel
  obtain rfl := Option.some.inj (other.symm.trans read)
  exact ⟨by decide, by decide +kernel, fun replaced listed _ => all replaced listed⟩

/-- A cookie with an escaped semicolon in its value smuggles in another one: none of the name is
there, and none was found before, but one is found. -/
theorem find?_line_smuggled :
    (∀ cookie ∈ (written [("a=x%3B b=y".toList, 0)]).live 0, cookie.name ≠ ['b']) ∧
      Cookie.find? ((written []).line 0) ['b'] = none ∧
      Cookie.find? ((written [("a=x%3B b=y".toList, 0)]).line 0) ['b'] = some ['y'] := by
  decide +kernel

end CookieJar

end Polyglot
