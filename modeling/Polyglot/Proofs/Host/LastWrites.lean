import Polyglot.Proofs.Host.OneByOne

/-!
# What a jar holds is what was last written to it

A line is a write of a cookie if its first part has an equals sign. The cookie ends at the first
date that the other parts of the line name, and has no end if none of them names one
(`Cookie.Writes`). Any other line is no write, and a jar does not change for it.

Of the writes of a name only the last one counts. It leaves its cookie in the jar unless that had
ended by then (`CookieJar.Remains`), whatever was written earlier and in whatever order the
times of the writes are. So a jar holds no two cookies of a name, and the line that it shows is
that of the cookies that remain and have not ended, in the order of the writes that left them
(`CookieJar.line_written`).
-/

set_option autoImplicit false

namespace Polyglot

namespace Cookie

/-! ## What a line writes -/

/-- A part of a line that names an end. -/
def Dates (part : Text) (ends : Instant) : Prop :=
  ∃ key stamp, part = key ++ '=' :: stamp ∧ '=' ∉ key ∧
    Text.equalsIgnoringCase (Text.trim key) "expires".toList = true ∧
      Stamp.read? (Text.trim stamp) = some ends

/-- The first end that is named by parts of a line. -/
def FirstDate (parts : List Text) (ends : Instant) : Prop :=
  ∃ before part after, parts = before ++ part :: after ∧ Dates part ends ∧
    ∀ other ∈ before, ∀ date, ¬ Dates other date

/-- A line taken apart at its semicolons, and its first part at its first equals sign. -/
structure Parted (line name value : Text) (parts : List Text) : Prop where
  line_eq : line = Text.joined [';'] ((name ++ '=' :: value) :: parts)
  whole : ∀ part ∈ (name ++ '=' :: value) :: parts, ';' ∉ part
  apart : '=' ∉ name

/-- A line that is a write of a cookie: its first part is the name and the value, blanks around
them left out, and the first date among the other parts is the end. -/
def Writes (line : Text) (cookie : Cookie) : Prop :=
  ∃ name value parts, Parted line name value parts ∧
    cookie.name = Text.trim name ∧ cookie.value = Text.trim value ∧
      ∀ ends, cookie.ends? = some ends ↔ FirstDate parts ends

theorem endOf?_eq_some_iff {part : Text} {ends : Instant} :
    endOf? part = some ends ↔ Dates part ends := by
  rw [endOf?]
  constructor
  · intro named
    cases cut : Text.cut? '=' part with
    | none => simp [cut] at named
    | some sides =>
      obtain ⟨key, stamp⟩ := sides
      obtain ⟨apart, whole⟩ := Text.cut?_eq_some_iff.mp cut
      simp only [cut, Option.ite_none_right_eq_some] at named
      exact ⟨key, stamp, whole, apart, named⟩
  · rintro ⟨key, stamp, whole, apart, expires, read⟩
    rw [Text.cut?_eq_some_iff.mpr ⟨apart, whole⟩]
    exact (if_pos expires).trans read

theorem findSome?_endOf?_eq_some_iff {parts : List Text} {ends : Instant} :
    parts.findSome? endOf? = some ends ↔ FirstDate parts ends := by
  simp only [List.findSome?_eq_some_iff, FirstDate, ← endOf?_eq_some_iff,
    ← Option.eq_none_iff_forall_ne_some]

/-- **A line is read as the cookie that it is a write of**, and as none if it is no write. -/
theorem read?_eq_some_iff {line : Text} {cookie : Cookie} :
    read? line = some cookie ↔ Writes line cookie := by
  constructor
  · intro read
    rw [read?] at read
    cases pieces : Text.pieces ';' line with
    | nil => exact absurd pieces (Text.pieces_ne_nil line)
    | cons first parts =>
      simp only [pieces, Option.map_eq_some_iff] at read
      obtain ⟨⟨name, value⟩, cut, rfl⟩ := read
      obtain ⟨apart, rfl⟩ := Text.cut?_eq_some_iff.mp cut
      have parted : Parted line name value parts :=
        { line_eq := by rw [← pieces, Text.joined_pieces]
          whole := pieces ▸ Text.not_mem_of_mem_pieces
          apart := apart }
      exact ⟨name, value, parts, parted, rfl, rfl, fun _ => findSome?_endOf?_eq_some_iff⟩
  · rintro ⟨name, value, parts, ⟨rfl, whole, apart⟩, named, valued, ended⟩
    have pieces : Text.pieces ';' (Text.joined [';'] ((name ++ '=' :: value) :: parts)) =
        (name ++ '=' :: value) :: parts :=
      (Text.pieces_joined List.not_mem_nil whole).trans (congrArg _ (List.map_id _))
    have cut : Text.cut? '=' (name ++ '=' :: value) = some (name, value) :=
      Text.cut?_eq_some_iff.mpr ⟨apart, rfl⟩
    have ends : parts.findSome? endOf? = cookie.ends? :=
      Option.ext fun ends => findSome?_endOf?_eq_some_iff.trans (ended ends).symm
    rw [read?, pieces]
    dsimp only
    rw [cut, Option.map_some, ends, ← named, ← valued]

/-- A line without an equals sign in its first part is no write. -/
theorem read?_eq_none_of_not_mem {line : Text} (bare : '=' ∉ line.takeWhile (· != ';')) :
    read? line = none := by
  rw [Option.eq_none_iff_forall_ne_some]
  intro cookie read
  rw [read?] at read
  have first : (Text.pieces ';' line).head? = some (line.takeWhile (· != ';')) :=
    Text.head?_pieces line
  cases pieces : Text.pieces ';' line with
  | nil => exact Text.pieces_ne_nil line pieces
  | cons part parts =>
    rw [pieces, List.head?_cons, Option.some.injEq] at first
    simp only [pieces, Option.map_eq_some_iff] at read
    obtain ⟨⟨name, value⟩, cut, _⟩ := read
    obtain ⟨_, whole⟩ := Text.cut?_eq_some_iff.mp cut
    exact bare (by simp [← first, whole])

end Cookie

namespace CookieJar

/-! ## Last writes -/

variable {writes : List (Text × ClockTime)} {line : Text} {time : ClockTime} {place : Nat}
  {cookie : Cookie}

/-- A cookie that is left of a sequence of writes: one of them, the last of the name, wrote it,
and it had not ended then. -/
structure Remains (writes : List (Text × ClockTime)) (place : Nat) (cookie : Cookie) : Prop where
  written : ∃ line time, writes[place]? = some (line, time) ∧ Cookie.Writes line cookie ∧
    ∀ ends : Instant, ends ∈ cookie.ends? → time < ends
  last : ∀ later line time other, place < later → writes[later]? = some (line, time) →
    Cookie.Writes line other → other.name ≠ cookie.name

theorem Remains.lt_length (remains : Remains writes place cookie) : place < writes.length := by
  obtain ⟨line, time, here, _⟩ := remains.written
  exact (List.getElem?_eq_some_iff.mp here).1

/-- After one more write there is its cookie, and there are those of other names that were there
before. -/
theorem remains_concat : Remains (writes ++ [(line, time)]) place cookie ↔
    (place = writes.length ∧ Cookie.Writes line cookie ∧
      ∀ ends : Instant, ends ∈ cookie.ends? → time < ends) ∨
      (Remains writes place cookie ∧
        ∀ other, Cookie.Writes line other → other.name ≠ cookie.name) := by
  have new : (writes ++ [(line, time)])[writes.length]? = some (line, time) :=
    List.getElem?_concat_length
  have old {index : Nat} (before : index < writes.length) :
      (writes ++ [(line, time)])[index]? = writes[index]? := List.getElem?_append_left before
  have bound {index : Nat} {write : Text × ClockTime}
      (here : (writes ++ [(line, time)])[index]? = some write) :
      index < writes.length ∨ index = writes.length := by
    have inside := (List.getElem?_eq_some_iff.mp here).1
    rw [List.length_append, List.length_singleton] at inside
    omega
  constructor
  · rintro ⟨⟨someLine, someTime, here, writing, lasts⟩, last⟩
    rcases bound here with before | rfl
    · rw [old before] at here
      refine .inr ⟨⟨⟨someLine, someTime, here, writing, lasts⟩, ?_⟩, ?_⟩
      · intro later laterLine laterTime other after there
        have inside := (List.getElem?_eq_some_iff.mp there).1
        exact last later laterLine laterTime other after ((old inside).trans there)
      · exact fun other => last writes.length line time other before new
    · obtain ⟨rfl, rfl⟩ := Prod.mk.inj (Option.some.inj (new.symm.trans here))
      exact .inl ⟨rfl, writing, lasts⟩
  · rintro (⟨rfl, writing, lasts⟩ | ⟨remains, apart⟩)
    · refine ⟨⟨line, time, new, writing, lasts⟩, ?_⟩
      intro later laterLine laterTime other after there
      rcases bound there with before | same <;> omega
    · obtain ⟨someLine, someTime, here, writing, lasts⟩ := remains.written
      refine ⟨⟨someLine, someTime, (old remains.lt_length).trans here, writing, lasts⟩, ?_⟩
      intro later laterLine laterTime other after there
      rcases bound there with before | rfl
      · exact remains.last later laterLine laterTime other after ((old before).symm.trans there)
      · obtain ⟨rfl, rfl⟩ := Prod.mk.inj (Option.some.inj (new.symm.trans there))
        exact apart other

/-- The cookies of a jar, each with the place of the write that left it there. -/
structure Placed (writes : List (Text × ClockTime)) (placed : List (Nat × Cookie)) : Prop where
  cookies : (written writes).cookies = placed.map Prod.snd
  ordered : placed.Pairwise fun one other => one.1 < other.1
  mem_iff : ∀ place cookie, (place, cookie) ∈ placed ↔ Remains writes place cookie

theorem written_concat (writes : List (Text × ClockTime)) (line : Text) (time : ClockTime) :
    written (writes ++ [(line, time)]) = (written writes).write line time :=
  List.foldl_concat ..

theorem placed_nil : Placed [] [] where
  cookies := rfl
  ordered := List.Pairwise.nil
  mem_iff := by
    intro place cookie
    refine iff_of_false List.not_mem_nil fun remains => ?_
    exact absurd remains.lt_length (Nat.not_lt_zero place)

/-- One more line: what it takes the place of goes, and its cookie comes last if it lasts. -/
theorem Placed.concat {placed : List (Nat × Cookie)} (here : Placed writes placed) (line : Text)
    (time : ClockTime) : ∃ placed, Placed (writes ++ [(line, time)]) placed := by
  cases read : Cookie.read? line with
  | none =>
    have silent (other : Cookie) : ¬ Cookie.Writes line other := fun writing => by
      cases read.symm.trans (Cookie.read?_eq_some_iff.mpr writing)
    refine ⟨placed, ?_, here.ordered, fun place cookie => ?_⟩
    · rw [written_concat, write, read]
      exact here.cookies
    · rw [here.mem_iff, remains_concat]
      simp only [silent, false_and, and_false, false_or, false_imp_iff, implies_true, and_true]
  | some new =>
    have writing : ∀ other, Cookie.Writes line other ↔ other = new := fun other => by
      rw [← Cookie.read?_eq_some_iff, read, Option.some.injEq, eq_comm]
    refine ⟨(placed.filter fun entry => entry.2.name != new.name) ++
      if new.isLive time then [(writes.length, new)] else [], ?_, ?_, fun place cookie => ?_⟩
    · rw [written_concat, write_of_read? read, here.cookies, List.map_append, List.filter_map]
      split <;> rfl
    · rw [List.pairwise_append]
      refine ⟨here.ordered.filter _, by split <;> simp, ?_⟩
      intro entry listed newest last
      have remains := (here.mem_iff _ _).mp (List.mem_of_mem_filter listed)
      split at last
      · rw [List.mem_singleton.mp last]
        exact remains.lt_length
      · cases last
    · have newest : (place, cookie) ∈
          (if new.isLive time then [(writes.length, new)] else []) ↔
            place = writes.length ∧ cookie = new ∧
              ∀ ends : Instant, ends ∈ cookie.ends? → time < ends := by
        rw [← Cookie.isLive_iff]
        split
        · next lasts =>
          rw [List.mem_singleton, Prod.mk.injEq]
          refine and_congr_right fun _ => ⟨?_, And.left⟩
          rintro rfl
          exact ⟨rfl, lasts⟩
        · next ended =>
          refine iff_of_false List.not_mem_nil ?_
          rintro ⟨_, rfl, lasts⟩
          exact ended lasts
      rw [List.mem_append, newest, List.mem_filter, here.mem_iff, remains_concat, or_comm]
      simp only [writing, forall_eq, bne_iff_ne, ne_comm]

theorem exists_placed (writes : List (Text × ClockTime)) : ∃ placed, Placed writes placed := by
  induction writes using List.reverseRecOn with
  | nil => exact ⟨[], placed_nil⟩
  | append_singleton writes write ih =>
    obtain ⟨placed, here⟩ := ih
    exact here.concat write.1 write.2

/-- **What is in a jar and what it shows is what was last written to it.** No two of its cookies
have the same name. The line that it shows at a time is that of the cookies that remain of the
writes and have not ended at that time, in the order of their last writes, each name once. And a
line without an equals sign in its first part changes nothing. -/
theorem line_written (writes : List (Text × ClockTime)) (now : ClockTime) :
    ((written writes).cookies.map Cookie.name).Nodup ∧
    (∃ shown : List (Nat × Cookie),
      (∀ place cookie, (place, cookie) ∈ shown ↔
        Remains writes place cookie ∧ ∀ ends : Instant, ends ∈ cookie.ends? → now < ends) ∧
      (shown.Pairwise fun one other => one.1 < other.1) ∧
      (shown.map fun entry => entry.2.name).Nodup ∧
      (written writes).line now =
        Text.joined [';', ' '] (shown.map fun entry => entry.2.shown)) ∧
    ∀ line time, '=' ∉ line.takeWhile (· != ';') →
      written (writes ++ [(line, time)]) = written writes := by
  have distinct : ((written writes).cookies.map Cookie.name).Nodup := distinct_written writes
  refine ⟨distinct, ?_, fun line time bare => ?_⟩
  · obtain ⟨placed, here⟩ := exists_placed writes
    refine ⟨placed.filter fun entry => entry.2.isLive now, fun place cookie => ?_,
      here.ordered.filter _, ?_, ?_⟩
    · rw [List.mem_filter, here.mem_iff, Cookie.isLive_iff]
    · rw [here.cookies, List.map_map] at distinct
      exact distinct.sublist (List.filter_sublist.map _)
    · rw [line_eq, live, here.cookies, List.filter_map, List.map_map]
      rfl
  · rw [written_concat, write, Cookie.read?_eq_none_of_not_mem bare]

/-- The times of the writes may go back, and what was written first may come last. -/
example :
    let writes : List (Text × ClockTime) := [("a=1".toList, 9), ("b = 2".toList, 5),
      ("a=3; expires=soon; Expires=Fri, 02 Jan 1970 00:00:00 GMT".toList, 0), ("c; d=4".toList, 0)]
    (written writes).line 86399 = "b=2; a=3".toList ∧ (written writes).line 86400 = "b=2".toList := by
  decide +kernel

end CookieJar

end Polyglot
