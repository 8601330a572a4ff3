import Polyglot.Proofs.Host.Cookies

/-!
# How long a cookie is shown

A cookie that is composed for a number of days ends that many days from now. The line that
writes it carries the end as a stamp, and the stamp is read back as the very same instant, in
any year that the calendar has (`Stamp.read?_write`). So the jar takes the cookie exactly if it
was composed for a day at least, and shows it exactly until its days are over; all other
cookies are shown as before (`CookieJar.line_write_compose?`).
-/

set_option autoImplicit false

namespace Polyglot

/-- Days can be added to an instant exactly if they are not too many for it and lead to a day
of the calendar. -/
theorem Instant.isSome_addDays?_iff {instant : Instant} {days : Int} :
    (instant.addDays? days).isSome = true ↔
      days.natAbs ≤ maxDays ∧ (instant + days * daySeconds).InCalendar := by
  rw [addDays?, InCalendar]
  split_ifs with far reached
  · exact iff_of_false Bool.false_ne_true fun near => absurd near.1 (Nat.not_le.mpr far)
  · exact iff_of_true rfl ⟨Nat.not_lt.mp far, reached⟩
  · exact iff_of_false Bool.false_ne_true fun near => reached near.2

namespace CookieJar

variable {name value : Text}

/-- **What a jar shows after a composed line was written to it**: the other cookies that are
live, and behind them the new one until its days are over. -/
theorem line_write_of_compose? (apart : '=' ∉ name) (whole : ';' ∉ name) (whole' : ';' ∉ value)
    {line : Text} {days : Int} {now : ClockTime}
    (composed : Cookie.compose? name value days now = some line) (jar : CookieJar)
    (later : ClockTime) :
    (jar.write line now).line later = Text.joined [';', ' ']
      ((((jar.live later).filter fun other => other.name != Text.trim name).map Cookie.shown) ++
        if 0 < days ∧ later < now.instant + days * Instant.daySeconds then
          [Text.trim name ++ '=' :: Text.trim value]
        else []) := by
  obtain ⟨ends, added, read⟩ := Cookie.read?_compose? apart whole whole' composed
  obtain ⟨rfl, _⟩ := Instant.addDays?_eq_some added
  have lasts : (Cookie.mk (Text.trim name) (Text.trim value)
      (some (now.instant + days * Instant.daySeconds))).isLive now = true ↔ 0 < days := by
    have positive : 0 < Instant.daySeconds := by decide
    simp only [Cookie.isLive_iff, Option.mem_some_iff, forall_eq']
    rw [ClockTime.lt_iff_instant_lt, lt_add_iff_pos_right, mul_pos_iff_of_pos_right positive]
  have lastsStill : (Cookie.mk (Text.trim name) (Text.trim value)
      (some (now.instant + days * Instant.daySeconds))).isLive later = true ↔
        later < now.instant + days * Instant.daySeconds := by
    simp only [Cookie.isLive_iff, Option.mem_some_iff, forall_eq']
  rw [line_eq, live_write read, List.map_append]
  simp only [lasts, lastsStill]
  split <;> rfl

/-- **A composed cookie lives exactly its days.** Where the calendar reaches to its end, a line
is composed for it. When that is written to a jar, whatever is in it, the jar shows the trimmed
name and value exactly until a positive number of days is over, and each cookie of another name
as it did before. For the end that the line states is read back as the same instant, which it
is for every instant that the calendar has. -/
theorem line_write_compose? (apart : '=' ∉ name) (whole : ';' ∉ name) (whole' : ';' ∉ value)
    (days : Int) (now : ClockTime) :
    ((Cookie.compose? name value days now).isSome = true ↔
      days.natAbs ≤ Instant.maxDays ∧ (now.instant + days * Instant.daySeconds).InCalendar) ∧
    (∀ line, Cookie.compose? name value days now = some line →
      ∀ (jar : CookieJar) (later : ClockTime),
        (jar.write line now).line later = Text.joined [';', ' ']
          ((((jar.live later).filter fun other => other.name != Text.trim name).map
              Cookie.shown) ++
            if 0 < days ∧ later < now.instant + days * Instant.daySeconds then
              [Text.trim name ++ '=' :: Text.trim value]
            else [])) ∧
    ∀ ends : Instant, ends.InCalendar → Stamp.read? (Stamp.write ends) = some ends := by
  refine ⟨?_, fun line composed => line_write_of_compose? apart whole whole' composed,
    fun ends => Stamp.read?_write⟩
  rw [Cookie.compose?, Option.isSome_map, Instant.isSome_addDays?_iff]

/-- A jar with a cookie in it. -/
def greeted : CookieJar :=
  empty.write "hi=there".toList 0

/-- A cookie that is composed for a day in the last second of the year 9999 is shown until that
second has come again, in a year that is written with a sign. -/
theorem line_write_compose?_millennium :
    '=' ∉ " lang".toList ∧ ';' ∉ " lang".toList ∧ ';' ∉ "en=GB ".toList ∧
      ∃ line, Cookie.compose? " lang".toList "en=GB ".toList 1 253402300799 = some line ∧
        line = " lang=en=GB ; expires=Sat, 01 Jan +10000 23:59:59 GMT".toList ∧
        (greeted.write line 253402300799).line 253402387198 = "hi=there; lang=en=GB".toList ∧
        (greeted.write line 253402300799).line 253402387199 = "hi=there".toList := by
  have apart : '=' ∉ " lang".toList := by decide
  have whole : ';' ∉ " lang".toList := by decide
  have whole' : ';' ∉ "en=GB ".toList := by decide
  have composed : Cookie.compose? " lang".toList "en=GB ".toList 1 253402300799 =
      some " lang=en=GB ; expires=Sat, 01 Jan +10000 23:59:59 GMT".toList := by decide +kernel
  obtain ⟨_, writing, _⟩ := line_write_compose? apart whole whole' 1 253402300799
  refine ⟨apart, whole, whole', _, composed, rfl, ?_, ?_⟩
  all_goals
    rw [writing _ composed]
    decide +kernel

end CookieJar

end Polyglot
