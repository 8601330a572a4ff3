import Polyglot.Proofs.Directive.Search

/-!
# Markers, and directives that move

Every directive begins with a marker, and a marker is a blank followed by letters
that are not blank. So a text without a marker has no directives (`read_of_free`),
and a marker cannot begin in one text and end in another that itself begins with
a marker: whatever of the kind is written behind a text can be cut off again
(`strip_append`).

Directives that are cut off a text with everything behind them say what they said
before (`read_tail`): nothing in front of the first of them had any part in it.
That is what lets a comment carry the directives of the text in front of it.
-/

set_option autoImplicit false

namespace Polyglot

namespace Directive

/-! ## Markers -/

theorem startsWithMarker_iff {text : Text} :
    startsWithMarker text = true ↔
      ∃ c, isBlank c = true ∧ ∃ mark ∈ marks, ∃ body, text = c :: (mark ++ body) := by
  rw [startsWithMarker, Option.isSome_iff_exists]
  constructor
  · rintro ⟨body, found⟩
    obtain ⟨c, blank, mark, known, same⟩ := afterMarker?_eq_some_iff.mp found
    exact ⟨c, blank, mark, known, body, same⟩
  · rintro ⟨c, blank, mark, known, body, same⟩
    exact ⟨body, afterMarker?_eq_some_iff.mpr ⟨c, blank, mark, known, same⟩⟩

theorem startsWithMarker_append {text : Text} (marked : startsWithMarker text = true)
    (more : Text) : startsWithMarker (text ++ more) = true := by
  obtain ⟨c, blank, mark, known, body, rfl⟩ := startsWithMarker_iff.mp marked
  refine startsWithMarker_iff.mpr ⟨c, blank, mark, known, body ++ more, ?_⟩
  rw [List.cons_append, List.append_assoc]

theorem hasMarker_of_startsWithMarker {text : Text} (marked : startsWithMarker text = true) :
    hasMarker text = true := by
  cases text with
  | nil => cases marked
  | cons c rest => rw [hasMarker, marked, Bool.true_or]

/-- A text that can stand behind another without forming a marker with it: it is
empty or begins with a marker of its own. -/
def Detached (text : Text) : Prop :=
  text = [] ∨ startsWithMarker text = true

theorem Detached.append {text more : Text} (first : Detached text) (second : Detached more) :
    Detached (text ++ more) := by
  rcases first with rfl | marked
  · exact second
  · exact .inr (startsWithMarker_append marked more)

/-- No marker begins in one text and ends in a detached one behind it. -/
theorem startsWithMarker_of_append {c : Char} {text suffix : Text} (detached : Detached suffix)
    (marked : startsWithMarker (c :: text ++ suffix) = true) :
    startsWithMarker (c :: text) = true := by
  obtain ⟨b, blank, mark, known, body, same⟩ := startsWithMarker_iff.mp marked
  obtain ⟨rfl, behind⟩ := List.cons.inj same
  rcases List.append_eq_append_iff.mp behind with ⟨excess, inMark, front⟩ | ⟨excess, whole, _⟩
  · -- The mark reaches `excess` into the suffix, whose first character is blank.
    cases excess with
    | nil =>
      rw [List.append_nil] at inMark
      exact startsWithMarker_iff.mpr
        ⟨c, blank, mark, known, [], by rw [← inMark, List.append_nil]⟩
    | cons d excess =>
      rcases detached with rfl | detached
      · cases front
      · obtain ⟨b, blank, _, _, _, rfl⟩ := startsWithMarker_iff.mp detached
        obtain ⟨rfl, _⟩ := List.cons.inj front
        have member : b ∈ mark := by
          rw [inMark]
          exact List.mem_append_right _ List.mem_cons_self
        rw [isBlank_of_mem_mark mark known b member] at blank
        cases blank
  · exact startsWithMarker_iff.mpr ⟨c, blank, mark, known, excess, by rw [whole]⟩

/-- **What is written behind a text without a marker, beginning with a marker, is cut
off again.** -/
theorem strip_append {base suffix : Text} (free : hasMarker base = false)
    (detached : Detached suffix) : strip (base ++ suffix) = base := by
  induction base with
  | nil =>
    rcases detached with rfl | marked
    · rfl
    · cases suffix with
      | nil => rfl
      | cons c rest => rw [List.nil_append, strip, if_pos marked]
  | cons c rest ih =>
    rw [hasMarker, Bool.or_eq_false_iff] at free
    have here : ¬ startsWithMarker (c :: (rest ++ suffix)) = true := fun marked =>
      Bool.eq_false_iff.mp free.1 (startsWithMarker_of_append detached marked)
    rw [List.cons_append, strip, if_neg here, ih free.2]

/-! ## Directives begin with markers -/

theorem startsWithMarker_of_at? {text : Text} {directive : Directive}
    (found : at? text = some directive) : startsWithMarker text = true := by
  unfold at? headAt? at found
  unfold startsWithMarker
  cases marked : afterMarker? text with
  | none => simp [marked] at found
  | some body => rfl

/-- What a directive is written as begins with a marker. -/
theorem startsWithMarker_whole {text : Text} {directive : Directive}
    (found : at? text = some directive) : startsWithMarker directive.whole = true := by
  obtain ⟨c, blank, mark, known, body, rfl⟩ :=
    startsWithMarker_iff.mp (startsWithMarker_of_at? found)
  have marked : afterMarker? (c :: (mark ++ body)) = some body :=
    afterMarker?_eq_some_iff.mpr ⟨c, blank, mark, known, rfl⟩
  simp only [at?, headAt?, marked] at found
  generalize tagged : body.takeWhile (fun c => !isBlank c) = tag at found
  generalize rested : body.dropWhile (fun c => !isBlank c) = rest at found
  have whole : body = tag ++ rest := by
    rw [← tagged, ← rested, List.takeWhile_append_dropWhile]
  cases tag with
  | nil => cases found
  | cons t tag =>
    cases rest with
    | nil => cases found
    | cons b rest =>
      simp only at found
      cases payload : payloadAt rest with
      | nil => simp [payload] at found
      | cons p payload' =>
        simp only [payload, Option.some.injEq] at found
        subst found
        refine startsWithMarker_iff.mpr ⟨c, blank, mark, known, ?_⟩
        have length : (c :: (mark ++ body)).length - rest.length + (p :: payload').length
            = (c :: mark).length + ((t :: tag).length + 1 + (p :: payload').length) := by
          rw [whole]
          simp only [List.length_cons, List.length_append]
          omega
        refine ⟨body.take ((t :: tag).length + 1 + (p :: payload').length), ?_⟩
        rw [length, ← List.cons_append, List.take_length_add_append, List.cons_append]

/-! ## Occurrences -/

/-- The directives of a text, wherever they stand. -/
def found (text : Text) : List Directive :=
  (scan text).map Occurrence.directive

theorem map_directive_scanFrom (text : Text) :
    ∀ first second skip : Nat,
      (scanFrom first skip text).map Occurrence.directive
        = (scanFrom second skip text).map Occurrence.directive := by
  induction text with
  | nil =>
    intro first second skip
    simp [scanFrom]
  | cons c rest ih =>
    intro first second skip
    cases skip with
    | succ skip => exact ih (first + 1) (second + 1) skip
    | zero =>
      cases front : at? (c :: rest) with
      | none =>
        rw [scanFrom_of_none first front, scanFrom_of_none second front]
        exact ih (first + 1) (second + 1) 0
      | some directive =>
        rw [scanFrom_of_some first front, scanFrom_of_some second front, List.map_cons,
          List.map_cons, ih (first + 1) (second + 1)]

/-- A directive that is found stands where it is said to stand. -/
theorem at?_of_mem_scanFrom (text : Text) :
    ∀ {position skip : Nat} {occurrence : Occurrence},
      occurrence ∈ scanFrom position skip text →
        ∃ offset, occurrence.start = position + offset ∧
          at? (text.drop offset) = some occurrence.directive := by
  induction text with
  | nil =>
    intro position skip occurrence member
    simp [scanFrom] at member
  | cons c rest ih =>
    intro position skip occurrence member
    have later : ∀ {skip}, occurrence ∈ scanFrom (position + 1) skip rest →
        ∃ offset, occurrence.start = position + offset ∧
          at? ((c :: rest).drop offset) = some occurrence.directive := by
      intro skip member
      obtain ⟨offset, start, stands⟩ := ih member
      refine ⟨offset + 1, ?_, stands⟩
      rw [start]
      omega
    cases skip with
    | succ skip => exact later member
    | zero =>
      cases front : at? (c :: rest) with
      | none =>
        rw [scanFrom_of_none position front] at member
        exact later member
      | some directive =>
        rw [scanFrom_of_some position front] at member
        rcases List.mem_cons.mp member with rfl | member
        · exact ⟨0, rfl, front⟩
        · exact later member

theorem at?_of_mem_scan {text : Text} {occurrence : Occurrence} (listed : occurrence ∈ scan text) :
    at? (text.drop occurrence.start) = some occurrence.directive := by
  rw [scan_eq] at listed
  obtain ⟨offset, start, stands⟩ := at?_of_mem_scanFrom text listed
  rwa [start, Nat.zero_add]

/-- Nothing is missed by starting the search later, but not behind the first
directive. -/
theorem map_directive_scanFrom_drop (count : Nat) :
    ∀ (text : Text) (position : Nat),
      (∀ occurrence, (scanFrom position 0 text).head? = some occurrence →
        position + count ≤ occurrence.start) →
      (scanFrom position 0 (text.drop count)).map Occurrence.directive
        = (scanFrom position 0 text).map Occurrence.directive := by
  induction count with
  | zero =>
    intro text position behind
    rw [List.drop_zero]
  | succ count ih =>
    intro text position behind
    cases text with
    | nil => rw [List.drop_nil]
    | cons c rest =>
      have front : at? (c :: rest) = none := by
        cases front : at? (c :: rest) with
        | none => rfl
        | some directive =>
          rw [scanFrom_of_some position front] at behind
          have least : position + (count + 1) ≤ position := behind _ rfl
          omega
      rw [scanFrom_of_none position front] at behind ⊢
      have moved := ih rest (position + 1) fun occurrence head => by
        have least := behind occurrence head
        omega
      rw [← moved, List.drop_succ_cons]
      exact map_directive_scanFrom _ _ _ 0

end Directive

/-! ## Searching -/

namespace Text

variable {test : Text → Bool}

/-- What is found stands where it is said to stand. -/
theorem test_of_firstWhere? {text : Text} :
    ∀ {index : Nat}, firstWhere? test text = some index → test (text.drop index) = true := by
  induction text with
  | nil =>
    intro index found
    cases found
  | cons c rest ih =>
    intro index found
    rw [firstWhere?] at found
    split at found
    · next here =>
      cases found
      exact here
    · obtain ⟨before, later, rfl⟩ := Option.map_eq_some_iff.mp found
      exact ih later

/-- Nothing is missed by starting the search later, but not behind the first place. -/
theorem isSome_firstWhere?_drop (count : Nat) :
    ∀ text : Text, (∀ index, firstWhere? test text = some index → count ≤ index) →
      (firstWhere? test (text.drop count)).isSome = (firstWhere? test text).isSome := by
  induction count with
  | zero =>
    intro text behind
    rw [List.drop_zero]
  | succ count ih =>
    intro text behind
    cases text with
    | nil => rw [List.drop_nil]
    | cons c rest =>
      have here : ¬ test (c :: rest) = true := fun here => by
        have least : count + 1 ≤ 0 := behind 0 (by rw [firstWhere?, if_pos here])
        omega
      have later : firstWhere? test (c :: rest) = (firstWhere? test rest).map (· + 1) := by
        rw [firstWhere?, if_neg here]
      rw [List.drop_succ_cons, later, Option.isSome_map]
      refine ih rest fun index found => ?_
      have least := behind (index + 1) (by rw [later, found, Option.map_some])
      omega

end Text

/-! ## Texts without markers -/

namespace Directive

theorem startsWithMarker_of_startsWithIgnore {text : Text}
    (ignore : startsWithIgnore text = true) : startsWithMarker text = true := by
  unfold startsWithIgnore at ignore
  unfold startsWithMarker
  cases marked : afterMarker? text with
  | none => simp [marked] at ignore
  | some body => rfl

theorem scanFrom_of_free {text : Text} :
    ∀ position : Nat, hasMarker text = false → scanFrom position 0 text = [] := by
  induction text with
  | nil =>
    intro position free
    rw [scanFrom]
  | cons c rest ih =>
    intro position free
    rw [hasMarker, Bool.or_eq_false_iff] at free
    have front : at? (c :: rest) = none := by
      cases front : at? (c :: rest) with
      | none => rfl
      | some directive =>
        exact absurd (startsWithMarker_of_at? front) (Bool.eq_false_iff.mp free.1)
    rw [scanFrom_of_none position front, ih (position + 1) free.2]

theorem firstWhere?_ignore_of_free {text : Text} (free : hasMarker text = false) :
    Text.firstWhere? startsWithIgnore text = none := by
  induction text with
  | nil => rfl
  | cons c rest ih =>
    rw [hasMarker, Bool.or_eq_false_iff] at free
    have here : ¬ startsWithIgnore (c :: rest) = true := fun here =>
      Bool.eq_false_iff.mp free.1 (startsWithMarker_of_startsWithIgnore here)
    rw [Text.firstWhere?, if_neg here, ih free.2, Option.map_none]

end Directive

namespace Directives

open Directive

variable {text : Text}

/-- **A text without a marker has no directives.** -/
theorem read_of_free (free : hasMarker text = false) : read text = Directives.none := by
  have nothing : scan text = [] := (scan_eq text).trans (scanFrom_of_free 0 free)
  simp only [read, nothing, firstWhere?_ignore_of_free free]
  rfl

theorem present_of_free (free : hasMarker text = false) : (read text).present = false := by
  rw [read_of_free free]
  rfl

/-! ## What directives say -/

theorem data_read :
    (read text).data = (found text).filterMap fun directive =>
      if directive.kind? = some .data then DataPair.ofPayload? directive.payload
      else Option.none := by
  simp only [read, found, List.filterMap_map]
  rfl

theorem keySuffix_read :
    (read text).keySuffix = (found text).flatMap fun directive =>
      if directive.kind? = some .key then directive.whole else [] := by
  simp only [read, found, List.flatMap_map]

theorem ignored_read :
    (read text).ignored = ((Text.firstWhere? startsWithIgnore text).isSome ||
      (found text).any fun directive => directive.kind? == some .ignore) := by
  simp only [read, found, List.any_map]
  rfl

theorem start?_read :
    (read text).start? = earlier? ((scan text).head?.map Occurrence.start)
      (Text.firstWhere? startsWithIgnore text) := rfl

theorem present_read :
    (read text).present = (!(scan text).isEmpty || (read text).ignored) := rfl

/-- The key suffix is written with markers in front. -/
theorem detached_keySuffix (text : Text) : Detached (read text).keySuffix := by
  have wholes : ∀ directive ∈ found text, startsWithMarker directive.whole = true := by
    intro directive member
    obtain ⟨occurrence, listed, rfl⟩ := List.mem_map.mp member
    exact startsWithMarker_whole (at?_of_mem_scan listed)
  rw [keySuffix_read]
  generalize found text = directives at wholes
  induction directives with
  | nil => exact .inl rfl
  | cons directive rest ih =>
    rw [List.flatMap_cons]
    refine Detached.append ?_ (ih fun other member => wholes other (List.mem_cons_of_mem _ member))
    split
    · exact .inr (wholes directive List.mem_cons_self)
    · exact .inl rfl

theorem earlier?_le {first second : Option Nat} {least : Nat}
    (earliest : earlier? first second = some least) :
    (∀ place, first = some place → least ≤ place) ∧
      (∀ place, second = some place → least ≤ place) ∧
        (first = some least ∨ second = some least) := by
  cases first with
  | none =>
    have same : second = some least := earliest
    refine ⟨nofun, fun place also => ?_, .inr same⟩
    rw [same] at also
    cases also
    exact Nat.le_refl _
  | some a =>
    cases second with
    | none =>
      cases earliest
      exact ⟨fun place same => Nat.le_of_eq (Option.some.inj same), nofun, .inl rfl⟩
    | some b =>
      cases earliest
      refine ⟨fun place same => ?_, fun place same => ?_, ?_⟩
      · cases same
        exact Nat.min_le_left a b
      · cases same
        exact Nat.min_le_right a b
      · rcases Nat.le_total a b with le | le
        · exact .inl (by rw [Nat.min_eq_left le])
        · exact .inr (by rw [Nat.min_eq_right le])

/-- Directives that are present have a start. -/
theorem exists_start (present : (read text).present = true) :
    ∃ start, (read text).start? = some start := by
  rw [start?_read]
  cases mark : Text.firstWhere? startsWithIgnore text with
  | some place =>
    cases (scan text).head?.map Occurrence.start with
    | none => exact ⟨place, rfl⟩
    | some other => exact ⟨min other place, rfl⟩
  | none =>
    cases listed : scan text with
    | nil =>
      rw [present_read, ignored_read, mark] at present
      simp [listed, found] at present
    | cons occurrence rest => exact ⟨occurrence.start, rfl⟩

theorem present_of_start {start : Nat} (begins : (read text).start? = some start) :
    (read text).present = true := by
  rw [start?_read] at begins
  obtain ⟨_, _, either⟩ := earlier?_le begins
  rw [present_read, ignored_read, Bool.or_eq_true]
  rcases either with first | mark
  · refine .inl ?_
    cases listed : scan text with
    | nil =>
      rw [listed] at first
      cases first
    | cons occurrence rest => rfl
  · rw [mark]
    exact .inr rfl

/-- A text without directives is readable as a whole. -/
theorem baseText_of_absent (absent : (read text).present = false) :
    (read text).baseText text = text := by
  cases begins : (read text).start? with
  | none => rw [baseText, begins]
  | some start =>
    rw [present_of_start begins] at absent
    cases absent

/-- **Directives that are cut off a text say what they said in it**, and begin with a
marker. -/
theorem read_tail {start : Nat} (begins : (read text).start? = some start) :
    (read (text.drop start)).data = (read text).data ∧
      (read (text.drop start)).ignored = (read text).ignored ∧
      (read (text.drop start)).keySuffix = (read text).keySuffix ∧
      startsWithMarker (text.drop start) = true := by
  rw [start?_read] at begins
  obtain ⟨beforeFirst, beforeMark, either⟩ := earlier?_le begins
  have directives : found (text.drop start) = found text := by
    rw [found, found, scan_eq, scan_eq]
    refine map_directive_scanFrom_drop start text 0 fun occurrence head => ?_
    have least := beforeFirst occurrence.start (by rw [scan_eq, head, Option.map_some])
    omega
  have marks := Text.isSome_firstWhere?_drop start text beforeMark
  refine ⟨?_, ?_, ?_, ?_⟩
  · rw [data_read, data_read, directives]
  · rw [ignored_read, ignored_read, directives, marks]
  · rw [keySuffix_read, keySuffix_read, directives]
  · rcases either with first | mark
    · obtain ⟨occurrence, head, rfl⟩ := Option.map_eq_some_iff.mp first
      exact startsWithMarker_of_at? (at?_of_mem_scan (List.mem_of_mem_head? head))
    · exact startsWithMarker_of_startsWithIgnore (Text.test_of_firstWhere? mark)

end Directives

end Polyglot
