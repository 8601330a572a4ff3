import Mathlib.Order.Bounds.Basic
import Polyglot.Proofs.Directive.Placeholders
import Polyglot.Proofs.Encoding.Utf8

/-!
# The grammar of directives

What a directive is can be said without saying how it is found. At the front of a text there
is a blank, a mark, a tag that goes on to the next blank, that blank, and a payload that is
not empty (`Opens`). The payload is the longest run of characters none of which ends the line
or stands directly before a marker word (`IsPayload`). The directives of a text are those of
the leftmost scan (`Leftmost`): each stands at the first place behind the one before where a
directive opens, and none opens behind the last.

The scan finds these directives and no others (`scan_eq_iff`), and what all of them say
together is read off them: `Directives.read_grammar`. Each stands in the text where the offsets
say that the search has for it, and these lie between characters (`Find.StandsIn.boundaries`).
What is readable of a text ends at the first place where a directive opens or an ignore mark
stands, which needs no payload (`Directives.start?_eq_some_iff`).
-/

set_option autoImplicit false

namespace Polyglot

/-! ## Tags and pairs -/

namespace DirectiveKind

/-- The tags that stand for a kind, the long and the short one. -/
def tags : DirectiveKind → List Text
  | .key => [['K', 'E', 'Y'], ['K']]
  | .data => [['D', 'A', 'T', 'A'], ['D']]
  | .ignore => [['I', 'G', 'N', 'O', 'R', 'E'], ['I']]

theorem ofTag?_eq_some_iff {tag : Text} {kind : DirectiveKind} :
    ofTag? tag = some kind ↔ tag ∈ kind.tags := by
  constructor
  · intro found
    rw [ofTag?] at found
    split at found
    · next key =>
      cases found
      simpa [tags] using key
    · split at found
      · next data =>
        cases found
        simpa [tags] using data
      · split at found
        · next ignore =>
          cases found
          simpa [tags] using ignore
        · cases found
  · intro known
    have all : ∀ kind : DirectiveKind, ∀ tag ∈ kind.tags, ofTag? tag = some kind := by
      rintro (_ | _ | _) <;> decide
    exact all kind tag known

end DirectiveKind

namespace DataPair

/-- A payload that gives a pair as `name=value`: the name ends at the first equals sign, and
there is something left of it without the blanks around it. -/
def Gives (payload : Text) (pair : DataPair) : Prop :=
  ∃ name, '=' ∉ name ∧ payload = name ++ '=' :: pair.value ∧ Text.trim name = pair.name ∧
    pair.name ≠ []

theorem ofPayload?_eq_some_iff {payload : Text} {pair : DataPair} :
    ofPayload? payload = some pair ↔ Gives payload pair := by
  constructor
  · intro read
    rw [ofPayload?] at read
    split at read
    · cases read
    · next name value cut =>
      split at read
      · cases read
      · next named =>
        cases read
        obtain ⟨apart, rfl⟩ := Text.cut?_eq_some_iff.mp cut
        exact ⟨name, apart, rfl, rfl, fun empty => named (List.isEmpty_iff.mpr empty)⟩
  · rintro ⟨name, apart, rfl, trimmed, named⟩
    have cut := Text.cut?_eq_some_iff.mpr (And.intro apart (Eq.refl (name ++ '=' :: pair.value)))
    have filled : ¬ pair.name.isEmpty = true := fun empty => named (List.isEmpty_iff.mp empty)
    rw [ofPayload?, cut]
    simp only [trimmed, if_neg filled]

end DataPair

namespace Directive

/-! ## Payloads -/

/-- A run of characters at the front of a text none of which ends the line or stands directly
before a marker word. -/
def Unbroken (text run : Text) : Prop :=
  run <+: text ∧ ∀ front c, front ++ [c] <+: run →
    isLineEnd c = false ∧ ¬ front ++ c :: markerWord <+: text

/-- The payload at the front of a text is the longest run that is unbroken. -/
structure IsPayload (text payload : Text) : Prop where
  unbroken : Unbroken text payload
  longest : ∀ run, Unbroken text run → run.length ≤ payload.length

theorem unbroken_nil (text : Text) : Unbroken text [] := by
  refine ⟨List.nil_prefix, ?_⟩
  intro front c begins
  simp at begins

/-- Whether a run may begin with a character is seen from what follows the character. -/
theorem unbroken_cons {c : Char} {rest run : Text} :
    Unbroken (c :: rest) (c :: run) ↔
      (isLineEnd c = false ∧ ¬ markerWord <+: rest) ∧ Unbroken rest run := by
  constructor
  · rintro ⟨inText, holds⟩
    obtain ⟨sameLine, apart⟩ := holds [] c ((List.prefix_cons_inj c).mpr List.nil_prefix)
    rw [List.nil_append, List.prefix_cons_inj] at apart
    refine ⟨⟨sameLine, apart⟩, (List.prefix_cons_inj c).mp inText, ?_⟩
    intro front d begins
    have further := holds (c :: front) d ((List.prefix_cons_inj c).mpr begins)
    rwa [List.cons_append, List.prefix_cons_inj] at further
  · rintro ⟨⟨sameLine, apart⟩, inText, holds⟩
    refine ⟨(List.prefix_cons_inj c).mpr inText, ?_⟩
    intro front d begins
    cases front with
    | nil =>
      obtain ⟨rfl, _⟩ := List.cons_prefix_cons.mp begins
      exact ⟨sameLine, fun marked => apart ((List.prefix_cons_inj d).mp marked)⟩
    | cons b front =>
      obtain ⟨rfl, behind⟩ := List.cons_prefix_cons.mp begins
      rw [List.cons_append, List.prefix_cons_inj]
      exact holds front d behind

/-- A payload goes on with the next character just if a run may. -/
theorem payloadAt_cons_ne_nil_iff {c : Char} {rest : Text} :
    payloadAt (c :: rest) ≠ [] ↔ isLineEnd c = false ∧ ¬ markerWord <+: rest := by
  have marked : Text.startsWith markerWord rest = true ↔ markerWord <+: rest := by
    rw [Text.startsWith_iff]
    exact exists_congr fun _ => eq_comm
  rw [payloadAt, ← marked]
  cases isLineEnd c <;> cases Text.startsWith markerWord rest <;> simp

theorem payloadAt_cons {c : Char} {rest : Text}
    (goesOn : isLineEnd c = false ∧ ¬ markerWord <+: rest) :
    payloadAt (c :: rest) = c :: payloadAt rest := by
  have filled := payloadAt_cons_ne_nil_iff.mpr goesOn
  rw [payloadAt] at filled ⊢
  split
  · next stops => exact absurd (if_pos stops) filled
  · rfl

theorem unbroken_payloadAt (text : Text) : Unbroken text (payloadAt text) := by
  induction text with
  | nil => exact unbroken_nil []
  | cons c rest ih =>
    by_cases goesOn : isLineEnd c = false ∧ ¬ markerWord <+: rest
    · rw [payloadAt_cons goesOn]
      exact unbroken_cons.mpr ⟨goesOn, ih⟩
    · rw [not_ne_iff.mp (payloadAt_cons_ne_nil_iff.not.mpr goesOn)]
      exact unbroken_nil _

/-- No unbroken run reaches further than the payload. -/
theorem Unbroken.prefix_payloadAt {text run : Text} (unbroken : Unbroken text run) :
    run <+: payloadAt text := by
  induction run generalizing text with
  | nil => exact List.nil_prefix
  | cons c run ih =>
    obtain ⟨rest, rfl⟩ := unbroken.1
    rw [List.cons_append] at unbroken ⊢
    obtain ⟨goesOn, further⟩ := unbroken_cons.mp unbroken
    rw [payloadAt_cons goesOn]
    exact (List.prefix_cons_inj c).mpr (ih further)

theorem payloadAt_eq_iff {text payload : Text} :
    payloadAt text = payload ↔ IsPayload text payload := by
  constructor
  · rintro rfl
    exact ⟨unbroken_payloadAt text, fun run unbroken => unbroken.prefix_payloadAt.length_le⟩
  · rintro ⟨unbroken, longest⟩
    exact (unbroken.prefix_payloadAt.eq_of_length_le
      (longest _ (unbroken_payloadAt text))).symm

/-! ## One directive -/

/-- A directive that opens a text: a blank, a mark, the tag, which has no blanks in it, the
blank that ends the tag, and the payload. -/
inductive Opens : Text → Directive → Prop where
  | intro {blank gap : Char} {mark tag payload rest : Text}
    (leading : isBlank blank = true) (known : mark ∈ marks) (tagged : tag ≠ [])
    (solid : ∀ c ∈ tag, isBlank c = false) (ends : isBlank gap = true)
    (filled : payload ≠ []) (reaches : IsPayload rest payload) :
    Opens (blank :: (mark ++ (tag ++ gap :: rest)))
      ⟨tag, payload, blank :: (mark ++ (tag ++ gap :: payload))⟩

/-- An ignore mark that opens a text and needs no payload: the tag ends with the text or at a
blank. -/
inductive OpensExempt : Text → Prop where
  | intro {blank : Char} {mark tag rest : Text} (leading : isBlank blank = true)
    (known : mark ∈ marks) (tagged : tag ∈ DirectiveKind.ignore.tags)
    (ends : ∀ c ∈ rest.head?, isBlank c = true) :
    OpensExempt (blank :: (mark ++ (tag ++ rest)))

/-- **The directive that is read at the front of a text is the one that opens it.** -/
theorem at?_eq_some_iff {text : Text} {directive : Directive} :
    at? text = some directive ↔ Opens text directive := by
  constructor
  · intro found
    rw [at?] at found
    split at found
    · cases found
    · next tag rest head =>
      split at found
      · cases found
      · next filled =>
        cases found
        obtain ⟨blank, mark, gap, leading, known, tagged, solid, ends, rfl⟩ :=
          headAt?_eq_some_iff.mp head
        have begins := payloadAt_prefix rest
        rw [take_whole begins]
        exact .intro leading known tagged solid ends filled (payloadAt_eq_iff.mp rfl)
  · rintro @⟨blank, gap, mark, tag, payload, rest, leading, known, tagged, solid, ends, filled,
      reaches⟩
    have head := headAt?_eq_some_iff.mpr ⟨blank, mark, gap, leading, known, tagged, solid, ends,
      Eq.refl (blank :: (mark ++ (tag ++ gap :: rest)))⟩
    have said := payloadAt_eq_iff.mpr reaches
    rw [at?, head]
    simp only [said]
    rw [take_whole reaches.unbroken.1]

theorem endsTag_iff {rest : Text} : endsTag rest = true ↔ ∀ c ∈ rest.head?, isBlank c = true := by
  cases rest <;> simp [endsTag]

/-- Whether a tag stands at the front of a text and ends there. -/
theorem any_endsTag_iff {tag body : Text} : (Text.after? tag body).any endsTag = true ↔
    ∃ rest, body = tag ++ rest ∧ ∀ c ∈ rest.head?, isBlank c = true := by
  rw [Option.any_eq_true]
  exact exists_congr fun rest => and_congr Text.after?_eq_some_iff endsTag_iff

/-- **The ignore mark that is read at the front of a text is one that opens it.** -/
theorem startsWithIgnore_iff {text : Text} : startsWithIgnore text = true ↔ OpensExempt text := by
  rw [startsWithIgnore]
  constructor
  · intro found
    split at found
    · cases found
    · next body marked =>
      obtain ⟨blank, leading, mark, known, rfl⟩ := afterMarker?_eq_some_iff.mp marked
      rw [Bool.or_eq_true, any_endsTag_iff, any_endsTag_iff] at found
      rcases found with ⟨rest, rfl, ends⟩ | ⟨rest, rfl, ends⟩
      · exact .intro leading known (by decide) ends
      · exact .intro leading known (by decide) ends
  · rintro @⟨blank, mark, tag, rest, leading, known, tagged, ends⟩
    have marked := afterMarker?_eq_some_iff.mpr
      ⟨blank, leading, mark, known, Eq.refl (blank :: (mark ++ (tag ++ rest)))⟩
    rw [marked]
    simp only [Bool.or_eq_true, any_endsTag_iff]
    simp only [DirectiveKind.tags, List.mem_cons, List.not_mem_nil, or_false] at tagged
    rcases tagged with rfl | rfl
    · exact .inl ⟨rest, rfl, ends⟩
    · exact .inr ⟨rest, rfl, ends⟩

theorem not_opens_nil (directive : Directive) : ¬ Opens [] directive := nofun

/-- What is written of a directive has at least a blank in it. -/
theorem Opens.length_whole_pos {text : Text} {directive : Directive}
    (opens : Opens text directive) : 0 < directive.whole.length := by
  cases opens
  exact Nat.succ_pos _

/-! ## The leftmost scan -/

/-- The directives from a place on that are found by going from the left: the first stands at
the first place where one opens, the others are found behind its end. -/
inductive Leftmost (text : Text) : Nat → List Occurrence → Prop where
  | done {place : Nat} (silent : ∀ later, place ≤ later →
      ∀ directive, ¬ Opens (text.drop later) directive) : Leftmost text place []
  | found {place : Nat} {occurrence : Occurrence} {others : List Occurrence}
    (behind : place ≤ occurrence.start)
    (opens : Opens (text.drop occurrence.start) occurrence.directive)
    (first : ∀ earlier, place ≤ earlier → earlier < occurrence.start →
      ∀ directive, ¬ Opens (text.drop earlier) directive)
    (further : Leftmost text (occurrence.start + occurrence.directive.whole.length) others) :
    Leftmost text place (occurrence :: others)

/-- Where none opens the scan can go on by one place. -/
theorem Leftmost.earlier {text : Text} {place : Nat} {occurrences : List Occurrence}
    (silent : ∀ directive, ¬ Opens (text.drop place) directive)
    (leftmost : Leftmost text (place + 1) occurrences) : Leftmost text place occurrences := by
  cases leftmost with
  | done silentBehind =>
    refine .done ?_
    intro later behind
    rcases Nat.eq_or_lt_of_le behind with rfl | behind
    · exact silent
    · exact silentBehind later behind
  | found behind opens first further =>
    refine .found (Nat.le_of_succ_le behind) opens ?_ further
    intro earlier above below
    rcases Nat.eq_or_lt_of_le above with rfl | above
    · exact silent
    · exact first earlier above below

/-- There is one leftmost scan at most. -/
theorem Leftmost.unique {text : Text} {place : Nat} {occurrences others : List Occurrence}
    (one : Leftmost text place occurrences) (other : Leftmost text place others) :
    occurrences = others := by
  induction one generalizing others with
  | done silent =>
    cases other with
    | done => rfl
    | found behind opens => exact absurd opens (silent _ behind _)
  | @found place occurrence rest behind opens first _ ih =>
    cases other with
    | done silent => exact absurd opens (silent _ behind _)
    | @found _ occurrence' rest' behind' opens' first' further' =>
      have start : occurrence.start = occurrence'.start := by
        rcases Nat.lt_trichotomy occurrence.start occurrence'.start with less | same | more
        · exact absurd opens (first' _ behind less _)
        · exact same
        · exact absurd opens' (first _ behind' more _)
      have directive : occurrence.directive = occurrence'.directive := by
        rw [← start] at opens'
        exact Option.some.inj
          ((at?_eq_some_iff.mpr opens).symm.trans (at?_eq_some_iff.mpr opens'))
      have same : occurrence = occurrence' := by
        cases occurrence
        cases occurrence'
        simp only at start directive
        rw [start, directive]
      subst same
      rw [ih further']

/-- What is found from some place on is found by going from the left. -/
theorem leftmost_scanFrom (text suffix : Text) :
    ∀ position skip : Nat, text.drop position = suffix →
      Leftmost text (position + skip) (scanFrom position skip suffix) := by
  induction suffix with
  | nil =>
    intro position skip here
    rw [scanFrom]
    refine .done ?_
    intro later behind directive opens
    have ended : text.drop later = [] := by
      rw [List.drop_eq_nil_iff] at here ⊢
      omega
    exact not_opens_nil directive (ended ▸ opens)
  | cons c rest ih =>
    intro position skip here
    have next : text.drop (position + 1) = rest := by
      rw [← List.drop_drop, here, List.drop_one, List.tail_cons]
    cases skip with
    | succ skip =>
      have further := ih (position + 1) skip next
      rwa [Nat.add_assoc, Nat.add_comm 1 skip] at further
    | zero =>
      cases front : at? (c :: rest) with
      | none =>
        rw [scanFrom_of_none position front]
        refine .earlier ?_ (ih (position + 1) 0 next)
        intro directive opens
        rw [Nat.add_zero, here, ← at?_eq_some_iff, front] at opens
        cases opens
      | some directive =>
        have opens := at?_eq_some_iff.mp front
        have positive := opens.length_whole_pos
        have further := ih (position + 1) (directive.whole.length - 1) next
        have behind : position + 1 + (directive.whole.length - 1) =
            position + directive.whole.length := by omega
        rw [behind] at further
        rw [scanFrom_of_some position front]
        refine .found (Nat.le_refl _) (here.symm ▸ opens) ?_ further
        intro earlier above below
        exact absurd below (Nat.not_lt.mpr above)

/-- **The scan finds the directives of the leftmost scan and no others.** -/
theorem scan_eq_iff {text : Text} {occurrences : List Occurrence} :
    scan text = occurrences ↔ Leftmost text 0 occurrences := by
  have scanned : Leftmost text 0 (scan text) :=
    (scan_eq text).symm ▸ leftmost_scanFrom text text 0 0 List.drop_zero
  constructor
  · rintro rfl
    exact scanned
  · intro leftmost
    exact scanned.unique leftmost

/-- A text that begins with a directive or with an ignore mark. -/
def Opening (text : Text) : Prop :=
  (∃ directive, Opens text directive) ∨ OpensExempt text

theorem opening_iff {text : Text} :
    ((at? text).isSome || startsWithIgnore text) = true ↔ Opening text := by
  rw [Bool.or_eq_true, startsWithIgnore_iff, Option.isSome_iff_exists]
  exact or_congr_left (exists_congr fun _ => at?_eq_some_iff)

/-! ## Offsets -/

/-- **A directive that is found has its offsets between characters**, each behind the one
before. -/
theorem Find.StandsIn.boundaries {text : Text} {find : Find} (stands : find.StandsIn text) :
    find.offsets.Pairwise (· < ·) ∧ ∀ offset ∈ find.offsets, Utf8.Boundary text offset := by
  obtain @⟨front, lead, tag, payload, behind, gap, whole, led, tagged, filled⟩ := stands
  constructor
  · have positive : ∀ {part : Text}, part ≠ [] → 0 < Text.byteLength part := by
      intro part present
      exact Nat.pos_of_ne_zero fun nothing => present (Text.eq_nil_of_byteLength nothing)
    have lead := positive led
    have tag := positive tagged
    have payload := positive filled
    have gap := positive (List.cons_ne_nil gap [])
    simp only [Text.byteLength_cons, Text.byteLength_nil] at gap
    simp only [Find.offsets, Text.byteLength_append, Text.byteLength_cons, Text.byteLength_nil,
      List.pairwise_cons, List.mem_cons, List.not_mem_nil, or_false, forall_eq_or_imp, forall_eq,
      IsEmpty.forall_iff, implies_true, List.Pairwise.nil, and_true]
    omega
  · intro offset listed
    have cut : ∃ part, part <+: text ∧ Text.byteLength part = offset := by
      simp only [Find.offsets, List.mem_cons, List.not_mem_nil, or_false] at listed
      rw [whole]
      rcases listed with rfl | rfl | rfl | rfl | rfl <;> exact ⟨_, by simp, rfl⟩
    obtain ⟨part, ⟨others, rfl⟩, rfl⟩ := cut
    exact Utf8.boundary_append part others

end Directive

namespace Text

/-- The first place of a text where something holds. -/
theorem firstWhere?_eq_some_iff {test : Text → Bool} (silent : test [] = false) {text : Text} :
    ∀ {place : Nat}, firstWhere? test text = some place ↔
      IsLeast {place | test (text.drop place) = true} place := by
  induction text with
  | nil =>
    intro place
    simp [firstWhere?, IsLeast, silent]
  | cons c rest ih =>
    intro place
    cases here : test (c :: rest) with
    | true =>
      rw [firstWhere?, if_pos here, Option.some.injEq]
      have least : IsLeast {place | test ((c :: rest).drop place) = true} 0 :=
        ⟨here, fun _ _ => Nat.zero_le _⟩
      exact ⟨fun same => same ▸ least, fun other => least.unique other⟩
    | false =>
      rw [firstWhere?, if_neg (Bool.eq_false_iff.mp here), Option.map_eq_some_iff]
      constructor
      · rintro ⟨before, found, rfl⟩
        obtain ⟨holds, least⟩ := ih.mp found
        refine ⟨holds, ?_⟩
        rintro (_ | other) holdsThere
        · exact absurd holdsThere (Bool.eq_false_iff.mp here)
        · exact Nat.succ_le_succ (least holdsThere)
      · rintro ⟨holds, least⟩
        cases place with
        | zero => exact absurd holds (Bool.eq_false_iff.mp here)
        | succ before =>
          refine ⟨before, ih.mpr ⟨holds, ?_⟩, rfl⟩
          intro other holdsThere
          exact Nat.le_of_succ_le_succ (least (show other + 1 ∈ _ from holdsThere))

end Text

namespace Directives

open Directive

variable {text : Text}

/-- The first directive stands at the first place where one opens. -/
theorem head?_scanFrom (text : Text) :
    ∀ position : Nat, (scanFrom position 0 text).head?.map Occurrence.start =
      (Text.firstWhere? (fun suffix => (at? suffix).isSome) text).map (position + ·) := by
  induction text with
  | nil =>
    intro position
    simp [scanFrom, Text.firstWhere?]
  | cons c rest ih =>
    intro position
    cases front : at? (c :: rest) with
    | some directive =>
      rw [scanFrom_of_some position front, Text.firstWhere?, front]
      rfl
    | none =>
      rw [scanFrom_of_none position front, ih (position + 1), Text.firstWhere?, front,
        Option.isSome_none, if_neg Bool.false_ne_true, Option.map_map]
      refine Option.map_congr fun place _ => ?_
      simp only [Function.comp_apply]
      omega

/-- The earlier of the first places where one of two things holds is the first where either
does. -/
theorem earlier?_firstWhere? (one other : Text → Bool) (text : Text) :
    earlier? (Text.firstWhere? one text) (Text.firstWhere? other text) =
      Text.firstWhere? (fun suffix => one suffix || other suffix) text := by
  induction text with
  | nil => rfl
  | cons c rest ih =>
    simp only [Text.firstWhere?, ← ih]
    by_cases here : one (c :: rest) = true <;> by_cases also : other (c :: rest) = true <;>
      cases Text.firstWhere? one rest <;> cases Text.firstWhere? other rest <;>
        simp [here, also, earlier?, Nat.add_min_add_right]

/-- **Directives begin at the first place where a directive opens or an ignore mark
stands.** -/
theorem start?_eq_some_iff {place : Nat} :
    (read text).start? = some place ↔ IsLeast {place | Opening (text.drop place)} place := by
  have first := head?_scanFrom text 0
  simp only [Nat.zero_add, Option.map_id'] at first
  rw [start?_read, scan_eq, first, earlier?_firstWhere?, Text.firstWhere?_eq_some_iff rfl]
  simp only [opening_iff]

/-! ## What directives say -/

/-- The directive is one for data, and its payload gives the pair. -/
def Supplies (directive : Directive) (pair : DataPair) : Prop :=
  directive.tag ∈ DirectiveKind.data.tags ∧ DataPair.Gives directive.payload pair

theorem supplies_iff {directive : Directive} {pair : DataPair} :
    Supplies directive pair ↔
      (if directive.kind? = some .data then DataPair.ofPayload? directive.payload
        else Option.none) = some pair := by
  rw [Supplies, ← DirectiveKind.ofTag?_eq_some_iff, ← DataPair.ofPayload?_eq_some_iff, kind?]
  split
  · next data => exact and_iff_right data
  · next other => exact iff_of_false (fun supplies => other supplies.1) nofun

instance (directive : Directive) : Decidable (∃ pair, Supplies directive pair) :=
  decidable_of_iff ((if directive.kind? = some .data then DataPair.ofPayload? directive.payload
    else Option.none).isSome = true) (by
      rw [Option.isSome_iff_exists]
      exact exists_congr fun _ => supplies_iff.symm)

/-- The key directives are written one after the other. -/
theorem keySuffix_eq (text : Text) :
    (read text).keySuffix =
      ((found text).filter fun directive => decide (directive.tag ∈ DirectiveKind.key.tags)).flatMap
        Directive.whole := by
  rw [keySuffix_read]
  induction found text with
  | nil => rfl
  | cons directive rest ih =>
    rw [List.flatMap_cons, ih, List.filter_cons]
    simp only [kind?, DirectiveKind.ofTag?_eq_some_iff, decide_eq_true_eq]
    split
    · rw [List.flatMap_cons]
    · rw [List.nil_append]

/-- The pairs are those that the data directives supply. -/
theorem forall₂_supplies_data (text : Text) :
    List.Forall₂ Supplies
      ((found text).filter fun directive => decide (∃ pair, Supplies directive pair))
      (read text).data := by
  rw [data_read]
  induction found text with
  | nil => exact .nil
  | cons directive rest ih =>
    rw [List.filter_cons, List.filterMap_cons]
    split
    · next supplied =>
      obtain ⟨pair, supplies⟩ := of_decide_eq_true supplied
      rw [supplies_iff.mp supplies]
      exact .cons supplies ih
    · next silent =>
      rw [decide_eq_true_eq] at silent
      split
      · exact ih
      · next pair read => exact absurd ⟨pair, supplies_iff.mpr read⟩ silent

/-- **The grammar of directives.** The directives that are found are those of the
leftmost scan. The search for them goes through, by offsets that are places between characters,
and each stands in the text where its offsets say. The key directives among them
make the key suffix, and the data directives that give a pair as `name=value` make the data,
both in order. The directives begin at the first place where a directive opens or an ignore
mark stands. -/
theorem read_grammar (text : Text) :
    (∀ occurrences, scan text = occurrences ↔ Leftmost text 0 occurrences) ∧
    (∃ finds, search? text 0 = some finds ∧ finds.map (Find.occurrence text) = scan text ∧
      ∀ find ∈ finds, find.StandsIn text ∧ find.offsets.Pairwise (· < ·) ∧
        ∀ offset ∈ find.offsets, Utf8.Boundary text offset) ∧
    (read text).keySuffix =
      ((found text).filter fun directive => decide (directive.tag ∈ DirectiveKind.key.tags)).flatMap
        Directive.whole ∧
    List.Forall₂ Supplies
      ((found text).filter fun directive => decide (∃ pair, Supplies directive pair))
      (read text).data ∧
    ∀ offset, (read text).byteOffset? text = some offset ↔
      ∃ place, IsLeast {place | Opening (text.drop place)} place ∧
        Text.byteLength (text.take place) = offset := by
  refine ⟨fun occurrences => scan_eq_iff, ?_, keySuffix_eq text, forall₂_supplies_data text, ?_⟩
  · obtain ⟨finds, searched, same, standing⟩ := exists_search? text
    refine ⟨finds, searched, same, fun find listed => ?_⟩
    exact ⟨standing find listed, (standing find listed).boundaries⟩
  · intro offset
    rw [byteOffset?, Option.map_eq_some_iff]
    exact exists_congr fun place => and_congr_left fun _ => start?_eq_some_iff

/-- The second head is the payload of the first; a head without a payload, before the line
ends, makes no directive, and the search goes on inside it. -/
example :
    scan "a I18N_I I18N_D v=2 I18N_K \n I18NDOM_X y".toList =
      [⟨1, ⟨"I".toList, "I18N_D v=2".toList, " I18N_I I18N_D v=2".toList⟩⟩,
        ⟨28, ⟨"X".toList, "y".toList, " I18NDOM_X y".toList⟩⟩] := by
  decide

end Directives

end Polyglot
