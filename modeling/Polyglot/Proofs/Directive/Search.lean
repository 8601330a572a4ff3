import Mathlib.Data.List.TakeWhile
import Polyglot.Directive.Scan
import Polyglot.Proofs.Text.Parts

/-!
# The search for directives

The search goes by offsets in bytes and cuts the text at them. Said without offsets, it goes
through the text character by character, and where a directive stands, over all that is
written of it (`scanFrom`).

Both find the same. A turn of the search that begins between two characters goes through and
comes to what the scan comes to (`turn?_append`), and what it comes to lies between two
characters again, so that the search goes through to the end of the text
(`exists_search?_append`). The offsets of what it finds are where the parts of a directive
stand in the text one behind the other (`Find.StandsIn`).
-/

set_option autoImplicit false

namespace Polyglot

/-! ## Cuts -/

namespace Text

/-- The offset behind a character and more is not the beginning, and taking the character off
leaves the offset behind the rest. -/
theorem exists_byteLength_cons (c : Char) (rest : Text) :
    ∃ before, byteLength (c :: rest) = before + 1 ∧ c.utf8Size ≤ before + 1 ∧
      before + 1 - c.utf8Size = byteLength rest := by
  have positive := c.utf8Size_pos
  refine ⟨byteLength (c :: rest) - 1, ?_, ?_, ?_⟩ <;> rw [byteLength_cons] <;> omega

/-- A text can be cut between any two of its parts. -/
theorem cutAt?_append (front behind : Text) :
    cutAt? (byteLength front) (front ++ behind) = some (front, behind) := by
  induction front with
  | nil => cases behind <;> rfl
  | cons c front ih =>
    obtain ⟨before, length, fits, further⟩ := exists_byteLength_cons c front
    rw [length, List.cons_append, cutAt?, if_pos fits, further, ih]
    rfl

theorem behind?_append (front behind : Text) :
    behind? (front ++ behind) (byteLength front) = some behind := by
  rw [behind?, cutAt?_append]
  rfl

theorem between?_append (front part behind : Text) :
    between? (front ++ (part ++ behind)) (byteLength front) (byteLength (front ++ part)) =
      some part := by
  rw [between?, byteLength_append, if_pos (Nat.le_add_right ..), behind?_append, Option.bind_some,
    Nat.add_sub_cancel_left, cutAt?_append]
  rfl

theorem countBefore_append (front behind : Text) :
    countBefore (byteLength front) (front ++ behind) = front.length := by
  induction front with
  | nil => cases behind <;> rfl
  | cons c front ih =>
    obtain ⟨before, length, _, further⟩ := exists_byteLength_cons c front
    rw [length, List.cons_append, countBefore, further, ih, List.length_cons]

end Text

namespace Directive

/-! ## Heads -/

/-- What stands in a marker behind the blank. -/
def marks : List Text :=
  [['I', '1', '8', 'N', '_'], ['I', '1', '8', 'N', 'D', 'O', 'M', '_']]

theorem isBlank_of_mem_mark : ∀ mark ∈ marks, ∀ c ∈ mark, isBlank c = false := by
  have free : (marks.all fun mark => mark.all fun c => !isBlank c) = true := by decide
  intro mark known c inMark
  have here := List.all_eq_true.mp (List.all_eq_true.mp free mark known) c inMark
  exact Bool.not_eq_true' _ ▸ here

/-- A marker is a blank and one of the marks. -/
theorem afterMarker?_eq_some_iff {text body : Text} :
    afterMarker? text = some body ↔
      ∃ c, isBlank c = true ∧ ∃ mark ∈ marks, text = c :: (mark ++ body) := by
  constructor
  · intro found
    cases text with
    | nil => simp [afterMarker?] at found
    | cons c rest =>
      simp only [afterMarker?] at found
      split at found
      · next blank =>
        refine ⟨c, blank, ?_⟩
        split at found
        · next word =>
          cases found
          rw [Text.after?_eq_some_iff.mp word]
          exact ⟨_, List.mem_cons_self, rfl⟩
        · next word =>
          cases found
          rw [Text.after?_eq_some_iff.mp word]
          exact ⟨_, List.mem_cons_of_mem _ List.mem_cons_self, rfl⟩
        · cases found
      · cases found
  · rintro ⟨c, blank, mark, known, rfl⟩
    rcases List.mem_cons.mp known with rfl | known
    · simp [afterMarker?, blank, Text.after?, markerWord]
    · rw [List.mem_singleton.mp known]
      simp [afterMarker?, blank, Text.after?, markerWord]

/-- A run of characters of one kind and the first character behind it that is of another. -/
theorem takeWhile_and_dropWhile_iff {kind : Char → Bool} {text run rest : Text} {c : Char} :
    text.takeWhile kind = run ∧ text.dropWhile kind = c :: rest ↔
      (∀ d ∈ run, kind d = true) ∧ kind c = false ∧ text = run ++ c :: rest := by
  constructor
  · rintro ⟨taken, dropped⟩
    have ends := List.head?_dropWhile_not kind text
    rw [dropped, List.head?_cons] at ends
    refine ⟨?_, by simpa using ends, ?_⟩
    · intro d listed
      exact List.mem_takeWhile_imp (taken ▸ listed)
    · rw [← taken, ← dropped, List.takeWhile_append_dropWhile]
  · rintro ⟨alike, other, rfl⟩
    have stops : ¬ kind c = true := Bool.eq_false_iff.mp other
    rw [List.takeWhile_append_of_pos alike, List.dropWhile_append_of_pos alike,
      List.takeWhile_cons_of_neg stops, List.dropWhile_cons_of_neg stops, List.append_nil]
    exact ⟨rfl, rfl⟩

/-- The head of a directive, and what follows it. -/
theorem headAt?_eq_some_iff {text tag rest : Text} :
    headAt? text = some (tag, rest) ↔
      ∃ blank mark gap, isBlank blank = true ∧ mark ∈ marks ∧ tag ≠ [] ∧
        (∀ c ∈ tag, isBlank c = false) ∧ isBlank gap = true ∧
        text = blank :: (mark ++ (tag ++ gap :: rest)) := by
  rw [headAt?]
  constructor
  · intro found
    split at found
    · cases found
    · next body marked =>
      obtain ⟨blank, leading, mark, known, rfl⟩ := afterMarker?_eq_some_iff.mp marked
      split at found
      · next t tag gap rest taken dropped =>
        cases found
        obtain ⟨solid, ends, rfl⟩ := takeWhile_and_dropWhile_iff.mp ⟨taken, dropped⟩
        simp only [Bool.not_eq_true', Bool.not_eq_false'] at solid ends
        exact ⟨blank, mark, gap, leading, known, List.cons_ne_nil t tag, solid, ends, rfl⟩
      · cases found
  · rintro ⟨blank, mark, gap, leading, known, tagged, solid, ends, rfl⟩
    have marked := afterMarker?_eq_some_iff.mpr
      ⟨blank, leading, mark, known, Eq.refl (blank :: (mark ++ (tag ++ gap :: rest)))⟩
    have plain : ∀ c ∈ tag, (!isBlank c) = true := fun c listed => by rw [solid c listed]; rfl
    have stops : (!isBlank gap) = false := by rw [ends]; rfl
    obtain ⟨taken, dropped⟩ := takeWhile_and_dropWhile_iff.mpr
      ⟨plain, stops, Eq.refl (tag ++ gap :: rest)⟩
    rw [marked]
    simp only [taken, dropped]
    cases tag with
    | nil => exact absurd rfl tagged
    | cons t tag => rfl

/-- What is written down as the whole directive is its head with the payload behind it. -/
theorem take_whole {blank gap : Char} {mark tag rest payload : Text} (begins : payload <+: rest) :
    (blank :: (mark ++ (tag ++ gap :: rest))).take
        ((blank :: (mark ++ (tag ++ gap :: rest))).length - rest.length + payload.length) =
      blank :: (mark ++ (tag ++ gap :: payload)) := by
  have parts : ∀ behind : Text, blank :: (mark ++ (tag ++ gap :: behind)) =
      (blank :: (mark ++ (tag ++ [gap]))) ++ behind := by
    intro behind
    simp only [List.cons_append, List.append_assoc, List.nil_append]
  rw [parts rest, parts payload, List.length_append, Nat.add_sub_cancel,
    List.take_length_add_append, ← List.prefix_iff_eq_take.mp begins]

theorem payloadAt_prefix (text : Text) : payloadAt text <+: text := by
  induction text with
  | nil => exact List.prefix_rfl
  | cons c rest ih =>
    rw [payloadAt]
    split
    · exact List.nil_prefix
    · exact (List.prefix_cons_inj c).mpr ih

/-! ## The scan -/

/-- The directives of a text whose first character has the given position, when the next `skip`
characters belong to a directive that was found already. -/
def scanFrom : Nat → Nat → Text → List Occurrence
  | _, _, [] => []
  | position, skip + 1, _ :: rest => scanFrom (position + 1) skip rest
  | position, 0, c :: rest =>
    (at? (c :: rest)).elim (scanFrom (position + 1) 0 rest) fun directive =>
      ⟨position, directive⟩ :: scanFrom (position + 1) (directive.whole.length - 1) rest

section Scan

variable {c : Char} {rest : Text} {directive : Directive} (position : Nat)

theorem scanFrom_of_some (front : at? (c :: rest) = some directive) :
    scanFrom position 0 (c :: rest) =
      ⟨position, directive⟩ :: scanFrom (position + 1) (directive.whole.length - 1) rest := by
  rw [scanFrom, front, Option.elim_some]

theorem scanFrom_of_none (front : at? (c :: rest) = none) :
    scanFrom position 0 (c :: rest) = scanFrom (position + 1) 0 rest := by
  rw [scanFrom, front, Option.elim_none]

end Scan

/-- What is skipped is gone over character by character. -/
theorem scanFrom_skipped (skipped rest : Text) :
    ∀ position : Nat, scanFrom position skipped.length (skipped ++ rest) =
      scanFrom (position + skipped.length) 0 rest := by
  induction skipped with
  | nil => exact fun _ => rfl
  | cons c skipped ih =>
    intro position
    rw [List.length_cons, List.cons_append, scanFrom, ih, Nat.add_assoc, Nat.add_comm 1]

/-- Behind a directive the scan goes on where all that is written of it ends. -/
theorem scanFrom_of_whole {directive : Directive} {behind : Text} (filled : directive.whole ≠ [])
    (front : at? (directive.whole ++ behind) = some directive) (position : Nat) :
    scanFrom position 0 (directive.whole ++ behind) =
      ⟨position, directive⟩ :: scanFrom (position + directive.whole.length) 0 behind := by
  obtain ⟨c, rest, whole⟩ := List.exists_cons_of_ne_nil filled
  rw [whole, List.cons_append] at front ⊢
  rw [scanFrom_of_some position front, whole, List.length_cons, Nat.add_sub_cancel,
    scanFrom_skipped, Nat.add_assoc, Nat.add_comm 1]

/-! ## One turn -/

namespace Head

variable {blank gap : Char} {mark tag text rest : Text} (offset : Nat)

theorem at?_of_headAt? (nothing : headAt? text = none) : at? offset text = none := by
  rw [Head.at?, nothing]
  split
  · next found => cases found
  · rfl

/-- The ends of a head are where its parts are. -/
theorem at?_of_parts (leading : isBlank blank = true) (known : mark ∈ marks) (tagged : tag ≠ [])
    (solid : ∀ c ∈ tag, isBlank c = false) (ends : isBlank gap = true) :
    at? offset (blank :: (mark ++ (tag ++ gap :: rest))) =
      some
        { start := offset
          tagStart := offset + Text.byteLength (blank :: mark)
          tagStop := offset + Text.byteLength (blank :: (mark ++ tag))
          stop := offset + Text.byteLength (blank :: (mark ++ (tag ++ [gap]))) } := by
  have marked := afterMarker?_eq_some_iff.mpr
    ⟨blank, leading, mark, known, Eq.refl (blank :: (mark ++ (tag ++ gap :: rest)))⟩
  have head := headAt?_eq_some_iff.mpr ⟨blank, mark, gap, leading, known, tagged, solid, ends,
    Eq.refl (blank :: (mark ++ (tag ++ gap :: rest)))⟩
  rw [Head.at?, marked, head]
  simp only [Text.byteLength_cons, Text.byteLength_append, Text.byteLength_nil, Option.some.injEq,
    Head.mk.injEq, true_and]
  omega

/-- Heads that begin before the place of the search do not matter. -/
theorem first?_append (front rest : Text) :
    ∀ {least offset : Nat}, offset + Text.byteLength front ≤ least →
      first? least offset (front ++ rest) =
        first? least (offset + Text.byteLength front) rest := by
  induction front with
  | nil => exact fun _ => rfl
  | cons c front ih =>
    intro least offset before
    have positive := c.utf8Size_pos
    rw [Text.byteLength_cons] at before ⊢
    rw [List.cons_append, first?, if_neg (by omega)]
    simp only
    rw [ih (by omega), Nat.add_assoc]

end Head

/-- The first head that is found is that of the first place where one stands; in front of it
there is no directive. -/
theorem first?_cases (least : Nat) (text : Text) :
    ∀ {offset : Nat}, least ≤ offset →
      (Head.first? least offset text = none ∧ ∀ position, scanFrom position 0 text = []) ∨
      ∃ passed blank mark tag gap rest,
        text = passed ++ blank :: (mark ++ (tag ++ gap :: rest)) ∧
        headAt? (blank :: (mark ++ (tag ++ gap :: rest))) = some (tag, rest) ∧
        tag ≠ [] ∧
        Head.first? least offset text = some
          { start := offset + Text.byteLength passed
            tagStart := offset + Text.byteLength (passed ++ blank :: mark)
            tagStop := offset + Text.byteLength (passed ++ blank :: (mark ++ tag))
            stop := offset + Text.byteLength (passed ++ blank :: (mark ++ (tag ++ [gap]))) } ∧
        ∀ position, scanFrom position 0 text =
          scanFrom (position + passed.length) 0 (blank :: (mark ++ (tag ++ gap :: rest))) := by
  induction text with
  | nil => exact fun _ => .inl ⟨rfl, fun _ => rfl⟩
  | cons c text ih =>
    intro offset behind
    cases here : headAt? (c :: text) with
    | some found =>
      obtain ⟨tag, rest⟩ := found
      obtain ⟨blank, mark, gap, leading, known, tagged, solid, ends, same⟩ :=
        headAt?_eq_some_iff.mp here
      refine .inr ⟨[], blank, mark, tag, gap, rest, same, same ▸ here, tagged, ?_, ?_⟩
      · rw [Head.first?, if_pos behind, same,
          Head.at?_of_parts offset leading known tagged solid ends]
        rfl
      · intro position
        rw [same]
        rfl
    | none =>
      have nothing : at? (c :: text) = none := by rw [at?, here]
      have onward : Head.first? least offset (c :: text) =
          Head.first? least (offset + c.utf8Size) text := by
        rw [Head.first?, Head.at?_of_headAt? offset here, ite_self]
      rcases ih (Nat.le_add_right_of_le behind) with ⟨none, silent⟩ |
        ⟨passed, blank, mark, tag, gap, rest, rfl, stands, tagged, found, scanned⟩
      · refine .inl ⟨onward.trans none, fun position => ?_⟩
        rw [scanFrom_of_none position nothing, silent]
      · refine .inr ⟨c :: passed, blank, mark, tag, gap, rest, rfl, stands, tagged, ?_, ?_⟩
        · rw [onward, found]
          simp only [List.cons_append, Text.byteLength_cons, Nat.add_assoc]
        · intro position
          rw [scanFrom_of_none position nothing, scanned, List.length_cons, Nat.add_assoc,
            Nat.add_comm 1]

theorem payloadStop_eq (text : Text) :
    ∀ offset : Nat, payloadStop offset text = offset + Text.byteLength (payloadAt text) := by
  induction text with
  | nil => exact fun _ => rfl
  | cons c rest ih =>
    intro offset
    rw [payloadStop, payloadAt]
    split
    · rfl
    · rw [ih, Text.byteLength_cons, Nat.add_assoc]

theorem nextOffset?_append (front : Text) (c : Char) (rest : Text) :
    nextOffset? (front ++ c :: rest) (Text.byteLength front) =
      some (Text.byteLength (front ++ [c])) := by
  rw [nextOffset?, Text.behind?_append, Option.map_some, Text.byteLength_append front [c]]
  rfl

namespace Find

/-- The offsets of a directive that was found: where its parts begin and end. -/
def offsets (find : Find) : List Nat :=
  [find.head.start, find.head.tagStart, find.head.tagStop, find.head.stop, find.stop]

/-- A directive is found where its parts stand in the text one behind the other. -/
inductive StandsIn (text : Text) : Find → Prop where
  | intro {front lead tag payload behind : Text} {gap : Char}
    (whole : text = front ++ (lead ++ (tag ++ gap :: (payload ++ behind))))
    (led : lead ≠ []) (tagged : tag ≠ []) (filled : payload ≠ []) :
    StandsIn text
      { head :=
          { start := Text.byteLength front
            tagStart := Text.byteLength (front ++ lead)
            tagStop := Text.byteLength (front ++ (lead ++ tag))
            stop := Text.byteLength (front ++ (lead ++ (tag ++ [gap]))) }
        stop := Text.byteLength (front ++ (lead ++ (tag ++ gap :: payload)))
        directive := ⟨tag, payload, lead ++ (tag ++ gap :: payload)⟩ }

end Find

/-- What a turn of the search comes to that begins between two parts of a text is what the scan
of the second comes to. -/
inductive Turn.Follows (front rest : Text) : Turn → Prop where
  | ended (silent : ∀ position, scanFrom position 0 rest = []) : Follows front rest .ended
  | skipped {passed behind : Text} (split : rest = passed ++ behind)
      (scanned : ∀ position,
        scanFrom position 0 rest = scanFrom (position + passed.length) 0 behind) :
      Follows front rest (.skipped (Text.byteLength (front ++ passed)))
  | found {passed behind : Text} {find : Find}
      (split : rest = passed ++ (find.directive.whole ++ behind))
      (start : find.head.start = Text.byteLength (front ++ passed))
      (stop : find.stop = Text.byteLength (front ++ (passed ++ find.directive.whole)))
      (stands : find.StandsIn (front ++ rest))
      (scanned : ∀ position, scanFrom position 0 rest =
        ⟨position + passed.length, find.directive⟩ ::
          scanFrom (position + (passed ++ find.directive.whole).length) 0 behind) :
      Follows front rest (.found find)

/-- A turn that comes upon a head goes by what follows it. -/
theorem turn?_of_first? {text before rest : Text} {offset : Nat} {head : Head}
    (found : Head.first? offset 0 text = some head) (split : text = before ++ rest)
    (stop : head.stop = Text.byteLength before) :
    turn? text offset =
      if payloadAt rest = [] then (nextOffset? text head.start).map .skipped
      else (head.find? text (Text.byteLength (before ++ payloadAt rest))).map .found := by
  have reached : payloadStop? text head.stop =
      some (Text.byteLength (before ++ payloadAt rest)) := by
    rw [payloadStop?, split, stop, Text.behind?_append, Option.map_some, payloadStop_eq,
      Text.byteLength_append]
  have bare : Text.byteLength (before ++ payloadAt rest) = head.stop ↔ payloadAt rest = [] := by
    rw [stop, Text.byteLength_append]
    constructor
    · intro same
      exact Text.eq_nil_of_byteLength (by omega)
    · intro nothing
      rw [nothing]
      rfl
  rw [turn?, found]
  simp only [reached, Option.bind_some, bare]

/-- What the search finds is cut out of the text whole. -/
theorem Head.find?_of_parts {front lead tag payload behind : Text} {gap : Char} (led : lead ≠ [])
    (tagged : tag ≠ []) (filled : payload ≠ []) {text : Text}
    (whole : text = front ++ (lead ++ (tag ++ gap :: (payload ++ behind)))) :
    ∃ find, Head.find?
        { start := Text.byteLength front
          tagStart := Text.byteLength (front ++ lead)
          tagStop := Text.byteLength (front ++ (lead ++ tag))
          stop := Text.byteLength (front ++ (lead ++ (tag ++ [gap]))) } text
        (Text.byteLength (front ++ (lead ++ (tag ++ gap :: payload)))) = some find ∧
      find.directive = ⟨tag, payload, lead ++ (tag ++ gap :: payload)⟩ ∧
      find.head.start = Text.byteLength front ∧
      find.stop = Text.byteLength (front ++ find.directive.whole) ∧ find.StandsIn text := by
  refine ⟨_, ?_, rfl, rfl, rfl, .intro whole led tagged filled⟩
  have cutTag : text = (front ++ lead) ++ (tag ++ gap :: (payload ++ behind)) := by
    rw [whole, List.append_assoc]
  have cutPayload : text = (front ++ (lead ++ (tag ++ [gap]))) ++ (payload ++ behind) := by
    simp [whole]
  have cutWhole : text = front ++ ((lead ++ (tag ++ gap :: payload)) ++ behind) := by
    simp [whole]
  have tagged := Text.between?_append (front ++ lead) tag (gap :: (payload ++ behind))
  have said := Text.between?_append (front ++ (lead ++ (tag ++ [gap]))) payload behind
  have written := Text.between?_append front (lead ++ (tag ++ gap :: payload)) behind
  rw [← cutTag] at tagged
  rw [← cutPayload] at said
  rw [← cutWhole] at written
  simp only [List.append_assoc, List.singleton_append] at tagged said written
  simp only [Head.find?, tagged, said, written, Option.bind_some, Option.map_some]

/-- **A turn goes through** if it begins between two characters, and comes to what the scan
comes to. -/
theorem turn?_append (front rest : Text) :
    ∃ turn, turn? (front ++ rest) (Text.byteLength front) = some turn ∧
      turn.Follows front rest := by
  have first : Head.first? (Text.byteLength front) 0 (front ++ rest) =
      Head.first? (Text.byteLength front) (Text.byteLength front) rest := by
    rw [Head.first?_append front rest (by omega), Nat.zero_add]
  rcases first?_cases _ rest (Nat.le_refl (Text.byteLength front)) with ⟨none, silent⟩ |
    ⟨passed, blank, mark, tag, gap, rest, rfl, stands, tagged, found, scanned⟩
  · exact ⟨.ended, by rw [turn?, first, none], .ended silent⟩
  rw [found] at first
  simp only [← Text.byteLength_append] at first
  have split : front ++ (passed ++ blank :: (mark ++ (tag ++ gap :: rest))) =
      (front ++ (passed ++ blank :: (mark ++ (tag ++ [gap])))) ++ rest := by simp
  have turned := turn?_of_first? first split rfl
  cases said : payloadAt rest with
  | nil =>
    -- The head is left behind by no more than its blank, since another may begin inside it.
    have nothing : at? (blank :: (mark ++ (tag ++ gap :: rest))) = none := by
      rw [at?, stands]
      simp only [said]
    have next : nextOffset? (front ++ (passed ++ blank :: (mark ++ (tag ++ gap :: rest))))
        (Text.byteLength (front ++ passed)) =
          some (Text.byteLength (front ++ (passed ++ [blank]))) := by
      rw [← List.append_assoc, nextOffset?_append, List.append_assoc]
    rw [said, if_pos rfl, next] at turned
    have parted : passed ++ blank :: (mark ++ (tag ++ gap :: rest)) =
        (passed ++ [blank]) ++ (mark ++ (tag ++ gap :: rest)) := by simp
    refine ⟨_, turned, .skipped parted ?_⟩
    intro position
    rw [scanned, scanFrom_of_none _ nothing, List.length_append, Nat.add_assoc]
    rfl
  | cons p payload =>
    -- The head begins a directive, and the scan goes over all that is written of it.
    have begins := payloadAt_prefix rest
    rw [said] at begins
    have here : at? (blank :: (mark ++ (tag ++ gap :: rest))) =
        some ⟨tag, p :: payload, blank :: (mark ++ (tag ++ gap :: p :: payload))⟩ := by
      rw [at?, stands]
      simp only [said]
      rw [take_whole begins]
    obtain ⟨behind, rfl⟩ := begins
    have whole : front ++ (passed ++ blank :: (mark ++ (tag ++ gap :: (p :: payload ++ behind)))) =
        (front ++ passed) ++ (blank :: mark ++ (tag ++ gap :: (p :: payload ++ behind))) := by simp
    obtain ⟨find, cut, directive, start, stop, parts⟩ := Head.find?_of_parts
      (List.cons_ne_nil blank mark) tagged (List.cons_ne_nil p payload) whole
    have parted : passed ++ blank :: (mark ++ (tag ++ gap :: (p :: payload ++ behind))) =
        passed ++ (find.directive.whole ++ behind) := by simp [directive]
    rw [directive] at stop
    refine ⟨.found find, ?_, .found parted start (by simpa [directive] using stop) parts ?_⟩
    · rw [turned, said, if_neg (List.cons_ne_nil p payload)]
      simp only [List.append_assoc, List.cons_append, List.nil_append] at cut ⊢
      rw [cut, Option.map_some]
    · intro position
      have opened : blank :: (mark ++ (tag ++ gap :: (p :: payload ++ behind))) =
          find.directive.whole ++ behind := List.append_cancel_left parted
      have same : some find.directive =
          some ⟨tag, p :: payload, blank :: (mark ++ (tag ++ gap :: p :: payload))⟩ := by
        simp [directive]
      rw [opened, ← same] at here
      rw [scanned, opened, scanFrom_of_whole (by simp [directive]) here, List.length_append,
        Nat.add_assoc]

/-! ## The whole search -/

/-- **The search goes through** from any place between two characters on, and finds what the
scan finds. -/
theorem exists_search?_append (text : Text) (offset : Nat) :
    ∀ {front rest : Text}, text = front ++ rest → offset = Text.byteLength front →
      ∃ finds, search? text offset = some finds ∧
        finds.map (Find.occurrence text) = scanFrom front.length 0 rest ∧
        ∀ find ∈ finds, find.StandsIn text := by
  fun_induction search? text offset with
  | case1 offset inside failed =>
    rintro front rest rfl rfl
    obtain ⟨turn, turned, _⟩ := turn?_append front rest
    cases failed.symm.trans turned
  | case2 offset inside ended =>
    rintro front rest rfl rfl
    obtain ⟨turn, turned, follows⟩ := turn?_append front rest
    cases ended.symm.trans turned
    cases follows with
    | ended silent => exact ⟨[], rfl, (silent _).symm, nofun⟩
  | case3 offset inside next skipped ih =>
    rintro front rest rfl rfl
    obtain ⟨turn, turned, follows⟩ := turn?_append front rest
    cases skipped.symm.trans turned
    cases follows with
    | skipped split scanned =>
      rw [scanned, ← List.length_append]
      exact ih (by rw [split, List.append_assoc]) rfl
  | case4 offset inside find found ih =>
    rintro front rest rfl rfl
    obtain ⟨turn, turned, follows⟩ := turn?_append front rest
    cases found.symm.trans turned
    cases follows with
    | @found passed behind _ split start stop stands scanned =>
      have further : front ++ rest = (front ++ (passed ++ find.directive.whole)) ++ behind := by
        simp [split]
      obtain ⟨finds, searched, same, standing⟩ := ih further stop
      refine ⟨find :: finds, by rw [searched, Option.map_some], ?_,
        List.forall_mem_cons.mpr ⟨stands, standing⟩⟩
      have place : Text.countBefore find.head.start (front ++ rest) = (front ++ passed).length := by
        rw [start, split, ← List.append_assoc, Text.countBefore_append]
      rw [List.map_cons, same, scanned, Find.occurrence, place]
      simp only [List.length_append]
  | case5 offset outside =>
    rintro front rest rfl rfl
    have nothing : rest = [] := by
      rw [Text.byteLength_append] at outside
      exact Text.eq_nil_of_byteLength (by omega)
    exact ⟨[], rfl, by rw [nothing]; rfl, nofun⟩

/-- The search of a text goes through, and what it finds stands in the text. -/
theorem exists_search? (text : Text) :
    ∃ finds, search? text 0 = some finds ∧ finds.map (Find.occurrence text) = scan text ∧
      ∀ find ∈ finds, find.StandsIn text := by
  obtain ⟨finds, searched, _, standing⟩ :=
    exists_search?_append text 0 (List.nil_append text).symm rfl
  exact ⟨finds, searched, by rw [scan, searched, Option.getD_some], standing⟩

/-- The search finds what the scan finds. -/
theorem scan_eq (text : Text) : scan text = scanFrom 0 0 text := by
  obtain ⟨finds, searched, same, _⟩ :=
    exists_search?_append text 0 (List.nil_append text).symm rfl
  rw [scan, searched, Option.getD_some, same]
  rfl

end Directive

end Polyglot
