import Polyglot.Directive.Basic

/-!
# Reading directives out of a text

A directive is a blank, `I18N_` or `I18NDOM_`, a tag of non-blank characters,
one more blank, and a payload.  The payload runs on until the line ends or the
next character but one begins another `I18N`, and it must not be empty.  An
ignore mark may also stand alone at the end of a text.

`Directive.search?` finds the directives from the left without overlaps.  It goes
by offsets in bytes, as the cuts in a text do: from an offset on it looks for a
head, then for the end of the payload, and goes on behind it, or behind the first
character of a head without one.  Each turn gets ahead (`lt_of_skipped`,
`lt_of_found`).  `Directives.read` collects what the directives say, and
`Directive.strip` cuts a text at its first marker.
-/

set_option autoImplicit false

namespace Polyglot

namespace Directive

/-! ## Markers -/

/-- The letters that every marker begins with. -/
def markerWord : Text := ['I', '1', '8', 'N']

/-- What follows a marker at the front of a text: a blank and then `I18NDOM_` or
`I18N_`. -/
def afterMarker? : Text → Option Text
  | [] => none
  | c :: rest =>
    if isBlank c then
      match Text.after? markerWord rest with
      | some ('_' :: body) => some body
      | some ('D' :: 'O' :: 'M' :: '_' :: body) => some body
      | _ => none
    else none

/-- Whether a marker stands at the front of a text. -/
def startsWithMarker (text : Text) : Bool :=
  (afterMarker? text).isSome

/-- Whether a marker stands anywhere in a text. -/
def hasMarker : Text → Bool
  | [] => false
  | c :: rest => startsWithMarker (c :: rest) || hasMarker rest

/-- A text up to its first marker. -/
def strip : Text → Text
  | [] => []
  | c :: rest => if startsWithMarker (c :: rest) then [] else c :: strip rest

/-- A text without a marker is not cut. -/
theorem strip_eq_self {text : Text} (h : hasMarker text = false) : strip text = text := by
  induction text with
  | nil => rfl
  | cons c rest ih =>
    simp only [hasMarker, Bool.or_eq_false_iff] at h
    simp [strip, h.1, ih h.2]

/-! ## One directive -/

/-- The tag of a directive's head at the front of a text, and what follows the
head.  The tag is the whole run of non-blank characters after the marker, and
the blank that ends it belongs to the head. -/
def headAt? (text : Text) : Option (Text × Text) :=
  match afterMarker? text with
  | none => none
  | some body =>
    match body.takeWhile (fun c => !isBlank c), body.dropWhile (fun c => !isBlank c) with
    | t :: tag, _ :: rest => some (t :: tag, rest)
    | _, _ => none

/-- The longest payload at the front of a text: it stops before a line end and
before a character that stands directly in front of a marker word. -/
def payloadAt : Text → Text
  | [] => []
  | c :: rest =>
    if isLineEnd c || Text.startsWith markerWord rest then [] else c :: payloadAt rest

/-- The directive at the front of a text; its payload must not be empty. -/
def at? (text : Text) : Option Directive :=
  match headAt? text with
  | none => none
  | some (tag, rest) =>
    match payloadAt rest with
    | [] => none
    | body => some ⟨tag, body, text.take (text.length - rest.length + body.length)⟩

/-! ## The search -/

/-- A head that the search has come upon: where it begins and ends, and where its
tag does, in bytes. -/
structure Head where
  start : Nat
  tagStart : Nat
  tagStop : Nat
  stop : Nat
  deriving DecidableEq, Repr

namespace Head

/-- The head at the front of a text that begins at an offset. -/
def at? (offset : Nat) (text : Text) : Option Head :=
  match afterMarker? text, headAt? text with
  | some body, some (tag, rest) =>
    let tagStart := offset + (Text.byteLength text - Text.byteLength body)
    some
      { start := offset
        tagStart := tagStart
        tagStop := tagStart + Text.byteLength tag
        stop := offset + (Text.byteLength text - Text.byteLength rest) }
  | _, _ => none

/-- The first head in a text that begins at `least` or behind it.  The text itself
begins at an offset. -/
def first? (least : Nat) : Nat → Text → Option Head
  | _, [] => none
  | offset, c :: rest =>
    match if least ≤ offset then at? offset (c :: rest) else none with
    | some head => some head
    | none => first? least (offset + c.utf8Size) rest

theorem start_of_at? {offset : Nat} {text : Text} {head : Head}
    (found : at? offset text = some head) : head.start = offset ∧ offset ≤ head.stop := by
  rw [at?] at found
  split at found
  · cases found
    exact ⟨rfl, Nat.le_add_right ..⟩
  · cases found

/-- A head is not found before the place that the search begins at. -/
theorem le_of_first? {least : Nat} {head : Head} {text : Text} :
    ∀ {offset : Nat}, first? least offset text = some head →
      least ≤ head.start ∧ head.start ≤ head.stop := by
  induction text with
  | nil => nofun
  | cons c rest ih =>
    intro offset found
    rw [first?] at found
    split at found
    · next here =>
      cases found
      split at here
      · next behind =>
        obtain ⟨start, stop⟩ := start_of_at? here
        exact ⟨start.symm ▸ behind, start.symm ▸ stop⟩
      · cases here
    · exact ih found

end Head

/-- Where the payload ends that a text begins with.  The text begins at an offset. -/
def payloadStop : Nat → Text → Nat
  | offset, [] => offset
  | offset, c :: rest =>
    if isLineEnd c || Text.startsWith markerWord rest then offset
    else payloadStop (offset + c.utf8Size) rest

theorem le_payloadStop (text : Text) : ∀ offset : Nat, offset ≤ payloadStop offset text := by
  induction text with
  | nil => exact fun _ => Nat.le_refl _
  | cons c rest ih =>
    intro offset
    rw [payloadStop]
    split
    · exact Nat.le_refl _
    · exact Nat.le_trans (Nat.le_add_right ..) (ih _)

/-- Where the payload ends that begins at an offset of a text. -/
def payloadStop? (text : Text) (offset : Nat) : Option Nat :=
  (text.behind? offset).map (payloadStop offset)

/-- The offset of the next character, or of the end of the text. -/
def nextOffset? (text : Text) (offset : Nat) : Option Nat :=
  (text.behind? offset).map fun behind =>
    match behind with
    | [] => text.byteLength
    | c :: _ => offset + c.utf8Size

/-- A directive that the search has found: its head, where it ends, and what it
says. -/
structure Find where
  head : Head
  stop : Nat
  directive : Directive
  deriving DecidableEq, Repr

/-- The directive that has a head and ends at an offset. -/
def Head.find? (head : Head) (text : Text) (stop : Nat) : Option Find :=
  (text.between? head.tagStart head.tagStop).bind fun tag =>
    (text.between? head.stop stop).bind fun payload =>
      (text.between? head.start stop).map fun whole => ⟨head, stop, ⟨tag, payload, whole⟩⟩

theorem Head.stop_of_find? {head : Head} {text : Text} {stop : Nat} {find : Find}
    (found : head.find? text stop = some find) : find.stop = stop := by
  obtain ⟨_, _, found⟩ := Option.bind_eq_some_iff.mp found
  obtain ⟨_, _, found⟩ := Option.bind_eq_some_iff.mp found
  obtain ⟨_, _, rfl⟩ := Option.map_eq_some_iff.mp found
  rfl

/-- What one turn of the search comes to. -/
inductive Turn where
  /-- No head is left. -/
  | ended
  /-- There is a head without a payload; the search goes on inside it. -/
  | skipped (next : Nat)
  | found (find : Find)
  deriving DecidableEq, Repr

/-- One turn of the search from an offset on.  It does not go through if the text
would have to be cut inside a character. -/
def turn? (text : Text) (offset : Nat) : Option Turn :=
  match Head.first? offset 0 text with
  | none => some .ended
  | some head =>
    (payloadStop? text head.stop).bind fun stop =>
      if stop = head.stop then (nextOffset? text head.start).map .skipped
      else (head.find? text stop).map .found

/-- The search gets ahead where it skips a head. -/
theorem lt_of_skipped {text : Text} {offset next : Nat} (inside : offset < text.byteLength)
    (turned : turn? text offset = some (.skipped next)) : offset < next := by
  rw [turn?] at turned
  split at turned
  · cases turned
  next head first =>
  obtain ⟨stop, _, turned⟩ := Option.bind_eq_some_iff.mp turned
  split at turned
  · obtain ⟨_, stepped, same⟩ := Option.map_eq_some_iff.mp turned
    cases same
    obtain ⟨rest, _, rfl⟩ := Option.map_eq_some_iff.mp stepped
    cases rest with
    | nil => exact inside
    | cons c rest =>
      exact Nat.lt_of_le_of_lt (Head.le_of_first? first).1 (Nat.lt_add_of_pos_right c.utf8Size_pos)
  · obtain ⟨_, _, other⟩ := Option.map_eq_some_iff.mp turned
    cases other

/-- The search gets ahead where it finds a directive. -/
theorem lt_of_found {text : Text} {offset : Nat} {find : Find}
    (turned : turn? text offset = some (.found find)) : offset < find.stop := by
  rw [turn?] at turned
  split at turned
  · cases turned
  next head first =>
  obtain ⟨stop, reached, turned⟩ := Option.bind_eq_some_iff.mp turned
  split at turned
  · obtain ⟨_, _, other⟩ := Option.map_eq_some_iff.mp turned
    cases other
  · next filled =>
    obtain ⟨_, whole, same⟩ := Option.map_eq_some_iff.mp turned
    cases same
    rw [Head.stop_of_find? whole]
    obtain ⟨behind, _, rfl⟩ := Option.map_eq_some_iff.mp reached
    obtain ⟨least, ordered⟩ := Head.le_of_first? first
    have stopped := le_payloadStop behind head.stop
    omega

/-- The directives that the search finds from an offset on.  It can be unfolded, so
that what it finds in a given text is decided by running it. -/
@[semireducible]
def search? (text : Text) (offset : Nat) : Option (List Find) :=
  if _ : offset < text.byteLength then
    match _ : turn? text offset with
    | none => none
    | some .ended => some []
    | some (.skipped next) => search? text next
    | some (.found find) => (search? text find.stop).map (find :: ·)
  else some []
termination_by text.byteLength - offset
decreasing_by
  · have ahead := lt_of_skipped ‹offset < text.byteLength› ‹_›
    omega
  · have ahead := lt_of_found ‹turn? text offset = _›
    omega

/-! ## All directives -/

/-- A directive together with the number of characters before it. -/
structure Occurrence where
  start : Nat
  directive : Directive
  deriving DecidableEq, Repr

/-- A directive that was found, and the number of characters before it. -/
def Find.occurrence (text : Text) (find : Find) : Occurrence :=
  ⟨Text.countBefore find.head.start text, find.directive⟩

/-- The directives of a text from the left, each looked for after the end of the
one before.  The search always goes through. -/
def scan (text : Text) : List Occurrence :=
  ((search? text 0).getD []).map (Find.occurrence text)

/-! ## Ignore marks -/

/-- Whether a text lets a tag end that stands directly before it. -/
def endsTag : Text → Bool
  | [] => true
  | c :: _ => isBlank c

/-- Whether an ignore mark stands at the front of a text; it needs no payload. -/
def startsWithIgnore (text : Text) : Bool :=
  match afterMarker? text with
  | none => false
  | some body =>
    (Text.after? ['I', 'G', 'N', 'O', 'R', 'E'] body).any endsTag
      || (Text.after? ['I'] body).any endsTag

end Directive

namespace Directives

/-- The smaller of two positions, either of which may be missing. -/
def earlier? : Option Nat → Option Nat → Option Nat
  | some a, some b => some (min a b)
  | some a, Option.none => some a
  | Option.none, other => other

/-- Everything that the directives of a text say. -/
def read (text : Text) : Directives :=
  let found := Directive.scan text
  let ignoreMark := Text.firstWhere? Directive.startsWithIgnore text
  let ignored := ignoreMark.isSome || found.any fun o => o.directive.kind? == some .ignore
  { present := !found.isEmpty || ignored
    ignored := ignored
    start? := earlier? (found.head?.map Directive.Occurrence.start) ignoreMark
    data := found.filterMap fun o =>
      if o.directive.kind? = some .data then DataPair.ofPayload? o.directive.payload
      else Option.none
    keySuffix := found.flatMap fun o =>
      if o.directive.kind? = some .key then o.directive.whole else [] }

end Directives

end Polyglot
