import Mathlib.Data.List.Infix
import Polyglot.Text.Blank
import Polyglot.Text.Replace

/-!
# Parts of texts

What it means for a text that it begins in some way, that a pattern occurs in it, that it is
cut at a sign or trimmed at its ends, said with the parts that it is put together from; which
pieces there are of a text that was joined; and which parts of a text a replacement leaves as
they are.
-/

set_option autoImplicit false

namespace Polyglot

namespace Text

variable {pattern text : Text}

theorem startsWith_iff : startsWith pattern text = true ↔ ∃ rest, text = pattern ++ rest := by
  rw [startsWith, Option.isSome_iff_exists]
  apply exists_congr
  intro rest
  exact after?_eq_some_iff

/-- A pattern occurs in a text when there is something in front of it and behind it. -/
theorem contains_iff : contains pattern text = true ↔ pattern <:+: text := by
  induction text with
  | nil => rw [contains, List.isEmpty_iff, List.infix_nil]
  | cons c rest ih =>
    rw [contains, Bool.or_eq_true, ih, startsWith_iff, List.infix_cons_iff]
    apply or_congr_left
    apply exists_congr
    intro behind
    exact eq_comm

theorem contains_eq_false_iff : contains pattern text = false ↔ ¬ pattern <:+: text := by
  rw [← contains_iff, Bool.not_eq_true]

/-- A text without bytes is empty. -/
theorem eq_nil_of_byteLength (nothing : byteLength text = 0) : text = [] := by
  cases text with
  | nil => rfl
  | cons c rest =>
    have positive := c.utf8Size_pos
    rw [byteLength_cons] at nothing
    omega

/-- A text is cut at the first sign of its kind. -/
theorem cut?_eq_some_iff {sign : Char} {left right : Text} :
    cut? sign text = some (left, right) ↔ sign ∉ left ∧ text = left ++ sign :: right := by
  induction text generalizing left with
  | nil => simp [cut?]
  | cons c rest ih =>
    rw [cut?]
    split
    · next same =>
      rw [Option.some.injEq, Prod.mk.injEq]
      constructor
      · rintro ⟨rfl, rfl⟩
        exact ⟨List.not_mem_nil, by rw [same, List.nil_append]⟩
      · rintro ⟨apart, whole⟩
        cases left with
        | nil => exact ⟨rfl, (List.cons.inj whole).2⟩
        | cons d left =>
          obtain ⟨rfl, _⟩ := List.cons.inj whole
          exact absurd (same ▸ List.mem_cons_self) apart
    · next other =>
      rw [Option.map_eq_some_iff]
      constructor
      · rintro ⟨⟨front, back⟩, cut, parts⟩
        obtain ⟨rfl, rfl⟩ := Prod.mk.inj parts
        obtain ⟨apart, rfl⟩ := ih.mp cut
        refine ⟨?_, rfl⟩
        rw [List.mem_cons, not_or]
        exact ⟨fun same => other same.symm, apart⟩
      · rintro ⟨apart, whole⟩
        cases left with
        | nil => exact absurd (List.cons.inj whole).1 other
        | cons d left =>
          obtain ⟨rfl, rfl⟩ := List.cons.inj whole
          rw [List.mem_cons, not_or] at apart
          exact ⟨(left, right), ih.mpr ⟨apart.2, rfl⟩, rfl⟩

/-- A text is divided at the first sign of its kind in one way only. -/
theorem eq_of_append_cons {sign : Char} {front behind front' behind' : Text} (apart : sign ∉ front)
    (apart' : sign ∉ front') (same : front ++ sign :: behind = front' ++ sign :: behind') :
    front = front' ∧ behind = behind' := by
  have cut : cut? sign (front ++ sign :: behind) = some (front, behind) :=
    cut?_eq_some_iff.mpr ⟨apart, rfl⟩
  have cut' : cut? sign (front ++ sign :: behind) = some (front', behind') :=
    cut?_eq_some_iff.mpr ⟨apart', same⟩
  exact Prod.mk.inj (Option.some.inj (cut.symm.trans cut'))

theorem trimmed_infix (kind : Char → Bool) (text : Text) : trimmed kind text <:+: text := by
  rw [trimmed, List.infix_iff_prefix_suffix]
  refine ⟨text.dropWhile kind, ?_, List.dropWhile_suffix kind⟩
  rw [← List.reverse_suffix, List.reverse_reverse]
  exact List.dropWhile_suffix kind

/-- What has been trimmed does not begin with a character that it was trimmed of. -/
theorem not_kind_of_head?_trimmed {kind : Char → Bool} {c : Char}
    (first : c ∈ (trimmed kind text).head?) : kind c = false := by
  have front : trimmed kind text <+: text.dropWhile kind := by
    rw [trimmed, ← List.reverse_suffix, List.reverse_reverse]
    exact List.dropWhile_suffix kind
  obtain ⟨behind, whole⟩ := front
  have bare := List.head?_dropWhile_not kind text
  rw [← whole, List.head?_append, Option.mem_def.mp first] at bare
  exact bare

theorem dropWhile_eq_self {kind : Char → Bool} (front : ∀ c ∈ text.head?, kind c = false) :
    text.dropWhile kind = text := by
  cases text with
  | nil => rfl
  | cons c rest => exact List.dropWhile_cons_of_neg (by simp [front c rfl])

/-- A text is kept if it has no character at its ends to be trimmed of. -/
theorem trimmed_eq_self {kind : Char → Bool} (front : ∀ c ∈ text.head?, kind c = false)
    (back : ∀ c ∈ text.getLast?, kind c = false) : trimmed kind text = text := by
  rw [← List.head?_reverse] at back
  rw [trimmed, dropWhile_eq_self front, dropWhile_eq_self back, List.reverse_reverse]

/-- What has been trimmed does not end with a character that it was trimmed of. -/
theorem not_kind_of_getLast?_trimmed {kind : Char → Bool} {c : Char}
    (last : c ∈ (trimmed kind text).getLast?) : kind c = false := by
  have bare := List.head?_dropWhile_not kind (text.dropWhile kind).reverse
  rw [trimmed, List.getLast?_reverse] at last
  rw [Option.mem_def.mp last] at bare
  exact bare

theorem trimmed_trimmed (kind : Char → Bool) (text : Text) :
    trimmed kind (trimmed kind text) = trimmed kind text :=
  trimmed_eq_self (fun _ => not_kind_of_head?_trimmed) (fun _ => not_kind_of_getLast?_trimmed)

/-! ## Pieces -/

section Pieces

variable {sign : Char}

/-- What is written in front of a text without the sign belongs to its first piece. -/
theorem pieces_append {front first : Text} {others : List Text} (apart : sign ∉ front)
    (cut : pieces sign text = first :: others) :
    pieces sign (front ++ text) = (front ++ first) :: others := by
  induction front with
  | nil => exact cut
  | cons c front ih =>
    rw [List.mem_cons, not_or] at apart
    rw [List.cons_append, pieces, if_neg fun same => apart.1 same.symm, ih apart.2]
    rfl

theorem pieces_of_not_mem (apart : sign ∉ text) : pieces sign text = [text] := by
  have whole : pieces sign (text ++ []) = [text ++ []] := pieces_append apart rfl
  rwa [List.append_nil] at whole

theorem pieces_append_cons {front : Text} (apart : sign ∉ front) (rest : Text) :
    pieces sign (front ++ sign :: rest) = front :: pieces sign rest := by
  have cut : pieces sign (sign :: rest) = [] :: pieces sign rest := by rw [pieces, if_pos rfl]
  rw [pieces_append apart cut, List.append_nil]

theorem pieces_ne_nil (text : Text) : pieces sign text ≠ [] := by
  cases text with
  | nil => exact List.cons_ne_nil _ _
  | cons c rest =>
    rw [pieces]
    split
    · exact List.cons_ne_nil _ _
    · split <;> exact List.cons_ne_nil _ _

/-- A text has the pieces of what is in front of a sign and of what is behind it. -/
theorem pieces_append_sign (front rest : Text) :
    pieces sign (front ++ sign :: rest) = pieces sign front ++ pieces sign rest := by
  induction front with
  | nil => exact pieces_append_cons List.not_mem_nil rest
  | cons c front ih =>
    rw [List.cons_append, pieces, pieces, ih]
    by_cases same : c = sign
    · rw [if_pos same, if_pos same, List.cons_append]
    · rw [if_neg same, if_neg same]
      cases cut : pieces sign front with
      | nil => exact absurd cut (pieces_ne_nil front)
      | cons first others => rfl

/-- The first piece of a text is what stands in front of the sign. -/
theorem head?_pieces (text : Text) :
    (pieces sign text).head? = some (text.takeWhile (· != sign)) := by
  induction text with
  | nil => rfl
  | cons c rest ih =>
    rw [pieces]
    split
    · next same => rw [List.takeWhile_cons_of_neg (by simp [same]), List.head?_cons]
    · next other =>
      rw [List.takeWhile_cons_of_pos (by simp [other])]
      cases cut : pieces sign rest with
      | nil => exact absurd cut (pieces_ne_nil rest)
      | cons first others =>
        rw [cut] at ih
        exact congrArg (Option.map (c :: ·)) ih

/-- The pieces of a text put together again are the text. -/
theorem joined_pieces (text : Text) : joined [sign] (pieces sign text) = text := by
  induction text with
  | nil => rfl
  | cons c rest ih =>
    rw [pieces]
    cases cut : pieces sign rest with
    | nil => exact absurd cut (pieces_ne_nil rest)
    | cons first others =>
      rw [cut] at ih
      split
      · next same => rw [joined, ih, same, List.nil_append, List.singleton_append]
      · dsimp only
        cases others with
        | nil => exact congrArg (c :: ·) ih
        | cons second others => exact congrArg (c :: ·) ih

theorem not_mem_of_mem_pieces : ∀ piece ∈ pieces sign text, sign ∉ piece := by
  induction text with
  | nil => simp [pieces]
  | cons c rest ih =>
    rw [pieces]
    split
    · simpa using ih
    · next other =>
      split
      · next none =>
        simp only [List.mem_singleton, forall_eq]
        exact fun same => other same.symm
      · next first others cut =>
        rw [cut, List.forall_mem_cons] at ih
        rw [List.forall_mem_cons]
        refine ⟨?_, ih.2⟩
        rw [List.mem_cons, not_or]
        exact ⟨fun same => other same.symm, ih.1⟩

/-- The pieces of a text that was joined are the texts it was joined from, each but the first
with what the separator has behind its sign. -/
theorem pieces_joined {tail : Text} (plain : sign ∉ tail) {rest : List Text} :
    ∀ {first : Text}, (∀ part ∈ first :: rest, sign ∉ part) →
      pieces sign (joined (sign :: tail) (first :: rest)) = first :: rest.map (tail ++ ·) := by
  induction rest with
  | nil =>
    intro first apart
    exact pieces_of_not_mem (apart first List.mem_cons_self)
  | cons second others ih =>
    intro first apart
    rw [List.forall_mem_cons] at apart
    rw [joined, List.append_assoc, List.cons_append, pieces_append_cons apart.1,
      pieces_append plain (ih apart.2), List.map_cons]

theorem not_mem_joined {separator : Text} (plain : sign ∉ separator) {parts : List Text} :
    (∀ part ∈ parts, sign ∉ part) → sign ∉ joined separator parts := by
  induction parts with
  | nil =>
    intro _
    exact List.not_mem_nil
  | cons first rest ih =>
    intro apart
    rw [List.forall_mem_cons] at apart
    cases rest with
    | nil => exact apart.1
    | cons second others =>
      rw [joined, List.append_assoc, List.mem_append, List.mem_append, not_or, not_or]
      exact ⟨apart.1, plain, ih apart.2⟩

end Pieces

/-! ## Replacements -/

/-- A part of a text at which no occurrence begins is kept. -/
theorem replaceAll_append_of_apart (replacement : Text) {front rest : Text}
    (apart : ∀ ending, ending ≠ [] → ending <:+ front →
      startsWith pattern (ending ++ rest) = false) :
    replaceAll pattern replacement (front ++ rest) =
      front ++ replaceAll pattern replacement rest := by
  induction front with
  | nil => rfl
  | cons c front ih =>
    have here := apart (c :: front) (List.cons_ne_nil c front) List.suffix_rfl
    have further := ih fun ending filled ends =>
      apart ending filled (ends.trans (List.suffix_cons c front))
    rw [List.cons_append] at here ⊢
    rw [replaceAll_cons replacement here, further, List.cons_append]

/-- What a sign divides has a beginning without it exactly if the first part has. -/
theorem exists_eq_append_of_cons {sign : Char} {front behind rest : Text} (plain : sign ∉ pattern)
    (same : front ++ sign :: behind = pattern ++ rest) : ∃ middle, front = pattern ++ middle := by
  rcases List.append_eq_append_iff.mp same with ⟨excess, whole, cut⟩ | ⟨middle, whole, _⟩
  · cases excess with
    | nil => exact ⟨[], by rw [whole, List.append_nil, List.append_nil]⟩
    | cons d excess =>
      obtain ⟨rfl, _⟩ := List.cons.inj cut
      exact absurd (by simp [whole]) plain
  · exact ⟨middle, whole⟩

end Text

end Polyglot
