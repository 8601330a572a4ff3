import Polyglot.Markup.Token
import Polyglot.Markup.Writer

/-!
# Comments that are written and read again

A comment is written as it stands, between its delimiters. Whoever reads it takes for its
end the first place that looks like one, so what is read is the whole comment only if
nothing in it looks like its end (`commentBody_append`). Line ends and null characters do
not come back either, since they are read as other ones.

These are all the ways to lose a comment that does not begin with a greater-than sign or
with a hyphen: if none of them occurs in it, it is read as it was written, and what follows
is read as it would be anyway (`next_comment_iff_lasting`). A comment with an end in it is
read up to there, and the rest as markup (`next_comment_of_split`).
-/

set_option autoImplicit false

namespace Polyglot.Markup

open Token

/-- A text that as a comment is read the way it was written: it does not contain an end of
a comment, nor a character that reading exchanges. -/
structure Lasting (text : Text) : Prop where
  closed : Text.contains "-->".toList text = false
  closedLoudly : Text.contains "--!>".toList text = false
  unreturned : '\r' ∉ text
  filled : '\x00' ∉ text

instance (text : Text) : Decidable (Lasting text) :=
  decidable_of_iff (Text.contains "-->".toList text = false ∧
      Text.contains "--!>".toList text = false ∧ '\r' ∉ text ∧ '\x00' ∉ text)
    ⟨fun ⟨closed, closedLoudly, unreturned, filled⟩ => ⟨closed, closedLoudly, unreturned, filled⟩,
      fun lasting => ⟨lasting.closed, lasting.closedLoudly, lasting.unreturned, lasting.filled⟩⟩

/-! ## Line ends and null characters -/

namespace Token

/-- Without a carriage return nothing is exchanged. -/
theorem unifyLineEnds_append {text : Text} (unreturned : '\r' ∉ text) (rest : Text) :
    unifyLineEnds (text ++ rest) = text ++ unifyLineEnds rest := by
  induction text with
  | nil => rfl
  | cons c text ih =>
    rw [List.mem_cons, not_or] at unreturned
    rw [List.cons_append, unifyLineEnds, ih unreturned.2]
    · rfl
    · exact fun _ same _ => unreturned.1 same.symm
    · exact fun same => unreturned.1 same.symm

/-- The first character stays, unless it is a carriage return. -/
theorem unifyLineEnds_cons (c : Char) (rest : Text) :
    ∃ first more, unifyLineEnds (c :: rest) = first :: more ∧ (first = c ∨ first = '\n') := by
  rw [unifyLineEnds.eq_def]
  split
  · next same => cases same
  · exact ⟨'\n', _, rfl, .inr rfl⟩
  · exact ⟨'\n', _, rfl, .inr rfl⟩
  · next same =>
    obtain ⟨rfl, rfl⟩ := List.cons.inj same
    exact ⟨_, _, rfl, .inl rfl⟩

/-- No carriage return is left. -/
theorem not_mem_unifyLineEnds (text : Text) : '\r' ∉ unifyLineEnds text := by
  fun_induction unifyLineEnds text with
  | case1 => exact List.not_mem_nil
  | case2 rest ih => exact List.not_mem_cons_of_ne_of_not_mem (by decide) ih
  | case3 rest other ih => exact List.not_mem_cons_of_ne_of_not_mem (by decide) ih
  | case4 c rest other alone ih =>
    exact List.not_mem_cons_of_ne_of_not_mem (fun same => alone same.symm) ih

theorem replaceNulls_eq_self {text : Text} (filled : '\x00' ∉ text) : replaceNulls text = text := by
  refine (List.map_congr_left fun c listed => if_neg fun same => ?_).trans (List.map_id' text)
  exact filled (same ▸ listed)

/-- A character that is neither null nor its replacement was there before. -/
theorem mem_of_mem_replaceNulls {text : Text} {c : Char} (ordinary : c ≠ replacementChar)
    (listed : c ∈ replaceNulls text) : c ∈ text ∧ c ≠ '\x00' := by
  obtain ⟨before, among, same⟩ := List.mem_map.mp listed
  split at same
  · exact absurd same.symm ordinary
  · next filled => exact same ▸ ⟨among, filled⟩

/-! ## Where comments end -/

/-- What looks like the end of a comment, with something behind it. -/
theorem afterCommentEnd?_of_startsWith (text : Text)
    (closes : Text.startsWith "-->".toList text = true ∨
      Text.startsWith "--!>".toList text = true) : (afterCommentEnd? text).isSome := by
  rcases closes with closes | closes
  · obtain ⟨rest, found⟩ := Option.isSome_iff_exists.mp closes
    rw [Text.after?_eq_some_iff.mp found]
    rfl
  · obtain ⟨rest, found⟩ := Option.isSome_iff_exists.mp closes
    rw [Text.after?_eq_some_iff.mp found]
    rfl

/-- Before the end that was written no other one comes into being. -/
theorem afterCommentEnd?_append {c : Char} {text : Text}
    (open' : Text.startsWith "-->".toList (c :: text) = false)
    (openLoudly : Text.startsWith "--!>".toList (c :: text) = false) (rest : Text) :
    afterCommentEnd? (c :: text ++ ("-->".toList ++ rest)) = none := by
  have long : 3 < (c :: text ++ ("-->".toList ++ rest)).length := by
    rw [List.length_append, List.length_append, List.length_cons]
    have three : "-->".toList.length = 3 := rfl
    omega
  rw [afterCommentEnd?.eq_def]
  split
  · next same =>
    rcases text with _ | ⟨d, _ | ⟨e, text⟩⟩ <;> simp at same
    obtain ⟨rfl, rfl, rfl, _⟩ := same
    cases open'
  · next same =>
    rcases text with _ | ⟨d, _ | ⟨e, _ | ⟨f, text⟩⟩⟩ <;> simp at same
    obtain ⟨rfl, rfl, rfl, rfl, _⟩ := same
    cases openLoudly
  · next same => exact absurd (same ▸ long) (by decide)
  · next same => exact absurd (same ▸ long) (by decide)
  · next same => exact absurd (same ▸ long) (by decide)
  · rfl

/-- The body of a comment is the beginning of what is read. -/
theorem commentBody_prefix (text : Text) : (commentBody text).1 <+: text := by
  induction text with
  | nil => exact List.nil_prefix
  | cons c rest ih =>
    rw [commentBody]
    split
    · exact List.nil_prefix
    · exact List.prefix_cons_inj c |>.mpr ih

/-- The body of a comment does not contain an end of a comment. -/
theorem contains_commentBody {closing : Text}
    (closes : closing = "-->".toList ∨ closing = "--!>".toList) (text : Text) :
    Text.contains closing (commentBody text).1 = false := by
  induction text with
  | nil => rcases closes with rfl | rfl <;> rfl
  | cons c rest ih =>
    rw [commentBody]
    cases found : afterCommentEnd? (c :: rest) with
    | some after => rcases closes with rfl | rfl <;> rfl
    | none =>
      obtain ⟨behind, whole⟩ := commentBody_prefix rest
      rw [Text.contains, Bool.or_eq_false_iff]
      refine ⟨Bool.eq_false_iff.mpr fun begins => ?_, ih⟩
      obtain ⟨more, same⟩ := Option.isSome_iff_exists.mp begins
      have begun : Text.startsWith closing (c :: rest) = true := by
        rw [← whole, ← List.cons_append, Text.after?_eq_some_iff.mp same, List.append_assoc,
          Text.startsWith, Text.after?_append]
        rfl
      have ends := afterCommentEnd?_of_startsWith (c :: rest) (by
        rcases closes with rfl | rfl
        · exact .inl begun
        · exact .inr begun)
      rw [found] at ends
      cases ends

/-- A comment that contains no end is read up to the end that was written. -/
theorem commentBody_append {text : Text} (closed : Text.contains "-->".toList text = false)
    (closedLoudly : Text.contains "--!>".toList text = false) (rest : Text) :
    commentBody (text ++ ("-->".toList ++ rest)) = (text, rest) := by
  induction text with
  | nil => rfl
  | cons c text ih =>
    rw [Text.contains, Bool.or_eq_false_iff] at closed closedLoudly
    have unended := afterCommentEnd?_append closed.1 closedLoudly.1 rest
    rw [List.cons_append] at unended ⊢
    simp only [commentBody, unended, ih closed.2 closedLoudly.2]

end Token

/-! ## Comments that are written -/

variable {α : Type}

theorem write_comment (around : Surroundings) (mark : α) (text : Text)
    (children : List (Tree α)) : write around (.node mark (.comment text) children) =
      "<!--".toList ++ (text ++ "-->".toList) := by
  exact List.append_assoc _ _ _

/-- What is read of a comment that does not begin with a greater-than sign or a hyphen. -/
theorem next_comment {c : Char} {text : Text} (plain : c ≠ '>') (unhyphened : c ≠ '-') :
    next ("<!--".toList ++ (c :: text)) =
      ([.comment (replaceNulls (commentBody (c :: text)).1)], (commentBody (c :: text)).2) := by
  have body : commentAt (c :: text) = commentBody (c :: text) := by
    rw [commentAt]
    · exact fun _ same => plain (List.cons.inj same).1
    · exact fun _ same => unhyphened (List.cons.inj same).1
  have declared : declaration ('-' :: '-' :: c :: text) =
      (.comment (replaceNulls (commentBody (c :: text)).1), (commentBody (c :: text)).2) := by
    rw [← body]
    rfl
  have begun : next ("<!--".toList ++ (c :: text)) =
      ([(declaration ('-' :: '-' :: c :: text)).1],
        (declaration ('-' :: '-' :: c :: text)).2) := rfl
  rw [begun, declared]

/-- A lasting comment is read as it was written, and what follows as it would be anyway. -/
theorem next_comment_of_lasting {c : Char} {text : Text} (plain : c ≠ '>') (unhyphened : c ≠ '-')
    (lasting : Lasting (c :: text)) (rest : Text) :
    next (unifyLineEnds ("<!--".toList ++ (c :: text ++ "-->".toList) ++ rest)) =
      ([.comment (c :: text)], unifyLineEnds rest) := by
  have closing : unifyLineEnds ("-->".toList ++ rest) = "-->".toList ++ unifyLineEnds rest :=
    unifyLineEnds_append (by decide) rest
  rw [List.append_assoc, unifyLineEnds_append (by decide), List.append_assoc,
    unifyLineEnds_append lasting.unreturned, closing, List.cons_append,
    next_comment plain unhyphened, ← List.cons_append,
    commentBody_append lasting.closed lasting.closedLoudly, replaceNulls_eq_self lasting.filled]

/-- Only a lasting comment is read as it was written. -/
theorem lasting_of_next_comment {c : Char} {text rest after : Text} (plain : c ≠ '>')
    (unhyphened : c ≠ '-')
    (same : next (unifyLineEnds ("<!--".toList ++ (c :: text ++ "-->".toList) ++ rest)) =
      ([.comment (c :: text)], after)) : Lasting (c :: text) := by
  rw [List.append_assoc, unifyLineEnds_append (by decide), List.append_assoc] at same
  obtain ⟨first, more, unified, either⟩ := unifyLineEnds_cons c (text ++ ("-->".toList ++ rest))
  have plainFirst : first ≠ '>' ∧ first ≠ '-' := by
    rcases either with rfl | rfl
    · exact ⟨plain, unhyphened⟩
    · decide
  rw [List.cons_append, unified, next_comment plainFirst.1 plainFirst.2, ← unified,
    ← List.cons_append] at same
  have content := Token.comment.inj (List.cons.inj (Prod.mk.inj same).1).1
  have begins := commentBody_prefix (unifyLineEnds (c :: text ++ ("-->".toList ++ rest)))
  have unreturned : '\r' ∉ c :: text := fun listed => by
    have among := (mem_of_mem_replaceNulls (by decide) (content ▸ listed)).1
    exact not_mem_unifyLineEnds _ (begins.subset among)
  have filled : '\x00' ∉ c :: text := fun listed =>
    (mem_of_mem_replaceNulls (by decide) (content ▸ listed)).2 rfl
  -- The body begins what is read and is as long as the comment, so it is the comment.
  rw [unifyLineEnds_append unreturned] at begins content
  have long := (List.length_map _).symm.trans (congrArg List.length content)
  have body := (List.prefix_of_prefix_length_le begins (List.prefix_append _ _)
    (Nat.le_of_eq long)).eq_of_length long
  exact ⟨body ▸ contains_commentBody (.inl rfl) _, body ▸ contains_commentBody (.inr rfl) _,
    unreturned, filled⟩

/-- **A comment is read as it was written just if it is lasting.** -/
theorem next_comment_iff_lasting {c : Char} (text : Text) (plain : c ≠ '>') (unhyphened : c ≠ '-')
    (rest : Text) :
    next (unifyLineEnds ("<!--".toList ++ (c :: text ++ "-->".toList) ++ rest)) =
      ([.comment (c :: text)], unifyLineEnds rest) ↔ Lasting (c :: text) :=
  ⟨lasting_of_next_comment plain unhyphened,
    fun lasting => next_comment_of_lasting plain unhyphened lasting rest⟩

/-- A comment is over at the first end in it, and what stands behind that is read like any
other markup. -/
theorem next_comment_of_split {c : Char} {text front back : Text} (plain : c ≠ '>')
    (unhyphened : c ≠ '-') (split : c :: text = front ++ "-->".toList ++ back)
    (lasting : Lasting front) (rest : Text) :
    next (unifyLineEnds ("<!--".toList ++ (c :: text ++ "-->".toList) ++ rest)) =
      ([.comment front], unifyLineEnds (back ++ "-->".toList ++ rest)) := by
  cases front with
  | nil => exact absurd (List.cons.inj split).1 unhyphened
  | cons first front =>
    cases (List.cons.inj split).1
    have early := next_comment_of_lasting plain unhyphened lasting (back ++ "-->".toList ++ rest)
    rw [split]
    simp only [List.cons_append, List.append_assoc] at early ⊢
    exact early

end Polyglot.Markup
