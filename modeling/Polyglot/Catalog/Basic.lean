import Polyglot.Pairs.Basic
import Polyglot.Problem

/-!
# Catalogs

A catalog lists, for each of its languages, the same phrases in the same order.
A phrase is found by its position: the place of a phrase in one language is the
place of its counterpart in every other.

It is made as a table of three things that say much the same: the languages in
the order in which they were first added, a map from the languages to their
phrases, and for each language a map from its phrases to their first positions.
Adding a language puts it at the end of the order, unless the map has it, and
sets its phrases in the map, with positions that are noted in one round through
them.  The three go together in every table that is made by additions
(`Catalog.Table.consistent_ofList`), and a catalog is a table in which they do.
-/

set_option autoImplicit false

namespace Polyglot

/-- The phrases of a language, with the first position of each. -/
structure Phrasebook where
  phrases : List Text
  positions : List (Text × Nat)
  deriving DecidableEq, Repr

namespace Phrasebook

/-- Positions with those of phrases that stand from a position on; a phrase that is noted already
is passed over. -/
def note (known : List (Text × Nat)) (position : Nat) : List Text → List (Text × Nat)
  | [] => known
  | phrase :: rest => note (Pairs.setDefault phrase position known) (position + 1) rest

/-- The phrasebook of a sequence of phrases. -/
def ofPhrases (phrases : List Text) : Phrasebook :=
  ⟨phrases, note [] 0 phrases⟩

/-- A phrase is noted with the position that it has in what is known, or else with that of its
first occurrence. -/
theorem lookup_note (phrase : Text) (phrases : List Text) :
    ∀ (known : List (Text × Nat)) (position : Nat),
      (note known position phrases).lookup phrase =
        (known.lookup phrase).or ((phrases.idxOf? phrase).map (· + position)) := by
  induction phrases with
  | nil =>
    intro known position
    exact (Option.or_none).symm
  | cons first rest ih =>
    intro known position
    rw [note, ih, Pairs.lookup_setDefault, List.idxOf?_cons, Option.or_assoc]
    by_cases same : phrase = first
    · rw [same, if_pos rfl, beq_self_eq_true, if_pos rfl, Option.some_or, Option.map_some,
        Nat.zero_add]
    · have shift : (fun index => index + (position + 1)) =
          (fun index => index + position) ∘ fun index => index + 1 := by
        funext index
        exact (Nat.succ_add_eq_add_succ index position).symm
      rw [if_neg same, beq_false_of_ne (Ne.symm same), if_neg Bool.false_ne_true, Option.none_or,
        Option.map_map, shift]

theorem lookup_positions (phrases : List Text) (phrase : Text) :
    (ofPhrases phrases).positions.lookup phrase = phrases.idxOf? phrase := by
  rw [ofPhrases, lookup_note, List.lookup_nil, Option.none_or]
  exact Option.map_id' ..

end Phrasebook

/-- Languages in order, and a map to their phrasebooks. -/
structure Catalog.Table where
  languages : List Text
  books : List (Text × Phrasebook)
  deriving DecidableEq, Repr

namespace Catalog.Table

/-! ## Reading -/

/-- The first language. -/
def first? (table : Table) : Option Text :=
  table.languages.head?

/-- Whether a language is in the table. -/
def contains (table : Table) (language : Text) : Bool :=
  (table.books.lookup language).isSome

/-- Whether there are no languages. -/
def isEmpty (table : Table) : Bool :=
  table.languages.isEmpty

/-- The phrases of a language. -/
def phrases? (table : Table) (language : Text) : Option (List Text) :=
  (table.books.lookup language).map Phrasebook.phrases

/-- The first position of a phrase in a language. -/
def indexOf? (table : Table) (language phrase : Text) : Option Nat :=
  (table.books.lookup language).bind fun book => book.positions.lookup phrase

/-- The phrase of a language at a position. -/
def get? (table : Table) (language : Text) (index : Nat) : Option Text :=
  (table.phrases? language).bind fun phrases => phrases[index]?

/-- The counterpart in one language of a phrase in another. -/
def counterpart? (table : Table) (source target phrase : Text) : Option Text :=
  (table.indexOf? source phrase).bind (table.get? target)

/-- The languages in order, each with its phrases. -/
def entries (table : Table) : List (Text × List Text) :=
  table.languages.filterMap fun language => (table.phrases? language).map (language, ·)

/-- A table is of use only if it has a language. -/
def validate (table : Table) : Except Problem Unit :=
  if table.isEmpty then .error .tableEmpty else .ok ()

/-! ## Adding -/

/-- The table without languages. -/
def empty : Table := ⟨[], []⟩

/-- A table with the phrases of one language set. -/
def insert (table : Table) (language : Text) (phrases : List Text) : Table where
  languages := if table.contains language then table.languages else table.languages ++ [language]
  books := Pairs.set language (.ofPhrases phrases) table.books

/-- The table that adding languages one after the other builds. -/
def ofList (added : List (Text × List Text)) : Table :=
  added.foldl (fun table (language, phrases) => table.insert language phrases) empty

/-! ## Consistency -/

/-- Order, phrases and positions go together. -/
structure Consistent (table : Table) : Prop where
  /-- No language is listed twice, -/
  distinct : table.languages.Nodup
  /-- and those are listed that the map has. -/
  contains_iff : ∀ language, table.contains language = true ↔ language ∈ table.languages
  /-- The position of a phrase is that of its first occurrence. -/
  indexOf?_eq : ∀ language phrase, table.indexOf? language phrase =
    (table.phrases? language).bind fun phrases => phrases.idxOf? phrase

variable {table : Table}

theorem consistent_empty : empty.Consistent where
  distinct := List.nodup_nil
  contains_iff _ := iff_of_false Bool.false_ne_true List.not_mem_nil
  indexOf?_eq _ _ := rfl

theorem contains_insert (table : Table) (language : Text) (phrases : List Text) (other : Text) :
    (table.insert language phrases).contains other =
      (decide (other = language) || table.contains other) := by
  rw [contains, insert, Pairs.lookup_set]
  split
  · next same => simp [same]
  · next differs => simp [differs, contains]

theorem phrases?_insert (table : Table) (language : Text) (phrases : List Text) (other : Text) :
    (table.insert language phrases).phrases? other =
      if other = language then some phrases else table.phrases? other := by
  rw [phrases?, insert, Pairs.lookup_set]
  split <;> rfl

theorem indexOf?_insert (table : Table) (language : Text) (phrases : List Text)
    (other phrase : Text) : (table.insert language phrases).indexOf? other phrase =
      if other = language then phrases.idxOf? phrase else table.indexOf? other phrase := by
  rw [indexOf?, insert, Pairs.lookup_set]
  split
  · exact Phrasebook.lookup_positions phrases phrase
  · rfl

theorem Consistent.insert (consistent : table.Consistent) (language : Text)
    (phrases : List Text) : (table.insert language phrases).Consistent where
  distinct := by
    rw [Table.insert]
    split
    · exact consistent.distinct
    · next absent =>
      have new : language ∉ table.languages := fun listed =>
        absent ((consistent.contains_iff language).mpr listed)
      refine List.nodup_append.mpr ⟨consistent.distinct, List.pairwise_singleton _ _, ?_⟩
      intro one listed other last same
      exact new (List.mem_singleton.mp last ▸ same ▸ listed)
  contains_iff other := by
    rw [contains_insert, Bool.or_eq_true, decide_eq_true_eq, consistent.contains_iff, Table.insert]
    split
    · next present =>
      have listed := (consistent.contains_iff language).mp present
      exact ⟨fun either => either.elim (fun same => same ▸ listed) id, .inr⟩
    · rw [List.mem_append, List.mem_singleton, or_comm]
  indexOf?_eq other phrase := by
    rw [indexOf?_insert, phrases?_insert]
    split
    · rfl
    · exact consistent.indexOf?_eq other phrase

theorem Consistent.foldl (consistent : table.Consistent) (added : List (Text × List Text)) :
    (added.foldl (fun table (language, phrases) => table.insert language phrases)
      table).Consistent := by
  induction added generalizing table with
  | nil => exact consistent
  | cons first rest ih => exact ih (consistent.insert first.1 first.2)

/-- **The order, the phrases and the positions of a table that was made by additions** go
together. -/
theorem consistent_ofList (added : List (Text × List Text)) : (ofList added).Consistent :=
  consistent_empty.foldl added

end Catalog.Table

/-- A table in which languages, phrases and positions go together. -/
structure Catalog extends Catalog.Table where
  consistent : toTable.Consistent
  deriving DecidableEq, Repr

namespace Catalog

instance : Inhabited Catalog :=
  ⟨.empty, Table.consistent_empty⟩

/-- The catalog that adding languages one after the other builds. -/
def ofList (added : List (Text × List Text)) : Catalog :=
  ⟨.ofList added, Table.consistent_ofList added⟩

end Catalog

end Polyglot
