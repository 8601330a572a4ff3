import Polyglot.Catalog.Basic
import Polyglot.Proofs.Pairs

/-!
# Catalogs made by additions

A table that is made by adding languages one after the other lists each of them once, at the
place where it was first added, with the phrases that were added for it last
(`Catalog.Table.Gathers`). Its order is that of the keys of pairs that are set one after the
other, and its map finds the phrases that are found there (`Catalog.Table.languages_ofList`,
`Catalog.Table.phrases?_ofList`).

A phrase is looked up in the positions that were noted when its language was added. They are
those of the first occurrences, so the phrase stands at the position that is found, and different
phrases are found at different positions (`Catalog.Table.Indexed`).
-/

set_option autoImplicit false

namespace Polyglot

namespace Catalog.Table

variable {table : Table} {added : List (Text × List Text)} {language phrase : Text}

/-! ## Languages -/

theorem contains_iff_exists :
    table.contains language = true ↔ ∃ phrases, table.phrases? language = some phrases := by
  rw [contains, ← Option.isSome_map (f := Phrasebook.phrases), Option.isSome_iff_exists]
  rfl

theorem ofList_concat (added : List (Text × List Text)) (last : Text × List Text) :
    ofList (added ++ [last]) = (ofList added).insert last.1 last.2 :=
  List.foldl_concat _ _ _ _

/-- The languages are in the order of their first additions. -/
theorem languages_ofList (added : List (Text × List Text)) :
    (ofList added).languages = (Pairs.gathered added).map Prod.fst := by
  induction added using List.reverseRecOn with
  | nil => rfl
  | append_singleton added last ih =>
    have listed := (consistent_ofList added).contains_iff last.1
    rw [ofList_concat, Pairs.gathered_concat, Pairs.keys_set, ← ih, insert]
    simp only [listed]

/-- The map has the phrases of the last additions. -/
theorem phrases?_ofList (added : List (Text × List Text)) (language : Text) :
    (ofList added).phrases? language = (Pairs.gathered added).lookup language := by
  induction added using List.reverseRecOn with
  | nil => rfl
  | append_singleton added last ih =>
    rw [ofList_concat, Pairs.gathered_concat, phrases?_insert, Pairs.lookup_set, ih]

/-- What a table holds of the additions that it was made by. -/
structure Gathers (table : Table) (added : List (Text × List Text)) : Prop where
  /-- It has the languages that were added, -/
  mem_languages_iff : ∀ language, language ∈ table.languages ↔ language ∈ added.map Prod.fst
  /-- each once and all in the order in which they were first added. -/
  ordered : table.languages.Pairwise fun one other =>
    (added.map Prod.fst).idxOf one < (added.map Prod.fst).idxOf other
  /-- The phrases of a language are those that were added for it last. -/
  phrases?_eq : ∀ language, table.phrases? language = added.reverse.lookup language

theorem gathers_ofList (added : List (Text × List Text)) : (ofList added).Gathers added := by
  have gathers := Pairs.gathers_gathered added
  constructor
  · rw [languages_ofList]
    exact gathers.mem_keys_iff
  · rw [languages_ofList]
    exact gathers.ordered
  · intro language
    rw [phrases?_ofList, gathers.lookup_eq]

/-! ## Positions -/

section Consistent

variable (consistent : table.Consistent)
include consistent

/-- **The position of a phrase** is the first one at which it stands. -/
theorem Consistent.indexOf?_eq_some_iff {index : Nat} :
    table.indexOf? language phrase = some index ↔
      ∃ phrases, table.phrases? language = some phrases ∧ phrases[index]? = some phrase ∧
        ∀ earlier < index, phrases[earlier]? ≠ some phrase := by
  rw [consistent.indexOf?_eq, Option.bind_eq_some_iff]
  refine exists_congr fun phrases => and_congr_right fun _ => ?_
  rw [List.idxOf?_eq_some_iff]
  constructor
  · rintro ⟨bound, here, first⟩
    refine ⟨List.getElem?_eq_some_iff.mpr ⟨bound, here⟩, fun earlier before also => ?_⟩
    obtain ⟨inside, there⟩ := List.getElem?_eq_some_iff.mp also
    exact first earlier before there
  · rintro ⟨stands, first⟩
    obtain ⟨bound, here⟩ := List.getElem?_eq_some_iff.mp stands
    refine ⟨bound, here, fun earlier before there => first earlier before ?_⟩
    exact List.getElem?_eq_some_iff.mpr ⟨Nat.lt_trans before bound, there⟩

theorem Consistent.indexOf?_eq_none_iff : table.indexOf? language phrase = none ↔
    ∀ phrases, table.phrases? language = some phrases → phrase ∉ phrases := by
  rw [consistent.indexOf?_eq, Option.bind_eq_none_iff]
  simp only [List.idxOf?_eq_none_iff]

/-- A phrase stands at its position. -/
theorem Consistent.get?_of_indexOf? {index : Nat}
    (found : table.indexOf? language phrase = some index) :
    table.get? language index = some phrase := by
  obtain ⟨phrases, listed, stands, _⟩ := consistent.indexOf?_eq_some_iff.mp found
  rw [get?, listed, Option.bind_some, stands]

/-- The entries are the languages with their phrases. -/
theorem Consistent.mem_entries_iff {phrases : List Text} :
    (language, phrases) ∈ table.entries ↔ table.phrases? language = some phrases := by
  rw [entries, List.mem_filterMap]
  constructor
  · rintro ⟨other, _, same⟩
    obtain ⟨others, found, pair⟩ := Option.map_eq_some_iff.mp same
    obtain ⟨rfl, rfl⟩ := Prod.mk.inj pair
    exact found
  · intro found
    have present := contains_iff_exists.mpr ⟨phrases, found⟩
    exact ⟨language, (consistent.contains_iff language).mp present, by rw [found, Option.map_some]⟩

end Consistent

/-- How phrases are found in a table. -/
structure Indexed (table : Table) : Prop where
  /-- No language is listed twice, -/
  distinct : table.languages.Nodup
  /-- and there is an entry just for the languages that are listed. -/
  contains_iff : ∀ language, table.contains language = true ↔ language ∈ table.languages
  /-- A position that is found is the first one at which the phrase stands, -/
  found_iff : ∀ language phrase index, table.indexOf? language phrase = some index ↔
    ∃ phrases, table.phrases? language = some phrases ∧ phrases[index]? = some phrase ∧
      ∀ earlier < index, phrases[earlier]? ≠ some phrase
  /-- and none is found just if the phrase does not stand in the language. -/
  missed_iff : ∀ language phrase, table.indexOf? language phrase = none ↔
    ∀ phrases, table.phrases? language = some phrases → phrase ∉ phrases
  /-- The position gives the phrase back, -/
  stands : ∀ language phrase index, table.indexOf? language phrase = some index →
    table.get? language index = some phrase
  /-- so that no other phrase has it. -/
  unique : ∀ language one other index, table.indexOf? language one = some index →
    table.indexOf? language other = some index → one = other

theorem Consistent.indexed (consistent : table.Consistent) : table.Indexed where
  distinct := consistent.distinct
  contains_iff := consistent.contains_iff
  found_iff _ _ _ := consistent.indexOf?_eq_some_iff
  missed_iff _ _ := consistent.indexOf?_eq_none_iff
  stands _ _ _ := consistent.get?_of_indexOf?
  unique _ _ _ _ found also :=
    Option.some.inj
      ((consistent.get?_of_indexOf? found).symm.trans (consistent.get?_of_indexOf? also))

/-- **A table that was made by additions** lists each added language once, in the order in which
they were first added, has the phrases that were added last, and finds a phrase at the first
position at which it stands in a language. -/
theorem ofList_gathers_indexed (added : List (Text × List Text)) :
    (ofList added).Gathers added ∧ (ofList added).Indexed :=
  ⟨gathers_ofList added, (consistent_ofList added).indexed⟩

/-- A language that is added again keeps its place, and of a phrase that stands twice in it the
first position counts. -/
example :
    let table := ofList [(['e'], [['a']]), (['s'], [['b']]), (['e'], [['c'], ['d'], ['c']])]
    table.languages = [['e'], ['s']] ∧ table.indexOf? ['e'] ['c'] = some 0 ∧
      table.indexOf? ['e'] ['a'] = none := by
  decide

end Catalog.Table

end Polyglot
