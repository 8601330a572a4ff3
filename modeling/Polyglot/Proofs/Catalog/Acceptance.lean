import Mathlib.Data.Set.List
import Polyglot.Catalog.Json
import Polyglot.Proofs.Catalog.Additions

/-!
# Which values write a catalog

A value writes a catalog if it is a table: an object that is not empty and whose values are all
arrays of strings (`Json.IsTable`). The languages of the catalog are the keys of the object, in
their order, and the phrases of a language are the strings of its array. Since an object that is
read from a text has each key once (`Json.WrittenIn`), no language takes the place of another one.

What is said of any other value is about the first thing that does not fit (`Json.Misfit`). The
members are read in their order, and the items of each array in theirs, so the members before the
one that does not fit are all right, and so are the items before the one that is no string.

The main statement puts these together for every text that writes a value
(`Catalog.judged_read`).
-/

set_option autoImplicit false

namespace Polyglot

/-! ## Objects that are read -/

namespace Json

/-- Members of the object that a text writes: each key that is written is there once, at its first
place and with its last value. -/
def WrittenIn (text : Text) (members : List (Text × Json)) : Prop :=
  ∃ written pairs, JsonForm.read? text = some (.object written) ∧
    JsonForm.memberValues? (JsonForm.maxDepth - 1) written = some pairs ∧
      Pairs.Gathers members pairs

theorem writtenIn_of_read? {text : Text} {members : List (Text × Json)}
    (readable : read? text = some (.object members)) : WrittenIn text members := by
  obtain ⟨form, here, stands⟩ := Option.bind_eq_some_iff.mp readable
  rw [JsonForm.toValue?, JsonForm.maxDepth] at stands
  cases form with
  | null => cases stands
  | bool value => cases stands
  | number numeral =>
    obtain ⟨_, _, other⟩ := Option.map_eq_some_iff.mp stands
    cases other
  | string text? =>
    obtain ⟨_, _, other⟩ := Option.map_eq_some_iff.mp stands
    cases other
  | array items =>
    obtain ⟨_, _, other⟩ := Option.map_eq_some_iff.mp stands
    cases other
  | object written =>
    obtain ⟨pairs, valued, same⟩ := Option.map_eq_some_iff.mp stands
    cases same
    exact ⟨written, pairs, here, valued, Pairs.gathers_gathered pairs⟩

/-! ## Tables -/

/-- An array of strings. -/
def IsPhrases (value : Json) : Prop :=
  ∃ phrases : List Text, value = .array (phrases.map .string)

/-- An object that is not empty and whose values are all arrays of strings. -/
def IsTable (value : Json) : Prop :=
  ∃ members, value = .object members ∧ members ≠ [] ∧ ∀ member ∈ members, member.2.IsPhrases

/-- What is said of a value that is no table: what it has to do with, and the particulars. Of a
member, its key is named, and of an item of an array also its place. -/
inductive Misfit : Json → Category → Text → Prop where
  | noObject {value : Json} (other : ∀ members, value ≠ .object members) :
      Misfit value .resource "资源表必须是 JSON 对象".toList
  | empty : Misfit (.object []) .resource "资源表中没有任何语言".toList
  | noArray {before after : List (Text × Json)} {language : Text} {entry : Json}
      (fine : ∀ member ∈ before, member.2.IsPhrases) (other : ∀ items, entry ≠ .array items) :
      Misfit (.object (before ++ (language, entry) :: after)) .parse
        ("语言 '".toList ++ language ++ "' 的条目必须是字符串数组".toList)
  | noString {before after : List (Text × Json)} {language : Text} {phrases : List Text}
      {item : Json} {items : List Json} (fine : ∀ member ∈ before, member.2.IsPhrases)
      (other : ∀ text, item ≠ .string text) :
      Misfit
        (.object (before ++ (language, .array (phrases.map .string ++ item :: items)) :: after))
        .parse
        ("语言 '".toList ++ language ++ "' 第 ".toList ++ Text.ofNat phrases.length
          ++ " 项不是字符串: ".toList ++ item.compact)

/-- Nothing is said of a table. -/
theorem Misfit.not_isTable {value : Json} {category : Category} {particulars : Text}
    (misfit : value.Misfit category particulars) : ¬ value.IsTable := by
  rintro ⟨members, rfl, filled, fine⟩
  cases misfit with
  | noObject other => exact other members rfl
  | empty => exact filled rfl
  | noArray _ other =>
    obtain ⟨phrases, same⟩ := fine _ (List.mem_append_right _ List.mem_cons_self)
    exact other _ same
  | @noString _ _ _ strings item items _ other =>
    obtain ⟨phrases, same⟩ := fine _ (List.mem_append_right _ List.mem_cons_self)
    have listed : item ∈ strings.map .string ++ item :: items :=
      List.mem_append_right _ List.mem_cons_self
    rw [Json.array.inj same, List.mem_map] at listed
    obtain ⟨text, _, written⟩ := listed
    exact other text written.symm

end Json

/-- Of a list in which not everything is right, the first thing that is not. -/
theorem exists_first_of_not_forall {α : Type} {right : α → Prop} {items : List α}
    (wrong : ¬ ∀ item ∈ items, right item) :
    ∃ before item after, items = before ++ item :: after ∧
      (∀ earlier ∈ before, right earlier) ∧ ¬ right item := by
  classical
  cases found : items.find? fun item => ¬ right item with
  | none =>
    refine absurd (fun item listed => ?_) wrong
    simpa using List.find?_eq_none.mp found item listed
  | some item =>
    obtain ⟨bad, before, after, whole, earlier⟩ := List.find?_eq_some_iff_append.mp found
    exact ⟨before, item, after, whole, by simpa using earlier, by simpa using bad⟩

/-- A list of values of a function is made from the list of their sources. -/
theorem exists_eq_map_of_forall {α β : Type} {f : α → β} {items : List β}
    (each : ∀ item ∈ items, ∃ source, f source = item) :
    ∃ sources : List α, items = sources.map f := by
  have whole : items ∈ Set.range (List.map f) := by
    rw [Set.range_list_map]
    exact each
  obtain ⟨sources, same⟩ := whole
  exact ⟨sources, same.symm⟩

namespace Catalog

/-! ## What is read -/

/-- The member that a language with its phrases is written as. -/
def memberOf (entry : Text × List Text) : Text × Json :=
  (entry.1, .array (entry.2.map .string))

theorem memberOf_injective : Function.Injective memberOf := by
  intro entry other same
  obtain ⟨language, array⟩ := Prod.mk.inj same
  have strings : Function.Injective Json.string := fun _ _ written => Json.string.inj written
  exact Prod.ext language (List.map_injective_iff.mpr strings (Json.array.inj array))

/-- Strings in front are read as they stand. -/
theorem phrasesFrom_append (language : Text) (phrases : List Text) (rest : List Json) :
    ∀ index, phrasesFrom language index (phrases.map .string ++ rest) =
      (phrasesFrom language (index + phrases.length) rest).map (phrases ++ ·) := by
  induction phrases with
  | nil =>
    intro index
    cases read : phrasesFrom language index rest with
    | error problem => simp [read, Except.map]
    | ok others => simp [read, Except.map]
  | cons phrase phrases ih =>
    intro index
    have place : index + 1 + phrases.length = index + (phrase :: phrases).length := by
      rw [List.length_cons]
      omega
    rw [List.map_cons, List.cons_append, phrasesFrom, ih, place]
    cases phrasesFrom language (index + (phrase :: phrases).length) rest with
    | error problem => rfl
    | ok others => rfl

theorem phrasesFrom_map (language : Text) (phrases : List Text) :
    phrasesFrom language 0 (phrases.map .string) = .ok phrases := by
  have whole := phrasesFrom_append language phrases [] 0
  rwa [List.append_nil, phrasesFrom, Except.map, List.append_nil] at whole

/-- An item that is no string is named with its place. -/
theorem phrasesFrom_of_item (language : Text) (phrases : List Text) {item : Json}
    (items : List Json) (other : ∀ text, item ≠ .string text) :
    phrasesFrom language 0 (phrases.map .string ++ item :: items) =
      .error (.itemNotAString language phrases.length item) := by
  rw [phrasesFrom_append, Nat.zero_add]
  cases item with
  | string text => exact absurd rfl (other text)
  | _ => rfl

/-- Languages in front are read as they stand. -/
theorem entriesOf_append (entries : List (Text × List Text)) (rest : List (Text × Json)) :
    entriesOf (entries.map memberOf ++ rest) = (entriesOf rest).map (entries ++ ·) := by
  induction entries with
  | nil =>
    cases read : entriesOf rest with
    | error problem => simp [read, Except.map]
    | ok others => simp [read, Except.map]
  | cons entry entries ih =>
    rw [List.map_cons, List.cons_append, memberOf, entriesOf, phrasesFrom_map]
    dsimp only
    rw [ih]
    cases entriesOf rest with
    | error problem => rfl
    | ok others => rfl

/-- What is wrong with a member is wrong with its object, if all is right before it. -/
theorem ofJson_of_entriesOf (entries : List (Text × List Text)) {rest : List (Text × Json)}
    {problem : Problem} (refused : entriesOf rest = .error problem) :
    ofJson (.object (entries.map memberOf ++ rest)) = .error problem := by
  rw [ofJson, entriesOf_append, refused]
  rfl

/-- A table is read as the catalog of its languages. -/
theorem ofJson_map {entries : List (Text × List Text)} (filled : entries ≠ [])
    (distinct : (entries.map Prod.fst).Nodup) :
    ofJson (.object (entries.map memberOf)) = .ok (ofList entries) := by
  have members : entriesOf (entries.map memberOf) = .ok entries := by
    have whole := entriesOf_append entries []
    rwa [List.append_nil, entriesOf, Except.map, List.append_nil] at whole
  have languages : (ofList entries).languages = entries.map Prod.fst := by
    rw [ofList, Table.languages_ofList, Pairs.gathered_of_nodup distinct]
  have valid : (ofList entries).validate = .ok () := by
    rw [Table.validate, Table.isEmpty, languages, if_neg (by simpa using filled)]
  rw [ofJson, members]
  change ((ofList entries).validate >>= fun _ => pure (ofList entries)) = _
  rw [valid]
  rfl

/-! ## Acceptance -/

/-- What becomes of a value that is read as a catalog. -/
structure Judged (value : Json) (result : Except Problem Catalog) : Prop where
  /-- It is accepted just if it is a table. -/
  accepted_iff : (∃ catalog, result = .ok catalog) ↔ value.IsTable
  /-- The languages of the catalog are then the keys, in their order, and the phrases of a
  language are those of its array. -/
  holds : ∀ catalog, result = .ok catalog → ∃ members, value = .object members ∧
    catalog.languages = members.map Prod.fst ∧ ∀ language phrases,
      catalog.phrases? language = some phrases ↔
        (language, .array (phrases.map .string)) ∈ members
  /-- Otherwise what is said is about the first thing that does not fit. -/
  refused : ∀ problem, result = .error problem →
    value.Misfit problem.category problem.particulars

theorem judged_error {value : Json} {problem : Problem}
    (misfit : value.Misfit problem.category problem.particulars) :
    Judged value (.error problem) where
  accepted_iff := iff_of_false nofun misfit.not_isTable
  holds := nofun
  refused other same := by
    cases same
    exact misfit

theorem exists_eq_map_memberOf {members : List (Text × Json)}
    (fine : ∀ member ∈ members, member.2.IsPhrases) :
    ∃ entries : List (Text × List Text), members = entries.map memberOf := by
  refine exists_eq_map_of_forall fun ⟨language, entry⟩ listed => ?_
  obtain ⟨phrases, same⟩ := fine _ listed
  exact ⟨(language, phrases), congrArg (language, ·) same.symm⟩

/-- A table in which no key comes twice. -/
theorem judged_ok {entries : List (Text × List Text)} (filled : entries ≠ [])
    (distinct : (entries.map Prod.fst).Nodup) :
    Judged (.object (entries.map memberOf)) (.ok (ofList entries)) where
  accepted_iff := by
    refine iff_of_true ⟨_, rfl⟩ ⟨_, rfl, by simpa using filled, fun member listed => ?_⟩
    obtain ⟨entry, _, rfl⟩ := List.mem_map.mp listed
    exact ⟨entry.2, rfl⟩
  holds catalog same := by
    cases same
    refine ⟨_, rfl, ?_, fun language phrases => ?_⟩
    · rw [ofList, Table.languages_ofList, Pairs.gathered_of_nodup distinct, List.map_map]
      rfl
    · rw [ofList, Table.phrases?_ofList, Pairs.gathered_of_nodup distinct,
        Pairs.lookup_eq_some_iff_mem distinct]
      exact (List.mem_map_of_injective memberOf_injective).symm
  refused := nofun

/-- A member whose value is no array of strings, behind members that are all right. -/
theorem exists_entriesOf_eq_error {before : List (Text × Json)} {language : Text} {entry : Json}
    (after : List (Text × Json)) (fine : ∀ member ∈ before, member.2.IsPhrases)
    (other : ¬ entry.IsPhrases) :
    ∃ problem, entriesOf ((language, entry) :: after) = .error problem ∧
      (Json.object (before ++ (language, entry) :: after)).Misfit problem.category
        problem.particulars := by
  by_cases array : ∃ items, entry = .array items
  · obtain ⟨items, rfl⟩ := array
    have mixed : ¬ ∀ item ∈ items, ∃ text, Json.string text = item := by
      intro strings
      obtain ⟨phrases, rfl⟩ := exists_eq_map_of_forall strings
      exact other ⟨phrases, rfl⟩
    obtain ⟨front, item, rest, rfl, strings, wrong⟩ := exists_first_of_not_forall mixed
    obtain ⟨phrases, rfl⟩ := exists_eq_map_of_forall strings
    have noString : ∀ text, item ≠ .string text := fun text same => wrong ⟨text, same.symm⟩
    refine ⟨.itemNotAString language phrases.length item, ?_, .noString fine noString⟩
    rw [entriesOf, phrasesFrom_of_item language phrases rest noString]
  · have noArray : ∀ items, entry ≠ .array items := fun items same => array ⟨items, same⟩
    refine ⟨.entryNotAnArray language, ?_, .noArray fine noArray⟩
    cases entry with
    | array items => exact absurd rfl (noArray items)
    | _ => rfl

/-- **A value in whose object no key comes twice** is accepted just if it is a table. -/
theorem judged_ofJson {value : Json}
    (distinct : ∀ members, value = .object members → (members.map Prod.fst).Nodup) :
    Judged value (ofJson value) := by
  cases value with
  | object members =>
    by_cases fine : ∀ member ∈ members, member.2.IsPhrases
    · obtain ⟨entries, rfl⟩ := exists_eq_map_memberOf fine
      by_cases filled : entries = []
      · subst filled
        exact judged_error .empty
      · have keys : (entries.map Prod.fst).Nodup := by
          simpa [Function.comp_def, memberOf] using distinct _ rfl
        rw [ofJson_map filled keys]
        exact judged_ok filled keys
    · obtain ⟨before, ⟨language, entry⟩, after, rfl, right, wrong⟩ :=
        exists_first_of_not_forall fine
      obtain ⟨problem, refused, misfit⟩ := exists_entriesOf_eq_error after right wrong
      obtain ⟨entries, rfl⟩ := exists_eq_map_memberOf right
      rw [ofJson_of_entriesOf entries refused]
      exact judged_error misfit
  | _ => exact judged_error (.noObject nofun)

/-- **A text that writes a value** is accepted as a catalog just if the value is a table; if it is
not, the first thing that does not fit is named. An object has each key that is written once, at
its first place and with its last value. -/
theorem judged_read {text : Text} {value : Json} (readable : Json.read? text = some value) :
    (∀ members, value = .object members → Json.WrittenIn text members) ∧
      Judged value (read text) := by
  have objects : ∀ members, value = .object members → Json.WrittenIn text members := by
    rintro members rfl
    exact Json.writtenIn_of_read? readable
  refine ⟨objects, ?_⟩
  rw [read, readable]
  refine judged_ofJson fun members same => ?_
  obtain ⟨_, _, _, _, gathers⟩ := objects members same
  exact gathers.nodup

/-- A language may be without phrases, and one that is written twice keeps its place. -/
example : (read "\x7b\"a\":[\"x\"],\"b\":[],\"a\":[\"z\"]\x7d".toList).toOption =
    some (ofList [(['a'], [['z']]), (['b'], [])]) := by
  decide +kernel

/-- A key that is written twice, at first with a value that would not do. -/
def repeated : Text := "\x7b\"a\":[1],\"b\":[\"y\",3],\"a\":[]\x7d".toList

/-- The last value of the key counts, so that it is the other key that is named, with the place of
the number in its array. -/
theorem judged_read_repeated :
    ∃ value problem, Json.read? repeated = some value ∧ read repeated = .error problem ∧
      value.Misfit problem.category problem.particulars ∧ problem.category = .parse ∧
        problem.particulars = "语言 'b' 第 1 项不是字符串: 3".toList := by
  have writes : (Json.read? repeated).isSome = true := by decide +kernel
  have said : (match read repeated with
      | .ok _ => none
      | .error problem => some (problem.category, problem.particulars)) =
      some (.parse, "语言 'b' 第 1 项不是字符串: 3".toList) := by decide +kernel
  obtain ⟨value, readable⟩ := Option.isSome_iff_exists.mp writes
  have judged := (judged_read readable).2
  cases refused : read repeated with
  | ok catalog =>
    rw [refused] at said
    cases said
  | error problem =>
    rw [refused] at said
    obtain ⟨category, particulars⟩ := Prod.mk.inj (Option.some.inj said)
    exact ⟨value, problem, readable, rfl, judged.refused problem refused, category, particulars⟩

end Catalog

end Polyglot
