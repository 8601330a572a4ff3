import Polyglot.Proofs.Directive.Behind
import Polyglot.Proofs.Forest.Values
import Polyglot.Proofs.Localizer.Passes
import Polyglot.Proofs.Text.Parts

/-!
# Directives in a text and in the comment after it

Directives may stand in a text, behind its readable part, or in a comment right after it.
The two are read differently: in the text the readable part is cut off as it stands, while
the text before a comment is searched for values, which give way to their placeholders.
Both readings have the same phrase and say the same of it, if no value occurs in the
readable part (`Reading.of_inline`, `Reading.of_carried`).

Localizing the text also treats the directives differently: those of the text move into a
new comment, those of the comment stay where they are. In the end the children of the node
that both texts belong to are the same (`localizeText_carriers_agree`).
-/

set_option autoImplicit false

namespace Polyglot

/-! ## Values that do not occur -/

namespace Text

/-- A pattern that does not occur is not replaced. -/
theorem replaceAll_of_absent {pattern text : Text} (replacement : Text)
    (absent : contains pattern text = false) : replaceAll pattern replacement text = text := by
  induction text with
  | nil => exact replaceAll_nil pattern replacement
  | cons c rest ih =>
    rw [contains, Bool.or_eq_false_iff] at absent
    rw [replaceAll_cons replacement absent.1, ih absent.2]

end Text

namespace Directives

/-- A text whose directives begin it begins with a marker. -/
theorem startsWithMarker_of_begins {text : Text} (begins : (read text).start? = some 0) :
    Directive.startsWithMarker text = true :=
  List.drop_zero (l := text) ▸ (read_tail begins).2.2.2

/-- Directives that begin at the first byte begin at the first character. -/
theorem start?_of_byteOffset? {text : Text}
    (begins : (read text).byteOffset? text = some 0) :
    (read text).start? = some 0 := by
  obtain ⟨start, found, nothing⟩ := Option.map_eq_some_iff.mp begins
  rw [found]
  rcases List.take_eq_nil_iff.mp (Text.eq_nil_of_byteLength nothing) with same | empty
  · rw [same]
  · rw [empty] at found
    cases found

end Directives

namespace Reading

variable {base tail : Text}

/-- No value occurs in a text that could be mistaken for its placeholder's. -/
theorem withPlaceholders_of_apart {pairs : List DataPair}
    (apart : ∀ pair ∈ pairs, pair.value ≠ [] → Text.contains pair.value base = false) :
    withPlaceholders pairs base = base := by
  have each : ∀ pair ∈ pairs.filter fun pair => !pair.value.isEmpty,
      Text.contains pair.value base = false := fun pair listed => by
    obtain ⟨among, filled⟩ := List.mem_filter.mp listed
    exact apart pair among (by simpa using filled)
  rw [withPlaceholders]
  generalize pairs.filter (fun pair => !pair.value.isEmpty) = filled at each
  induction filled with
  | nil => rfl
  | cons pair rest ih =>
    obtain ⟨here, further⟩ := List.forall_mem_cons.mp each
    rw [List.foldl_cons, Text.replaceAll_of_absent _ here]
    exact ih further

/-- What becomes of a text depends on its phrase, on whether it is exempt and on its data. -/
theorem localized_congr (one other : Reading) (counterpart? : Text → Option Text)
    (phrase : one.phrase = other.phrase)
    (ignored : one.directives.ignored = other.directives.ignored)
    (data : one.directives.data = other.directives.data) :
    one.localized counterpart? = other.localized counterpart? := by
  rw [localized, localized, chosen, chosen, phrase, ignored, data]

variable (free : Directive.hasMarker base = false)
include free

/-- Directives that stand in a text behind its readable part. -/
theorem of_inline (begins : (Directives.read tail).start? = some 0) (carrier? : Option Text) :
    Reading.of (base ++ tail) carrier? =
    ⟨base ++ (Directives.read tail).keySuffix,
      { Directives.read tail with start? := some base.length }, some tail⟩ := by
  have marked := Directives.startsWithMarker_of_begins begins
  have behind := Directives.read_append free (.inr marked)
  rw [begins, Option.map_some, Nat.add_zero] at behind
  have present : (Directives.read (base ++ tail)).present = true := by
    rw [behind]
    exact Directives.present_of_start begins
  rw [of_of_present present, baseOf, behind]
  simp only [Directives.baseText, Directives.tail?, Option.map_some, List.take_left, List.drop_left]

/-- Directives that stand in the comment after it. -/
theorem of_carried
    (apart : ∀ pair ∈ (Directives.read tail).data, pair.value ≠ [] →
      Text.contains pair.value base = false) :
    Reading.of base (some tail) =
      ⟨base ++ (Directives.read tail).keySuffix, Directives.read tail, none⟩ := by
  rw [of_of_carried (Directives.present_of_free free), withPlaceholders_of_apart apart]

end Reading

/-! ## Siblings of a text -/

namespace Forest

variable {forest : Forest} {parent node : NodeId} {front back below : List (Tree Unit)}
  {here : Tree Unit}

theorem Stands.text? (stands : forest.Stands parent node front here back) :
    forest.text? node = here.content.text? := by
  rw [← stands.value, text?_content_value]

/-- The directives that a text finds after it are those of the first value after it. -/
theorem Stands.carrierText? (stands : forest.Stands parent node front here back)
    (wellFormed : forest.WellFormed) : forest.carrierText? node =
      (back.head?.bind fun tree => tree.content.comment?).filter Directive.hasMarker := by
  obtain ⟨left, right, split, _, rfl⟩ := stands.listed
  rw [carrierText?_eq, wellFormed.nextSibling?_of_split split, List.head?_map]
  cases right.head? with
  | none => rfl
  | some sibling =>
    rw [Option.map_some, Option.bind_some, Option.bind_some, comment?_content_value]

variable (wellFormed : forest.WellFormed) (acyclic : forest.Acyclic)
include wellFormed acyclic

/-- A text is given other words. -/
theorem Stands.write {text : Text}
    (stands : forest.Stands parent node front (.node () (.text text) below) back) (words : Text) :
    (forest.write node words).Stands parent node front (.node () (.text words) below) back := by
  have spoken : forest.text? node = some text := stands.text?
  have alike := write_alike spoken words
  have written := content?_write spoken words
  have acyclicThen : (forest.write node words).Acyclic := fun id => alike.lineage id ▸ acyclic id
  have result := stands.changed wellFormed acyclic (Nat.le_of_eq alike.size.symm)
    (fun id _ elsewhere => (written id).trans (if_neg elsewhere))
    (fun id _ _ => congrFun alike.children id) [] (alike.wellFormed wellFormed) acyclicThen
    (fun left right split => (congrFun alike.children parent).trans split)
  rw [written, if_pos rfl] at result
  exact result

/-- A comment is put right after a node. -/
theorem Stands.placeComment (stands : forest.Stands parent node front here back) (words : Text) :
    (forest.placeComment node none words).Stands parent node front here
      (.node () (.comment words) [] :: back) := by
  have placed : ∀ left right, forest.children parent = left ++ node :: right →
      forest.Placed (forest.placeComment node none words) node parent left right none words :=
    fun _ _ split => placed_insert wellFormed words split
  obtain ⟨left, right, split, _⟩ := stands.listed
  have once := placed left right split
  have wellFormedThen := once.wellFormed wellFormed
  have acyclicThen := (once.graded wellFormed (acyclic.graded wellFormed)).acyclic wellFormedThen
  have known := forest.lt_size_of_mem_children parent once.node_mem
  have result := stands.changed wellFormed acyclic
    (once.size ▸ Nat.le_succ _)
    (fun id old _ => (once.content? id).trans (if_neg (Nat.ne_of_lt old)))
    (fun id _ elsewhere => (once.children id).trans (if_neg elsewhere)) [forest.size]
    wellFormedThen acyclicThen
    (fun left right split => ((placed left right split).children parent).trans (if_pos rfl))
  have content : here.content = ((forest.placeComment node none words).content? node).getD
      .document := by
    rw [once.content?, if_neg (Nat.ne_of_lt (wellFormed.lt_size once.node_mem)), ← stands.value,
      content_value]
  have empty : (forest.placeComment node none words).values forest.size = [] := by
    rw [values, once.children, if_neg (Nat.ne_of_gt known),
      forest.children_eq_nil_of_size_le _ (Nat.le_refl _), List.map_nil]
  have comment : (forest.placeComment node none words).value forest.size =
      .node () (.comment words) [] := by
    rw [value_eq wellFormedThen acyclicThen, once.content?, if_pos rfl, empty]
    rfl
  rw [← content, List.map_singleton, comment] at result
  cases here
  exact result

end Forest

/-! ## Localizing both -/

/-- Where no directives are found after a text there is nothing to be replaced. -/
theorem Forest.carrier?_eq_none {forest : Forest} {node : NodeId}
    (bare : forest.carrierText? node = none) : Localizer.carrier? forest node = none := by
  cases found : Localizer.carrier? forest node with
  | none => rfl
  | some carrier =>
    have present := comment?_of_carrier? found
    rw [Forest.carrierText?, found, Option.bind_some] at bare
    rw [bare] at present
    cases present

namespace Localizer

open Forest

section Readings

variable (localizer : Localizer) {document : Document} {parent node : NodeId}
  {front back below : List (Tree Unit)} {base tail : Text} (source : Text)
  (wellFormed : document.forest.WellFormed) (acyclic : document.forest.Acyclic)
  (free : Directive.hasMarker base = false) (begins : (Directives.read tail).start? = some 0)
  (apart : ∀ pair ∈ (Directives.read tail).data, pair.value ≠ [] →
    Text.contains pair.value base = false)
include wellFormed acyclic free begins apart

/-- A text with directives behind its readable part, and none after it, gets other words,
and the directives come to stand after it. -/
theorem localizeText_inline
    (stands : document.forest.Stands parent node front (.node () (.text (base ++ tail)) below) back)
    (unmarked : (back.head?.bind fun tree => tree.content.comment?).filter Directive.hasMarker
      = none) :
    ∃ after, localizer.localizeText document node source = .ok (after,
        ((Reading.of base (some tail)).localized (localizer.counterpart? source)).2) ∧
      after.forest.Stands parent node front (.node () (.text
        ((Reading.of base (some tail)).localized (localizer.counterpart? source)).1) below)
          (.node () (.comment tail) [] :: back) := by
  have spoken : document.forest.text? node = some (base ++ tail) := stands.text?
  have bare := carrier?_eq_none ((stands.carrierText? wellFormed).trans unmarked)
  have read : document.forest.reading? node = some (Reading.of (base ++ tail) _) :=
    congrArg (Option.map _) spoken
  rw [Reading.of_inline free begins] at read
  have same := Reading.localized_congr
    ⟨base ++ (Directives.read tail).keySuffix,
      { Directives.read tail with start? := some base.length }, some tail⟩
    ⟨base ++ (Directives.read tail).keySuffix, Directives.read tail, none⟩
    (localizer.counterpart? source) rfl rfl rfl
  obtain ⟨after, done, forest⟩ := localizer.localizeText_of_reading? document node source read
  rw [Reading.of_carried free apart, ← same]
  refine ⟨after, done, ?_⟩
  have alike := write_alike spoken
    ((Reading.mk (base ++ (Directives.read tail).keySuffix)
      { Directives.read tail with start? := some base.length } (some tail)).localized
        (localizer.counterpart? source)).1
  rw [forest, localize_of_tail? read rfl, bare]
  exact (stands.write wellFormed acyclic _).placeComment (alike.wellFormed wellFormed)
    (fun id => alike.lineage id ▸ acyclic id) tail

/-- A text with directives in the comment after it gets other words, and the comment stays. -/
theorem localizeText_carried
    (stands : document.forest.Stands parent node front (.node () (.text base) below)
      (.node () (.comment tail) [] :: back)) :
    ∃ after, localizer.localizeText document node source = .ok (after,
        ((Reading.of base (some tail)).localized (localizer.counterpart? source)).2) ∧
      after.forest.Stands parent node front (.node () (.text
        ((Reading.of base (some tail)).localized (localizer.counterpart? source)).1) below)
          (.node () (.comment tail) [] :: back) := by
  have spoken : document.forest.text? node = some base := stands.text?
  have marked := Directive.hasMarker_of_startsWithMarker
    (Directives.startsWithMarker_of_begins begins)
  have carrier : document.forest.carrierText? node = some tail :=
    (stands.carrierText? wellFormed).trans (Option.filter_some_pos marked)
  have read : document.forest.reading? node = some (Reading.of base (some tail)) := by
    rw [reading?, spoken, Option.map_some, carrier]
  obtain ⟨after, done, forest⟩ := localizer.localizeText_of_reading? document node source read
  refine ⟨after, done, ?_⟩
  rw [forest, localize_of_tail?_eq_none read (by rw [Reading.of_carried free apart])]
  exact stands.write wellFormed acyclic _

end Readings

/-- **Directives say the same in a text and in the comment after it.** Of two documents, one
has a text with directives behind its readable part, and the other has the readable part
alone with a comment after it that holds the directives; around them the siblings are the
same. If no value occurs in the readable part, and the first of the siblings after it is no
comment with directives, the same becomes of both texts, and the children of the nodes that
they belong to are the same afterwards: a text, the comment, and the siblings as they were. -/
theorem localizeText_carriers_agree (localizer : Localizer) (source : Text)
    {inline carried : Document} {parent node parent' node' : NodeId}
    {front back below : List (Tree Unit)} {base tail : Text}
    (wellFormed : inline.forest.WellFormed) (acyclic : inline.forest.Acyclic)
    (wellFormed' : carried.forest.WellFormed) (acyclic' : carried.forest.Acyclic)
    (free : Directive.hasMarker base = false)
    (begins : (Directives.read tail).byteOffset? tail = some 0)
    (apart : ∀ pair ∈ (Directives.read tail).data, pair.value ≠ [] →
      Text.contains pair.value base = false)
    (unmarked : ∀ comment, (back.head?.bind fun tree => tree.content.comment?) = some comment →
      Directive.hasMarker comment = false)
    (stands : inline.forest.Stands parent node front (.node () (.text (base ++ tail)) below) back)
    (stands' : carried.forest.Stands parent' node' front (.node () (.text base) below)
      (.node () (.comment tail) [] :: back)) :
    ∃ outcome words one other,
      localizer.localizeText inline node source = .ok (one, outcome) ∧
      localizer.localizeText carried node' source = .ok (other, outcome) ∧
      one.forest.values parent = front ++ .node () (.text words) below ::
        .node () (.comment tail) [] :: back ∧
      other.forest.values parent' = front ++ .node () (.text words) below ::
        .node () (.comment tail) [] :: back := by
  have start := Directives.start?_of_byteOffset? begins
  have bare : (back.head?.bind fun tree => tree.content.comment?).filter Directive.hasMarker
      = none := Option.filter_eq_none_iff.mpr fun comment found =>
    Bool.eq_false_iff.mp (unmarked comment found)
  obtain ⟨one, done, standsThen⟩ :=
    localizer.localizeText_inline source wellFormed acyclic free start apart stands bare
  obtain ⟨other, done', standsThen'⟩ :=
    localizer.localizeText_carried source wellFormed' acyclic' free start apart stands'
  exact ⟨_, _, one, other, done, done', standsThen.values_eq, standsThen'.values_eq⟩

/-- A paragraph with a text, to which more may belong, and a line break. -/
def paragraph (text : Text) (more : List (Tree Unit)) : Document :=
  .ofForest (Forest.ofTrees [.node () (.element ⟨.html, ['p']⟩ []) (.node () (.text text) [] ::
    more ++ [.node () (.element ⟨.html, ['b', 'r']⟩ []) []])]).1

/-- A key and a value for the text. -/
def keyed : Text := " I18N_K k I18N_D x=1".toList

/-- A localizer that has the text in another language, with a place for the value. -/
def withKey : Localizer where
  watch := ⟨0, 0, 1⟩
  htmlLanguage := ['e']
  catalog := .ofList [(['e'], ["n I18N_K k".toList]), (['f'], ["m %x% I18N_K k".toList])]
  fallback? := none
  detection := ⟨[], [], [], [], [], []⟩
  language := ['f']
  textCalls := 0
  nodeCalls := 0
  passes := 0
  lastPass := .zero

/-- With the key and the value behind it or after it, the text is localized the same. -/
theorem localizeText_carriers_agree_keyed :
    let inline := paragraph ('n' :: keyed) []
    let carried := paragraph ['n'] [.node () (.comment keyed) []]
    ∃ one other,
      withKey.localizeText inline 2 ['e'] = .ok (one, .localized) ∧
      withKey.localizeText carried 2 ['e'] = .ok (other, .localized) ∧
      one.forest.text? 2 = some "m 1".toList ∧
      one.forest.values 1 = other.forest.values 1 := by
  intro inline carried
  have orderly : inline.forest.Orderly ∧ carried.forest.Orderly := by decide
  have behind : inline.forest.Stands 1 2 [] (.node () (.text (['n'] ++ keyed)) [])
      [.node () (.element ⟨.html, ['b', 'r']⟩ []) []] := ⟨⟨[], [3], rfl, rfl, rfl⟩, rfl⟩
  have after : carried.forest.Stands 1 2 [] (.node () (.text ['n']) [])
      [.node () (.comment keyed) [], .node () (.element ⟨.html, ['b', 'r']⟩ []) []] :=
    ⟨⟨[], [3, 4], rfl, rfl, rfl⟩, rfl⟩
  obtain ⟨outcome, words, one, other, done, done', values, values'⟩ :=
    localizeText_carriers_agree withKey ['e'] orderly.1.wellFormed orderly.1.acyclic
      orderly.2.wellFormed orderly.2.acyclic (by decide) (by decide) (by decide)
      (fun _ found => by cases found) behind after
  have becomes : (withKey.localizeText inline 2 ['e']).toOption.map (fun result =>
      (result.1.forest.text? 2, result.2)) = some (some "m 1".toList, .localized) := by decide
  rw [done, Except.toOption, Option.map_some, Option.some.injEq, Prod.mk.injEq] at becomes
  obtain ⟨text, rfl⟩ := becomes
  exact ⟨one, other, done, done', text, values.trans values'.symm⟩

end Localizer

end Polyglot
