import Mathlib.Logic.Function.Conjugate
import Polyglot.Proofs.Localizer.Hearing

/-!
# Exchanging phrases

Where a catalog has no phrase twice and as many phrases in each language, to exchange
the phrases of one language for those of another is to move along a place of the
catalog, and a phrase of any other language stays as it is. So it does not matter
whether a text is put into a language first and from there into another, or is changed
from the one to the other first and put into that one after (`Exact.semiconj_exchange`).

A text without markers that has no directives after it is changed by a visit in just
that way (`Wording.localized_bare`), and forests in which all texts of a subtree are
such stay so (`Steady.of_bare`).
-/

set_option autoImplicit false

namespace Polyglot

/-! ## Catalogs -/

namespace Catalog

/-- A catalog with as many phrases in each language, in which no phrase occurs twice, be
it in one language or in two, and none has a marker. -/
structure Exact (catalog : Catalog) : Prop where
  even : ∀ one other first second, catalog.phrases? one = some first →
    catalog.phrases? other = some second → first.length = second.length
  unique : ∀ one other first second phrase, catalog.get? one first = some phrase →
    catalog.get? other second = some phrase → one = other ∧ first = second
  free : ∀ language index phrase, catalog.get? language index = some phrase →
    Directive.hasMarker phrase = false

/-- The counterpart of a phrase, or the phrase itself where it has none. -/
def exchange (catalog : Catalog) (source target phrase : Text) : Text :=
  (catalog.counterpart? source target phrase).getD phrase

variable {catalog : Catalog} {source target phrase : Text}

/-- A phrase that is not in a language stays as it is. -/
theorem exchange_of_absent (absent : ∀ index, catalog.get? source index ≠ some phrase) :
    catalog.exchange source target phrase = phrase := by
  have nowhere : catalog.indexOf? source phrase = none :=
    Option.eq_none_iff_forall_ne_some.mpr fun index found =>
      absent index (catalog.consistent.get?_of_indexOf? found)
  rw [exchange, Table.counterpart?, nowhere]
  rfl

namespace Exact

/-- Whether a catalog is exact is seen from its entries. -/
theorem of_entries
    (even : ∀ one ∈ catalog.entries, ∀ other ∈ catalog.entries, one.2.length = other.2.length)
    (unique : (catalog.entries.flatMap Prod.snd).Nodup)
    (free : ∀ entry ∈ catalog.entries, ∀ phrase ∈ entry.2, Directive.hasMarker phrase = false) :
    catalog.Exact := by
  have listed : ∀ language phrases, catalog.phrases? language = some phrases →
      (language, phrases) ∈ catalog.entries :=
    fun _ _ => catalog.consistent.mem_entries_iff.mpr
  refine ⟨fun one other first second found also => ?_,
    fun one other first second phrase found also => ?_, fun language index phrase found => ?_⟩
  · exact even _ (listed one first found) _ (listed other second also)
  · obtain ⟨phrases, inOne, there⟩ := Option.bind_eq_some_iff.mp found
    obtain ⟨others, inOther, elsewhere⟩ := Option.bind_eq_some_iff.mp also
    obtain ⟨each, disjoint⟩ := List.nodup_flatMap.mp unique
    by_cases same : (one, phrases) = (other, others)
    · obtain ⟨rfl, rfl⟩ := Prod.mk.inj same
      obtain ⟨bound, here⟩ := List.getElem?_eq_some_iff.mp there
      exact ⟨rfl, (List.getElem?_inj bound (each _ (listed one phrases inOne))).mp
        (there.trans elsewhere.symm)⟩
    · have : Std.Symm (Function.onFun List.Disjoint (Prod.snd : Text × List Text → List Text)) :=
        ⟨fun _ _ apart => List.disjoint_symm apart⟩
      have apart := disjoint.forall (listed one phrases inOne) (listed other others inOther) same
      exact (apart (List.mem_of_getElem? there) (List.mem_of_getElem? elsewhere)).elim
  · obtain ⟨phrases, found, there⟩ := Option.bind_eq_some_iff.mp found
    exact free _ (listed language phrases found) phrase (List.mem_of_getElem? there)

variable (exact : catalog.Exact)
include exact

theorem counterpart?_eq {index : Nat} (stands : catalog.get? source index = some phrase) :
    catalog.counterpart? source target phrase = catalog.get? target index := by
  refine counterpart?_of_get? (fun language phrases listed => ?_) stands
  refine List.nodup_iff_getElem?_ne_getElem?.mpr fun first second before bound same => ?_
  have twice : ∀ index, catalog.get? language index = phrases[index]? := fun index => by
    rw [Table.get?, listed, Option.bind_some]
  have here := List.getElem?_eq_getElem bound
  have place := (exact.unique language language first second phrases[second]
    ((twice first).trans (same.trans here)) ((twice second).trans here)).2
  omega

/-- Every language has a phrase at a place where one of them has. -/
theorem exists_get? {index : Nat} (stands : catalog.get? source index = some phrase)
    (known : catalog.contains target = true) :
    ∃ counterpart, catalog.get? target index = some counterpart := by
  obtain ⟨first, listed, here⟩ := Option.bind_eq_some_iff.mp stands
  obtain ⟨second, also⟩ := Table.contains_iff_exists.mp known
  obtain ⟨bound, _⟩ := List.getElem?_eq_some_iff.mp here
  rw [exact.even source target first second listed also] at bound
  exact ⟨_, by rw [Table.get?, also, Option.bind_some, List.getElem?_eq_getElem bound]⟩

theorem exchange_of_get? {index : Nat} {counterpart : Text}
    (stands : catalog.get? source index = some phrase)
    (there : catalog.get? target index = some counterpart) :
    catalog.exchange source target phrase = counterpart := by
  rw [exchange, exact.counterpart?_eq stands, there, Option.getD_some]

/-- A phrase of the language that is wanted stays as it is. -/
theorem exchange_of_target {index : Nat} (stands : catalog.get? target index = some phrase) :
    catalog.exchange source target phrase = phrase := by
  by_cases present : ∃ other, catalog.get? source other = some phrase
  · obtain ⟨other, also⟩ := present
    obtain ⟨rfl, rfl⟩ := exact.unique _ _ _ _ phrase also stands
    exact exact.exchange_of_get? also also
  · exact exchange_of_absent (not_exists.mp present)

theorem exchange_self (language phrase : Text) :
    catalog.exchange language language phrase = phrase := by
  by_cases present : ∃ index, catalog.get? language index = some phrase
  · obtain ⟨index, stands⟩ := present
    exact exact.exchange_of_target stands
  · exact exchange_of_absent (not_exists.mp present)

theorem free_exchange (source target : Text) (free : Directive.hasMarker phrase = false) :
    Directive.hasMarker (catalog.exchange source target phrase) = false := by
  rw [exchange]
  cases found : catalog.counterpart? source target phrase with
  | none => exact free
  | some counterpart =>
    obtain ⟨index, _, there⟩ := Option.bind_eq_some_iff.mp found
    exact exact.free target index counterpart there

/-- **To put texts into a language and then change that for another is to change it first
and then put them into the other.** -/
theorem semiconj_exchange (written : Text) {current next : Text}
    (knowsCurrent : catalog.contains current = true) (knowsNext : catalog.contains next = true) :
    Function.Semiconj (catalog.exchange current next) (catalog.exchange written current)
      (catalog.exchange written next) := by
  intro text
  by_cases inWritten : ∃ index, catalog.get? written index = some text
  · obtain ⟨index, stands⟩ := inWritten
    obtain ⟨middle, there⟩ := exact.exists_get? stands knowsCurrent
    obtain ⟨last, beyond⟩ := exact.exists_get? stands knowsNext
    rw [exact.exchange_of_get? stands there, exact.exchange_of_get? there beyond]
    -- The text is one of the current language only if that is the one it was written in.
    by_cases inCurrent : ∃ index, catalog.get? current index = some text
    · obtain ⟨other, also⟩ := inCurrent
      obtain ⟨rfl, rfl⟩ := exact.unique _ _ _ _ text also stands
      rw [exact.exchange_of_get? also beyond, exact.exchange_of_target beyond]
    · rw [exchange_of_absent (not_exists.mp inCurrent), exact.exchange_of_get? stands beyond]
  · rw [exchange_of_absent (not_exists.mp inWritten)]
    by_cases inCurrent : ∃ index, catalog.get? current index = some text
    · obtain ⟨index, stands⟩ := inCurrent
      obtain ⟨last, beyond⟩ := exact.exists_get? stands knowsNext
      rw [exact.exchange_of_get? stands beyond, exact.exchange_of_target beyond]
    · rw [exchange_of_absent (not_exists.mp inCurrent),
        exchange_of_absent (not_exists.mp inWritten)]

end Exact

end Catalog

/-! ## Bare texts -/

namespace Directive

/-- A text without markers is kept as a whole. -/
theorem strip_of_free {text : Text} (free : hasMarker text = false) : strip text = text := by
  have whole := strip_append free (.inl rfl : Detached [])
  rwa [List.append_nil] at whole

end Directive

namespace Reading

/-- What becomes of a text that no directives belong to. -/
theorem localized_of_none (counterpart? : Text → Option Text) (text : Text) :
    ((⟨text, Directives.none, none⟩ : Reading).localized counterpart?).1 =
      Directive.strip ((counterpart? text).getD text) := by
  cases found : counterpart? text <;> simp [localized, chosen, found, Directives.none, withValues]

end Reading

/-- A text without markers that finds no directives after it. -/
structure Wording.Bare (wording : Wording) : Prop where
  free : Directive.hasMarker wording.text = false
  alone : wording.carrier? = none

namespace Wording

variable {catalog : Catalog} (exact : catalog.Exact) {source target : Text} {wording : Wording}
  (bare : wording.Bare)
include bare

/-- Nothing in a bare text is to be moved after it. -/
theorem Bare.of_eq :
    Reading.of wording.text wording.carrier? = ⟨wording.text, Directives.none, none⟩ := by
  rw [bare.alone, Reading.of_of_bare (Directives.present_of_free bare.free)]

include exact

/-- **A visit exchanges a bare text**, and that is all. -/
theorem localized_bare :
    wording.localized (catalog.counterpart? source target) =
      ⟨catalog.exchange source target wording.text, none⟩ := by
  have free := exact.free_exchange source target bare.free
  rw [Catalog.exchange] at free
  rw [localized, bare.of_eq, Reading.localized_of_none, Directive.strip_of_free free, bare.alone]
  rfl

theorem Bare.localized : (wording.localized (catalog.counterpart? source target)).Bare := by
  rw [localized_bare exact bare]
  exact ⟨exact.free_exchange source target bare.free, rfl⟩

/-- So do several visits. -/
theorem iterate_localized_bare (count : Nat) :
    (Wording.localized (catalog.counterpart? source target))^[count] wording =
      ⟨(catalog.exchange source target)^[count] wording.text, none⟩ := by
  induction count generalizing wording with
  | zero => exact congrArg (Wording.mk wording.text) bare.alone
  | succ count ih =>
    rw [Function.iterate_succ_apply, ih (bare.localized exact), localized_bare exact bare,
      Function.iterate_succ_apply]

end Wording

/-! ## Forests with bare texts -/

namespace Forest

/-- A forest that differs from another in its words at most and has nothing but bare texts
below a node. -/
structure BareBelow (top : NodeId) (original forest : Forest) : Prop where
  alike : forest.Alike original
  bare : ∀ node wording, original.isInclusiveAncestor top node = true →
    forest.wording? node = some wording → wording.Bare

/-- **Visits leave the texts of a subtree bare.** -/
theorem Steady.of_bare {catalog : Catalog} (exact : catalog.Exact) (source target : Text)
    {original : Forest} (wellFormed : original.WellFormed) (acyclic : original.Acyclic)
    (top : NodeId) :
    original.Steady (catalog.counterpart? source target) top (BareBelow top original) where
  stops _ holds := holds.alike.stops top
  isText _ holds := holds.alike.isSome_text?
  visit forest holds other node listed := by
    have covered := covers_of_mem_stops wellFormed acyclic listed
    have isText := isSome_text?_of_mem_stops listed
    rw [← holds.alike.isSome_text?] at isText
    obtain ⟨text, spoken⟩ := Option.isSome_iff_exists.mp isText
    have said : forest.wording? node = some ⟨text, forest.carrierText? node⟩ := by
      rw [wording?, spoken, Option.map_some]
    have bare := holds.bare node _ covered said
    have read : forest.reading? node = some ⟨text, Directives.none, none⟩ := by
      rw [reading?, spoken, Option.map_some]
      exact congrArg some bare.of_eq
    have stands : ((forest.reading? node).bind Reading.tail?).isSome →
        (forest.parent? node).isSome := by
      rw [read]
      intro more
      cases more
    have words := wording?_localize (catalog.counterpart? source target)
      (holds.alike.wellFormed wellFormed) stands
    have written : forest.localize (catalog.counterpart? source target) node = _ :=
      localize_of_tail?_eq_none read rfl
    refine ⟨⟨?_, fun id wording within said => ?_⟩, words⟩
    · rw [written]
      exact (write_alike spoken _).trans holds.alike
    · rw [words] at said
      split at said
      · obtain ⟨before, saidBefore, rfl⟩ := Option.map_eq_some_iff.mp said
        exact (holds.bare id before within saidBefore).localized exact
      · exact holds.bare id wording within said

/-! ## Exchanging the texts of a subtree -/

theorem text?_eq_map_wording? (forest : Forest) (node : NodeId) :
    forest.text? node = (forest.wording? node).map Wording.text := by
  rw [wording?, Option.map_map]
  exact Option.map_id'.symm

/-- Texts that were visited, each a number of times and only bare ones at all, have been
exchanged as often. -/
theorem BareBelow.text?_of_wording? {catalog : Catalog} (exact : catalog.Exact)
    {source target : Text} {top : NodeId} {original before after : Forest}
    (bareBelow : BareBelow top original before) {node : NodeId} {count : Nat}
    (covered : count ≠ 0 → original.isInclusiveAncestor top node = true)
    (words : after.wording? node = (before.wording? node).map
      ((Wording.localized (catalog.counterpart? source target))^[count])) :
    after.text? node = (before.text? node).map ((catalog.exchange source target)^[count]) := by
  rw [text?_eq_map_wording?, text?_eq_map_wording?, words]
  cases said : before.wording? node with
  | none => rfl
  | some wording =>
    by_cases visited : count = 0
    · rw [visited]
      rfl
    · have bare := bareBelow.bare node wording (covered visited) said
      rw [Option.map_some, Option.map_some, Option.map_some, Option.map_some,
        Wording.iterate_localized_bare exact bare]

theorem mem_stops_self {forest : Forest} {top node : NodeId}
    (covered : forest.isInclusiveAncestor top node = true) (isText : (forest.text? node).isSome) :
    node ∈ forest.stops top node := by
  rw [stops, if_pos covered, textsAt, if_pos isText]
  exact List.mem_singleton_self node

/-- **A pass exchanges each text below a node once.** -/
theorem BareBelow.pass {catalog : Catalog} (exact : catalog.Exact) (source target : Text)
    {original forest : Forest} (wellFormed : original.WellFormed) (acyclic : original.Acyclic)
    {top : NodeId} (bareBelow : BareBelow top original forest) :
    BareBelow top original ((forest.textNodes top).foldl
        (Forest.localize (catalog.counterpart? source target)) forest) ∧
      ∀ node, ((forest.textNodes top).foldl
          (Forest.localize (catalog.counterpart? source target)) forest).text? node =
        if node ∈ original.textNodes top then
          (forest.text? node).map (catalog.exchange source target)
        else forest.text? node := by
  have covered : ∀ node ∈ original.textNodes top,
      original.isInclusiveAncestor top node = true := fun node listed =>
    (isInclusiveAncestor_iff wellFormed acyclic).mpr (climbs_of_mem_textNodes wellFormed listed)
  have once := acyclic.nodup_textNodes wellFormed top
  rw [bareBelow.alike.textNodes]
  obtain ⟨kept, words⟩ := (Steady.of_bare exact source target wellFormed acyclic top).foldl_localize
    (original.textNodes top) (fun node listed => ⟨node, mem_stops_self (covered node listed)
      (by rw [(text_of_mem_textNodes listed).1.choose_spec]; rfl)⟩) forest bareBelow
  refine ⟨kept, fun node => ?_⟩
  have texts := bareBelow.text?_of_wording? exact
    (fun visited => covered node (List.count_pos_iff.mp (Nat.pos_of_ne_zero visited)))
    (words node)
  rw [texts]
  split
  · next listed => rw [List.count_eq_one_of_mem once listed, Function.iterate_one]
  · next absent =>
    rw [List.count_eq_zero_of_not_mem absent, Function.iterate_zero, Option.map_id]
    rfl

end Forest

end Polyglot
