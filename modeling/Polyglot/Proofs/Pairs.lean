import Mathlib.Data.List.Basic
import Mathlib.Data.List.Induction
import Polyglot.Pairs.Basic

/-!
# Lists of pairs

Where no key comes twice, every pair is found for its key (`Pairs.lookup_eq_some_iff_mem`).

Pairs that are set one after the other leave each key once, where it came first, with the value
that came last (`Pairs.gathers_gathered`); where no key comes twice, they are left as they are
(`Pairs.gathered_of_nodup`).
-/

set_option autoImplicit false

namespace Polyglot.Pairs

variable {α β : Type} [BEq α] [LawfulBEq α] [DecidableEq α]

/-- Where no key comes twice, every pair is found for its key. -/
theorem lookup_eq_some_iff_mem {key : α} {value : β} {pairs : List (α × β)}
    (distinct : (pairs.map Prod.fst).Nodup) :
    pairs.lookup key = some value ↔ (key, value) ∈ pairs := by
  induction pairs with
  | nil => exact iff_of_false nofun List.not_mem_nil
  | cons first rest ih =>
    obtain ⟨other, old⟩ := first
    rw [List.map_cons, List.nodup_cons] at distinct
    rw [lookup_cons, List.mem_cons, Prod.mk.injEq]
    by_cases same : key = other
    · subst same
      have elsewhere : (key, value) ∉ rest := fun listed =>
        distinct.1 (List.mem_map.mpr ⟨(key, value), listed, rfl⟩)
      rw [if_pos rfl, Option.some.injEq, or_iff_left elsewhere, and_iff_right rfl, eq_comm]
    · rw [if_neg same, ih distinct.2, or_iff_right fun both => same both.1]

/-- Pairs of one key may be left out where another one is looked for. -/
theorem lookup_filter_of_ne {key other : α} (differs : other ≠ key) (pairs : List (α × β)) :
    (pairs.filter fun pair => pair.1 != key).lookup other = pairs.lookup other := by
  induction pairs with
  | nil => rfl
  | cons first rest ih =>
    obtain ⟨here, value⟩ := first
    rw [List.filter_cons]
    split
    · rw [lookup_cons, lookup_cons, ih]
    · next same =>
      have here_eq : here = key := by simpa using same
      rw [ih, lookup_cons, if_neg (here_eq ▸ differs)]

/-! ## Setting -/

variable {key : α} {value : β} {kept added : List (α × β)}

theorem keys_set (key : α) (value : β) (pairs : List (α × β)) :
    (set key value pairs).map Prod.fst =
      if key ∈ pairs.map Prod.fst then pairs.map Prod.fst else pairs.map Prod.fst ++ [key] := by
  induction pairs with
  | nil => rfl
  | cons first rest ih =>
    obtain ⟨other, old⟩ := first
    rw [set]
    by_cases same : other = key
    · rw [if_pos same, if_pos (same ▸ List.mem_cons_self)]
      rfl
    · simp only [if_neg same, List.map_cons, List.mem_cons, Ne.symm same, false_or, ih]
      split <;> rfl

omit [BEq α] [LawfulBEq α] in
theorem set_of_not_mem (absent : key ∉ kept.map Prod.fst) :
    set key value kept = kept ++ [(key, value)] := by
  induction kept with
  | nil => rfl
  | cons first rest ih =>
    obtain ⟨other, old⟩ := first
    rw [List.map_cons, List.mem_cons, not_or] at absent
    rw [set, if_neg (Ne.symm absent.1), ih absent.2, List.cons_append]

/-- The pairs that are left of pairs set one after the other. -/
def gathered (added : List (α × β)) : List (α × β) :=
  added.foldl (fun kept pair => set pair.1 pair.2 kept) []

omit [BEq α] [LawfulBEq α] in
theorem gathered_concat (added : List (α × β)) (last : α × β) :
    gathered (added ++ [last]) = set last.1 last.2 (gathered added) :=
  List.foldl_concat _ _ _ _

/-- What is kept of pairs that were set. -/
structure Gathers (kept added : List (α × β)) : Prop where
  /-- All keys that were set are there, -/
  mem_keys_iff : ∀ key, key ∈ kept.map Prod.fst ↔ key ∈ added.map Prod.fst
  /-- each once and all in the order in which they were first set. -/
  ordered : (kept.map Prod.fst).Pairwise fun one other =>
    (added.map Prod.fst).idxOf one < (added.map Prod.fst).idxOf other
  /-- The value of a key is the one that was set last. -/
  lookup_eq : ∀ key, kept.lookup key = added.reverse.lookup key

omit [LawfulBEq α] [DecidableEq α] in
theorem Gathers.nodup (gathers : Gathers kept added) : (kept.map Prod.fst).Nodup := by
  refine gathers.ordered.imp fun before => ?_
  rintro rfl
  exact Nat.lt_irrefl _ before

/-- One more pair. -/
theorem Gathers.set (gathers : Gathers kept added) (key : α) (value : β) :
    Gathers (Pairs.set key value kept) (added ++ [(key, value)]) := by
  have listed := gathers.mem_keys_iff
  have still : (kept.map Prod.fst).Pairwise fun one other =>
      ((added ++ [(key, value)]).map Prod.fst).idxOf one <
        ((added ++ [(key, value)]).map Prod.fst).idxOf other := by
    refine gathers.ordered.imp_of_mem fun {one other} first second before => ?_
    rwa [List.map_append, List.idxOf_append_of_mem ((listed one).mp first),
      List.idxOf_append_of_mem ((listed other).mp second)]
  constructor
  · intro other
    rw [keys_set, List.map_append, List.mem_append, List.map_singleton, List.mem_singleton,
      ← listed]
    split
    · next present => exact ⟨.inl, fun known => known.elim id fun same => same ▸ present⟩
    · rw [List.mem_append, List.mem_singleton]
  · rw [keys_set]
    split
    · exact still
    · next absent =>
      rw [List.pairwise_append]
      refine ⟨still, List.pairwise_singleton _ _, fun one first other second => ?_⟩
      rw [List.mem_singleton.mp second, List.map_append,
        List.idxOf_append_of_mem ((listed one).mp first),
        List.idxOf_append_of_notMem fun known => absent ((listed key).mpr known)]
      exact Nat.lt_add_right _ (List.idxOf_lt_length_of_mem ((listed one).mp first))
  · intro other
    rw [lookup_set, List.reverse_concat, lookup_cons, gathers.lookup_eq]

/-- **Pairs that are set one after the other** leave each key once, in the order in which the keys
were first set, with the value that was set last. -/
theorem gathers_gathered (added : List (α × β)) : Gathers (gathered added) added := by
  induction added using List.reverseRecOn with
  | nil => exact ⟨fun _ => Iff.rfl, List.Pairwise.nil, fun _ => rfl⟩
  | append_singleton added last ih =>
    rw [gathered_concat]
    exact ih.set last.1 last.2

omit [BEq α] [LawfulBEq α] in
/-- Pairs in which no key comes twice are all left as they are. -/
theorem gathered_of_nodup (distinct : (added.map Prod.fst).Nodup) : gathered added = added := by
  induction added using List.reverseRecOn with
  | nil => rfl
  | append_singleton added last ih =>
    rw [List.map_append, List.nodup_append] at distinct
    obtain ⟨front, _, apart⟩ := distinct
    rw [gathered_concat, ih front, set_of_not_mem]
    intro present
    exact apart _ present _ List.mem_cons_self rfl

end Polyglot.Pairs
