import Mathlib.Data.List.Nodup
import Mathlib.Logic.Equiv.Defs
import Polyglot.Proofs.Forest.Lookups

/-!
# Forests whose nodes are numbered otherwise

Nodes are numbered as they are made. If the same nodes are made in another order, the same
forest comes about, but for their numbers: `Renumbered` says that a bijection of numbers
leads from one forest to another, with contents, parents and children. Parents follow from
children where the two agree (`Renumbered.of_children`).

New nodes that are made for some keys, one for each and in the order of the keys, are
numbered from a base on. `renumbering` is the bijection for keys that are taken in another
order. It leaves the nodes below the base alone, and the node that was made for a key goes
to the node that was made for that key (`renumbering_place`).
-/

set_option autoImplicit false

namespace Polyglot.Forest

/-- One forest is another one with its nodes numbered otherwise. -/
structure Renumbered (rename : Equiv.Perm NodeId) (one other : Forest) : Prop where
  size : other.size = one.size
  content? : ∀ id, other.content? (rename id) = one.content? id
  parent? : ∀ id, other.parent? (rename id) = (one.parent? id).map rename
  children : ∀ id, other.children (rename id) = (one.children id).map rename

/-- Where parents and children agree, parents need not be looked at. -/
theorem Renumbered.of_children {rename : Equiv.Perm NodeId} {one other : Forest}
    (wellFormed : one.WellFormed) (wellFormedOther : other.WellFormed)
    (size : other.size = one.size) (content? : ∀ id, other.content? (rename id) = one.content? id)
    (children : ∀ id, other.children (rename id) = (one.children id).map rename) :
    Renumbered rename one other where
  size := size
  content? := content?
  parent? id := by
    ext above
    obtain ⟨parent, rfl⟩ := rename.surjective above
    rw [← wellFormedOther.mem_children_iff, children, List.mem_map_of_injective rename.injective,
      wellFormed.mem_children_iff, Option.map_eq_some_iff]
    constructor
    · intro found
      exact ⟨parent, found, rfl⟩
    · rintro ⟨found, here, same⟩
      rw [here, rename.injective same]
  children := children

/-! ## Keys in another order -/

section Renumber

variable {base : Nat} {first second : List NodeId}

/-- The number of the node for a key, if keys are taken in another order. -/
def renumber (base : Nat) (first second : List NodeId) (id : NodeId) : NodeId :=
  if id < base then id
  else match first[id - base]? with
    | some key => base + second.idxOf key
    | none => id

theorem renumber_of_lt {id : NodeId} (old : id < base) : renumber base first second id = id :=
  if_pos old

theorem renumber_of_length_le {index : Nat} (beyond : first.length ≤ index) :
    renumber base first second (base + index) = base + index := by
  rw [renumber, if_neg (Nat.not_lt.mpr (Nat.le_add_right base index)),
    Nat.add_sub_cancel_left, List.getElem?_eq_none beyond]

theorem renumber_of_getElem? {index : Nat} {key : NodeId} (stands : first[index]? = some key) :
    renumber base first second (base + index) = base + second.idxOf key := by
  rw [renumber, if_neg (Nat.not_lt.mpr (Nat.le_add_right base index)),
    Nat.add_sub_cancel_left, stands]

/-- Taking the keys in the first order again leads back. -/
theorem renumber_renumber (permuted : first.Perm second) (distinct : first.Nodup) (id : NodeId) :
    renumber base second first (renumber base first second id) = id := by
  by_cases old : id < base
  · rw [renumber_of_lt old, renumber_of_lt old]
  obtain ⟨index, rfl⟩ := Nat.exists_eq_add_of_le (Nat.le_of_not_lt old)
  cases stands : first[index]? with
  | none =>
    have beyond := List.getElem?_eq_none_iff.mp stands
    rw [renumber_of_length_le beyond, renumber_of_length_le (permuted.length_eq ▸ beyond)]
  | some key =>
    obtain ⟨within, here⟩ := List.getElem?_eq_some_iff.mp stands
    have listed : key ∈ second := permuted.subset (List.mem_of_getElem? stands)
    rw [renumber_of_getElem? stands, renumber_of_getElem? (List.getElem?_idxOf listed), ← here,
      distinct.idxOf_getElem index within]

/-- The bijection of numbers for keys that are taken in another order. -/
def renumbering (base : Nat) (permuted : first.Perm second) (distinct : first.Nodup) :
    Equiv.Perm NodeId where
  toFun := renumber base first second
  invFun := renumber base second first
  left_inv := renumber_renumber permuted distinct
  right_inv := renumber_renumber permuted.symm (permuted.nodup_iff.mp distinct)

variable (permuted : first.Perm second) (distinct : first.Nodup)

theorem renumbering_of_lt {id : NodeId} (old : id < base) :
    renumbering base permuted distinct id = id :=
  renumber_of_lt old

variable (base) in
/-- A number that belongs to a node for some key goes to the node for that key. -/
theorem getElem?_renumbering (index : Nat) :
    ∃ there, renumbering base permuted distinct (base + index) = base + there ∧
      second[there]? = first[index]? := by
  cases stands : first[index]? with
  | none =>
    have beyond := List.getElem?_eq_none_iff.mp stands
    exact ⟨index, renumber_of_length_le beyond,
      List.getElem?_eq_none (permuted.length_eq ▸ beyond)⟩
  | some key =>
    have listed : key ∈ second := permuted.subset (List.mem_of_getElem? stands)
    exact ⟨second.idxOf key, renumber_of_getElem? stands, List.getElem?_idxOf listed⟩

/-- **The node that was made for a key goes to the node that was made for that key.** -/
theorem renumbering_place {key : NodeId} (listed : key ∈ first) :
    renumbering base permuted distinct (base + first.idxOf key) = base + second.idxOf key :=
  renumber_of_getElem? (List.getElem?_idxOf listed)

end Renumber

end Polyglot.Forest
