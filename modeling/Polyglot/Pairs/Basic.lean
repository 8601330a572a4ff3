/-!
# Pairs

Lists of keys with values stand for maps: the value of a key is that of its first pair.  A pair
that is set takes the place of the one of its key, if there is one, and comes last otherwise
(`Pairs.set`); a pair that is set by default is passed over if its key is there already
(`Pairs.setDefault`).  Either is known by what is found afterwards (`Pairs.lookup_set`,
`Pairs.lookup_setDefault`).
-/

set_option autoImplicit false

namespace Polyglot.Pairs

variable {α β : Type} [BEq α] [LawfulBEq α] [DecidableEq α]

/-- Pairs with one set: a key that is there already keeps its place and gets the new value. -/
def set (key : α) (value : β) : List (α × β) → List (α × β)
  | [] => [(key, value)]
  | (other, old) :: rest =>
    if other = key then (other, value) :: rest else (other, old) :: set key value rest

/-- Pairs with one more, unless its key is there already. -/
def setDefault (key : α) (value : β) (pairs : List (α × β)) : List (α × β) :=
  if (pairs.lookup key).isSome then pairs else pairs ++ [(key, value)]

theorem lookup_cons (key other : α) (value : β) (rest : List (α × β)) :
    ((key, value) :: rest).lookup other =
      if other = key then some value else rest.lookup other := by
  rw [List.lookup_cons]
  by_cases same : other = key
  · rw [if_pos same, same, beq_self_eq_true]
  · rw [if_neg same, beq_false_of_ne same]

theorem lookup_singleton (key other : α) (value : β) :
    [(key, value)].lookup other = if other = key then some value else none :=
  lookup_cons key other value []

theorem lookup_set (key : α) (value : β) (pairs : List (α × β)) (other : α) :
    (set key value pairs).lookup other =
      if other = key then some value else pairs.lookup other := by
  induction pairs with
  | nil => rw [set, lookup_singleton, List.lookup_nil]
  | cons first rest ih =>
    obtain ⟨here, old⟩ := first
    rw [set]
    by_cases same : here = key
    · rw [if_pos same, lookup_cons, lookup_cons, same]
      split <;> rfl
    · rw [if_neg same, lookup_cons, lookup_cons, ih]
      split
      · next found => rw [if_neg (found ▸ same)]
      · rfl

theorem lookup_setDefault (key : α) (value : β) (pairs : List (α × β)) (other : α) :
    (setDefault key value pairs).lookup other =
      (pairs.lookup other).or (if other = key then some value else none) := by
  rw [setDefault]
  split
  · next present =>
    by_cases same : other = key
    · obtain ⟨old, found⟩ := Option.isSome_iff_exists.mp present
      rw [same, found, Option.some_or]
    · rw [if_neg same, Option.or_none]
  · rw [List.lookup_append, lookup_singleton]

end Polyglot.Pairs
