import Polyglot.Proofs.Host.Parameters

/-!
# Setting a parameter

To set a parameter is to give its first occurrence the new value and to leave out the others of
its name; if there is none it comes last (`Query.IsSet`). A list in which a parameter was set
says of other names what it said before, and to set the parameter once more is to change
nothing.

A location writes its whole query anew when a parameter of it is set, and all parameters are
read from it as they were written (`Query.read_write`), even those that had no such written
form before. So what holds of lists of parameters holds of locations, and nothing but the
query changes (`Location.isSet_setParameter`).
-/

set_option autoImplicit false

namespace Polyglot

namespace Query

variable {name value : Text} {before after : Parameters}

/-- One parameter of a list set to a value. -/
inductive IsSet (name value : Text) : Parameters → Parameters → Prop where
  | first (front : Parameters) (old : Text) (behind : Parameters)
      (apart : ∀ parameter ∈ front, parameter.1 ≠ name) :
      IsSet name value (front ++ (name, old) :: behind)
        (front ++ (name, value) :: behind.filter fun parameter => parameter.1 != name)
  | last (parameters : Parameters) (apart : ∀ parameter ∈ parameters, parameter.1 ≠ name) :
      IsSet name value parameters (parameters ++ [(name, value)])

/-- A parameter of another name in front makes no difference. -/
theorem IsSet.cons (isSet : IsSet name value before after) {other : Text} (old : Text)
    (differs : other ≠ name) : IsSet name value ((other, old) :: before) ((other, old) :: after) := by
  cases isSet with
  | first front first behind apart =>
    exact .first ((other, old) :: front) first behind (List.forall_mem_cons.mpr ⟨differs, apart⟩)
  | last parameters apart =>
    exact .last ((other, old) :: before) (List.forall_mem_cons.mpr ⟨differs, apart⟩)

theorem isSet_set (parameters : Parameters) (name value : Text) :
    IsSet name value parameters (set parameters name value) := by
  induction parameters with
  | nil => exact .last [] (List.forall_mem_nil _)
  | cons first rest ih =>
    obtain ⟨other, old⟩ := first
    rw [set]
    split
    · next same =>
      rw [same]
      exact .first [] old rest (List.forall_mem_nil _)
    · next differs => exact ih.cons old differs

/-- **Other names stand for what they stood for.** -/
theorem IsSet.get?_of_ne (isSet : IsSet name value before after) {other : Text}
    (differs : other ≠ name) : get? after other = get? before other := by
  cases isSet with
  | first front old behind apart =>
    rw [get?, get?, List.lookup_append, List.lookup_append, Pairs.lookup_cons, Pairs.lookup_cons,
      if_neg differs, if_neg differs, Pairs.lookup_filter_of_ne differs]
  | last parameters apart =>
    rw [get?, get?, List.lookup_append, Pairs.lookup_singleton, if_neg differs, Option.or_none]

theorem set_append_cons {front : Parameters} (apart : ∀ parameter ∈ front, parameter.1 ≠ name)
    (old value : Text) (behind : Parameters) :
    set (front ++ (name, old) :: behind) name value =
      front ++ (name, value) :: behind.filter fun parameter => parameter.1 != name := by
  induction front with
  | nil => exact if_pos rfl
  | cons first front ih =>
    rw [List.forall_mem_cons] at apart
    rw [List.cons_append, set, if_neg apart.1, ih apart.2, List.cons_append]

/-- **Setting a parameter that was set changes nothing.** -/
theorem IsSet.set_eq (isSet : IsSet name value before after) : set after name value = after := by
  cases isSet with
  | first front old behind apart =>
    rw [set_append_cons apart, List.filter_filter]
    simp only [Bool.and_self]
  | last parameters apart => exact set_append_cons apart value value []

end Query

namespace Location

variable (location : Location) (name value : Text)

/-- **Setting a parameter of a location.** The parameter is set among the decoded parameters,
whatever they and the query were. So it stands for the new value, all other names stand for what
they stood for, setting it again changes nothing, and the location keeps all but its query. -/
theorem isSet_setParameter :
    Query.IsSet name value location.parameters (location.setParameter name value).parameters ∧
    (location.setParameter name value).parameter? name = some value ∧
    (∀ other, other ≠ name →
      (location.setParameter name value).parameter? other = location.parameter? other) ∧
    (location.setParameter name value).setParameter name value =
      location.setParameter name value ∧
    { location.setParameter name value with query? := location.query? } = location := by
  have isSet : Query.IsSet name value location.parameters
      (location.setParameter name value).parameters := by
    rw [parameters_setParameter]
    exact Query.isSet_set location.parameters name value
  refine ⟨isSet, location.parameter?_setParameter name value,
    fun other differs => isSet.get?_of_ne differs, ?_, rfl⟩
  rw [setParameter, isSet.set_eq, parameters_setParameter]
  rfl

/-- The parameter that stands twice is set once, and an odd spelling of another is amended. -/
example : ({ localhost with query? := some "=%ff&l=en&b=+&l=fr".toList }.setParameter
    ['l'] ['é']).query? = some "=%EF%BF%BD&l=%C3%A9&b=+".toList := by
  decide +kernel

end Location

end Polyglot
