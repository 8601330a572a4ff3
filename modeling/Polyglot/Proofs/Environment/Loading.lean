import Polyglot.Environment.Load

/-!
# What environment files add

Which lines of environment files count is settled before any of them is read as an
assignment (`Environment.linesRead`): of every file that is there, up to the first that can
be read to its end, the lines before the first that cannot be read. Whether a line can be
read and which variable it assigns to depends on no variable
(`Assignment.name_ofLine?_congr`); the value that it assigns may.

Loading goes through these lines one by one (`Environment.withFiles_eq`). A variable that has
a value keeps it, so what a variable without one gets in the end is what the first of the
lines that assign to it says, as it is read where the loading has come to
(`Environment.extended_withFiles`).
-/

set_option autoImplicit false

namespace Polyglot

/-! ## Reading a line -/

namespace Assignment

/-- Whether a value can be read does not depend on the values of variables. -/
theorem isSome_valueFrom?_congr (look other : Text → Text) (written : Text) :
    ∀ (mode : Mode) (within : Bool),
      (valueFrom? look mode within written).isSome =
        (valueFrom? other mode within written).isSome := by
  induction written with
  | nil =>
    intro mode within
    cases mode <;> cases within <;> rfl
  | cons c rest ih =>
    intro mode within
    cases mode <;> simp only [valueFrom?] <;> repeat' split
    all_goals simp [ih]

/-- Nor does it depend on them which variable a line assigns to, if any. -/
theorem name_ofLine?_congr (look other : Text → Text) (line : Text) :
    (ofLine? look line).map (Option.map name) = (ofLine? other line).map (Option.map name) := by
  simp only [ofLine?]
  split
  · rfl
  split
  · rfl
  next name written _ =>
  split
  · rfl
  have same := isSome_valueFrom?_congr look other written .plain false
  cases one : valueFrom? look .plain false written with
  | none =>
    rw [one, Option.isSome_none, eq_comm, Option.isSome_eq_false_iff,
      Option.isNone_iff_eq_none] at same
    rw [same]
  | some value =>
    rw [one] at same
    obtain ⟨value', two⟩ := Option.isSome_iff_exists.mp same.symm
    rw [two]
    rfl

end Assignment

namespace Environment

/-- The value that is read for a variable: nothing, if it has none. -/
def valueOf (environment : Environment) (name : Text) : Text :=
  (environment.get? name).getD []

/-- A line of an environment file assigns a value to a variable. -/
inductive Assigns (environment : Environment) (line : Bytes) : Text → Text → Prop where
  | intro {text : Text} {assignment : Assignment} (decoded : Utf8.decode? line = some text)
      (meant : Assignment.ofLine? environment.valueOf text = some (some assignment)) :
      Assigns environment line assignment.name (assignment.value?.getD [])

/-- A line of an environment file assigns to a variable, whatever the variables in it are. -/
def AssignsTo (line : Bytes) (name : Text) : Prop :=
  ∃ environment value, Assigns environment line name value

/-- Whether a line of an environment file can be read. -/
def isReadable (line : Bytes) : Bool :=
  ((Utf8.decode? line).bind (Assignment.ofLine? fun _ => [])).isSome

/-- The assignment on a line of an environment file. -/
def assignmentOn? (environment : Environment) (line : Bytes) : Option (Option Assignment) :=
  (Utf8.decode? line).bind (Assignment.ofLine? environment.valueOf)

theorem assigns_iff {environment : Environment} {line : Bytes} {name value : Text} :
    environment.Assigns line name value ↔ ∃ assignment,
      environment.assignmentOn? line = some (some assignment) ∧
        assignment.name = name ∧ assignment.value?.getD [] = value := by
  constructor
  · rintro ⟨decoded, meant⟩
    exact ⟨_, Option.bind_eq_some_iff.mpr ⟨_, decoded, meant⟩, rfl, rfl⟩
  · rintro ⟨assignment, found, rfl, rfl⟩
    obtain ⟨text, decoded, meant⟩ := Option.bind_eq_some_iff.mp found
    exact .intro decoded meant

theorem name_assignmentOn?_congr (environment other : Environment) (line : Bytes) :
    (environment.assignmentOn? line).map (Option.map Assignment.name) =
      (other.assignmentOn? line).map (Option.map Assignment.name) := by
  rw [assignmentOn?, assignmentOn?]
  cases Utf8.decode? line with
  | none => rfl
  | some text => exact Assignment.name_ofLine?_congr _ _ text

theorem isSome_assignmentOn? (environment : Environment) (line : Bytes) :
    (environment.assignmentOn? line).isSome = isReadable line := by
  rw [assignmentOn?, isReadable]
  cases Utf8.decode? line with
  | none => rfl
  | some text =>
    have same := congrArg Option.isSome
      (Assignment.name_ofLine?_congr environment.valueOf (fun _ => []) text)
    rwa [Option.isSome_map, Option.isSome_map] at same

/-- A line that assigns to a variable somewhere does so everywhere. -/
theorem AssignsTo.exists_assigns {line : Bytes} {name : Text} (assigned : AssignsTo line name)
    (environment : Environment) : ∃ value, environment.Assigns line name value := by
  obtain ⟨other, _, assigns⟩ := assigned
  obtain ⟨assignment, found, rfl, _⟩ := assigns_iff.mp assigns
  have same := name_assignmentOn?_congr environment other line
  rw [found, Option.map_some, Option.map_some, Option.map_eq_some_iff] at same
  obtain ⟨found?, here, same⟩ := same
  obtain ⟨assignment', rfl, same⟩ := Option.map_eq_some_iff.mp same
  exact ⟨_, assigns_iff.mpr ⟨assignment', here, Option.some.inj same, rfl⟩⟩

/-- A line assigns one value to a variable. -/
theorem Assigns.value_unique {environment : Environment} {line : Bytes} {name value other : Text}
    (one : environment.Assigns line name value) (two : environment.Assigns line name other) :
    value = other := by
  obtain ⟨assignment, found, _, rfl⟩ := assigns_iff.mp one
  obtain ⟨assignment', found', _, rfl⟩ := assigns_iff.mp two
  rw [found] at found'
  cases found'
  rfl

/-! ## Lines that count -/

/-- An environment after a line of an environment file: a variable that the line assigns to has
the value that it had, or else the one that is assigned. -/
def afterLine (environment : Environment) (line : Bytes) : Environment :=
  match environment.assignmentOn? line with
  | some (some assignment) =>
    environment.setDefault assignment.name (assignment.value?.getD [])
  | _ => environment

/-- An environment after lines of environment files. -/
def afterLines (environment : Environment) (lines : List Bytes) : Environment :=
  lines.foldl afterLine environment

/-- The files of some names that are read: those that are there, up to the first that can be read
to its end. -/
def filesRead (files : Files) (names : List Text) : List Bytes :=
  let present := names.filterMap (fileNamed? files)
  let last := present.findIdx fun bytes => (linesOf bytes).all isReadable
  present.take (last + 1)

/-- The lines of files that are read up to the first line that cannot be read. -/
def linesAmong (contents : List Bytes) : List Bytes :=
  contents.flatMap fun bytes => (linesOf bytes).takeWhile isReadable

/-- The lines of environment files that count. -/
def linesRead (files : Files) : List Bytes :=
  linesAmong (filesRead files fileNames)

theorem get?_setDefault (environment : Environment) (name value other : Text) :
    (environment.setDefault name value).get? other =
      (environment.get? other).or (if other = name then some value else none) :=
  Pairs.lookup_setDefault name value environment.entries other

/-- While every variable that a file has assigned to is set, what the file has assigned adds
nothing to what the environment says. -/
theorem look_eq_valueOf {environment : Environment} {assigned : List (Text × Option Text)}
    (isSet : ∀ name, (assigned.lookup name).isSome → (environment.get? name).isSome) :
    environment.look assigned = environment.valueOf := by
  funext name
  rw [look, valueOf]
  cases found : environment.get? name with
  | some value => rfl
  | none =>
    cases earlier : assigned.lookup name with
    | none => rfl
    | some value? =>
      have present := isSet name (by rw [earlier]; rfl)
      rw [found] at present
      cases present

/-- **The lines of a file count** before the first that cannot be read. -/
theorem assignLines_eq (lines : List Bytes) :
    ∀ (environment : Environment) (assigned : List (Text × Option Text)),
      (∀ name, (assigned.lookup name).isSome → (environment.get? name).isSome) →
        assignLines environment assigned lines =
          (environment.afterLines (lines.takeWhile isReadable), lines.all isReadable) := by
  induction lines with
  | nil =>
    intro environment assigned _
    rfl
  | cons line rest ih =>
    intro environment assigned isSet
    have readable := isSome_assignmentOn? environment line
    have meant : (Utf8.decode? line).bind (Assignment.ofLine? (environment.look assigned)) =
        environment.assignmentOn? line := by rw [look_eq_valueOf isSet, assignmentOn?]
    rw [assignLines, meant]
    cases found : environment.assignmentOn? line with
    | none =>
      rw [found] at readable
      rw [List.takeWhile_cons_of_neg (by simp [← readable]), List.all_cons, ← readable]
      rfl
    | some assignment? =>
      rw [found] at readable
      have onward : environment.afterLines ((line :: rest).takeWhile isReadable) =
          (environment.afterLine line).afterLines (rest.takeWhile isReadable) := by
        rw [List.takeWhile_cons_of_pos readable.symm]
        rfl
      rw [onward, List.all_cons, ← readable, Option.isSome_some, Bool.true_and, afterLine, found]
      cases assignment? with
      | none => exact ih environment assigned isSet
      | some assignment =>
        refine ih _ _ fun name earlier => ?_
        rw [get?_setDefault, Option.isSome_or, Bool.or_eq_true]
        by_cases here : name = assignment.name
        · rw [if_pos here]
          exact .inr rfl
        · rw [Pairs.lookup_cons, if_neg here] at earlier
          exact .inl (isSet name earlier)

theorem loadFirst_eq (files : Files) (names : List Text) :
    ∀ environment : Environment, loadFirst files environment names =
      environment.afterLines (linesAmong (filesRead files names)) := by
  induction names with
  | nil => exact fun _ => rfl
  | cons name rest ih =>
    intro environment
    rw [loadFirst]
    cases found : fileNamed? files name with
    | none =>
      rw [filesRead, List.filterMap_cons_none found]
      exact ih environment
    | some bytes =>
      have lines := assignLines_eq (linesOf bytes) environment [] nofun
      simp only [filesRead, List.filterMap_cons_some found, lines, List.findIdx_cons]
      cases whole : (linesOf bytes).all isReadable with
      | true => simp [linesAmong]
      | false =>
        simp only [cond_false, List.take_succ_cons, linesAmong, List.flatMap_cons]
        rw [ih, afterLines, afterLines, afterLines, List.foldl_append]
        rfl

/-- **Loading goes through the lines that count.** -/
theorem withFiles_eq (environment : Environment) (files : Files) :
    environment.withFiles files = environment.afterLines (linesRead files) :=
  loadFirst_eq files fileNames environment

/-! ## Variables -/

variable {environment : Environment} {name value : Text}

theorem afterLine_kept (found : environment.get? name = some value) (line : Bytes) :
    (environment.afterLine line).get? name = some value := by
  rw [afterLine]
  split
  · rw [get?_setDefault, found]
    rfl
  · exact found

theorem afterLines_kept (lines : List Bytes) :
    ∀ {environment : Environment}, environment.get? name = some value →
      (environment.afterLines lines).get? name = some value := by
  induction lines with
  | nil => exact id
  | cons line rest ih => exact fun found => ih (afterLine_kept found line)

/-- A variable without a value gets the one that a line assigns to it. -/
theorem get?_afterLine_eq_some_iff (unset : environment.get? name = none) {line : Bytes} :
    (environment.afterLine line).get? name = some value ↔ environment.Assigns line name value := by
  rw [assigns_iff, afterLine]
  split
  · next assignment found =>
    rw [get?_setDefault, unset, Option.none_or, Option.ite_none_right_eq_some, found]
    simp [eq_comm]
  · next nothing =>
    rw [unset]
    constructor
    · nofun
    · rintro ⟨assignment, found, _⟩
      exact absurd found (nothing assignment)

/-- **The first line that assigns counts**: a variable without a value gets what it says, where
the loading has come to. -/
theorem get?_afterLines_eq_some_iff (lines : List Bytes) :
    ∀ {environment : Environment}, environment.get? name = none →
      ((environment.afterLines lines).get? name = some value ↔
        ∃ front line back, lines = front ++ line :: back ∧
          (∀ earlier ∈ front, ¬ AssignsTo earlier name) ∧
          (environment.afterLines front).Assigns line name value) := by
  induction lines with
  | nil =>
    intro environment unset
    rw [afterLines, List.foldl_nil, unset]
    constructor
    · nofun
    · rintro ⟨front, line, back, cut, _⟩
      cases front <;> cases cut
  | cons line rest ih =>
    intro environment unset
    cases here : (environment.afterLine line).get? name with
    | some first =>
      -- No line behind this one changes the variable any more.
      have assigns := (get?_afterLine_eq_some_iff unset).mp here
      rw [show (environment.afterLines (line :: rest)).get? name = some first from
        afterLines_kept rest here, Option.some.injEq]
      constructor
      · rintro rfl
        exact ⟨[], line, rest, rfl, nofun, assigns⟩
      · rintro ⟨front, line', back, cut, none, assigns'⟩
        cases front with
        | nil =>
          cases cut
          exact assigns.value_unique assigns'
        | cons earlier front =>
          cases cut
          exact absurd ⟨environment, first, assigns⟩ (none _ List.mem_cons_self)
    | none =>
      have other : ¬ AssignsTo line name := by
        intro assigned
        obtain ⟨first, assigns⟩ := assigned.exists_assigns environment
        rw [(get?_afterLine_eq_some_iff unset).mpr assigns] at here
        cases here
      refine (ih here).trans ⟨?_, ?_⟩
      · rintro ⟨front, line', back, rfl, none, assigns⟩
        exact ⟨line :: front, line', back, rfl, List.forall_mem_cons.mpr ⟨other, none⟩, assigns⟩
      · rintro ⟨front, line', back, cut, none, assigns⟩
        cases front with
        | nil =>
          cases cut
          exact absurd ⟨environment, value, assigns⟩ other
        | cons earlier front =>
          cases cut
          exact ⟨front, line', back, rfl, (List.forall_mem_cons.mp none).2, assigns⟩

/-- An environment to which environment files have been loaded: it has the variables that it
had, with the values that they had, and of the others those that a line that counts assigns
to, with what the first such line says. -/
structure Extended (files : Files) (before after : Environment) : Prop where
  kept : ∀ name value, before.get? name = some value → after.get? name = some value
  added : ∀ name, before.get? name = none → ∀ value, after.get? name = some value ↔
    ∃ front line back, linesRead files = front ++ line :: back ∧
      (∀ earlier ∈ front, ¬ AssignsTo earlier name) ∧
      (before.afterLines front).Assigns line name value

/-- **What environment files add.** -/
theorem extended_withFiles (files : Files) (environment : Environment) :
    Extended files environment (environment.withFiles files) := by
  rw [withFiles_eq]
  exact ⟨fun _ _ => afterLines_kept _, fun _ unset _ => get?_afterLines_eq_some_iff _ unset⟩

end Environment

end Polyglot
