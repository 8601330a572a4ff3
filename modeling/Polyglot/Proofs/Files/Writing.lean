import Polyglot.Files.Basic
import Polyglot.Proofs.Pairs

/-!
# Reading what was written

A file that has been written is read again from the same path (`Files.read_write`). The way
to its directory leads through directories only, none of which is the file, so it is the
same way as before (`Files.followNames_put`). Empty names on the way, from slashes beside
each other, lead from a directory to itself; the last name is not empty, since a path that
ends with a slash is not written to.
-/

set_option autoImplicit false

namespace Polyglot

/-- The last piece of a text is not empty if no separator stands at its end. -/
theorem Text.exists_pieces_concat {separator : Char} :
    ∀ {text : Text}, text ≠ [] → text.getLast? ≠ some separator →
      ∃ front last, pieces separator text = front ++ [last] ∧ last ≠ [] := by
  intro text
  induction text with
  | nil =>
    intro filled _
    exact absurd rfl filled
  | cons c rest ih =>
    intro _ ends
    cases rest with
    | nil =>
      have other : c ≠ separator := fun same => ends (by rw [same]; rfl)
      exact ⟨[], [c], by simp [pieces, other], List.cons_ne_nil c []⟩
    | cons d rest =>
      rw [List.getLast?_cons_cons] at ends
      obtain ⟨front, last, cut, filled⟩ := ih (List.cons_ne_nil d rest) ends
      rw [pieces, cut]
      by_cases same : c = separator
      · exact ⟨[] :: front, last, by rw [if_pos same, List.cons_append], filled⟩
      · rw [if_neg same]
        cases front with
        | nil => exact ⟨[], c :: last, rfl, List.cons_ne_nil c last⟩
        | cons piece front => exact ⟨(c :: piece) :: front, last, rfl, filled⟩

namespace Files

/-! ## Nodes -/

variable (files : Files) {place : Place} (node : FileNode)

/-- A node that is put somewhere is found there, and nothing else is found otherwise. -/
theorem node?_put (inner : place ≠ []) (other : Place) :
    (files.put place node).node? other =
      if other = place then some node else files.node? other := by
  rw [node?, node?, put, Pairs.lookup_set]
  by_cases top : other = []
  · rw [if_pos top, if_pos top, if_neg fun same => inner (same.symm.trans top)]
  · rw [if_neg top, if_neg top]

/-! ## Ways -/

variable {files}

/-- A way goes on where its first part ends. -/
theorem followNames_append (first second : List Text) :
    ∀ (here : Place) (node : FileNode), files.followNames here node (first ++ second) =
      (files.followNames here node first).bind fun (there, node) =>
        files.followNames there node second := by
  induction first with
  | nil =>
    intro here node
    rfl
  | cons name rest ih =>
    intro here node
    cases node with
    | file bytes => rfl
    | directory =>
      rw [List.cons_append, followNames, followNames]
      split
      · exact ih here .directory
      · split
        · exact ih here.dropLast .directory
        · split
          · rfl
          · split
            · rfl
            · exact ih _ _

/-- A way of one name and more. -/
theorem followNames_cons_eq_ok {here there : Place} {node last : FileNode} {name : Text}
    {rest : List Text} :
    files.followNames here node (name :: rest) = .ok (there, last) ↔
      ∃ place next, files.followNames here node [name] = .ok (place, next) ∧
        files.followNames place next rest = .ok (there, last) := by
  have split : files.followNames here node ([name] ++ rest) = _ :=
    followNames_append [name] rest here node
  rw [List.singleton_append] at split
  rw [split]
  cases files.followNames here node [name] with
  | error fault => simp [Except.bind]
  | ok step =>
    obtain ⟨place, next⟩ := step
    simp only [Except.bind, Except.ok.injEq, Prod.mk.injEq]
    constructor
    · intro onward
      exact ⟨place, next, ⟨rfl, rfl⟩, onward⟩
    · rintro ⟨_, _, ⟨rfl, rfl⟩, onward⟩
      exact onward

/-- No way to a directory goes by way of a file. -/
theorem eq_directory_of_followNames {here there : Place} {node : FileNode} {names : List Text}
    (leads : files.followNames here node names = .ok (there, .directory)) : node = .directory := by
  cases node with
  | directory => rfl
  | file bytes => cases names <;> cases leads

/-- Empty names do not matter on the way to a directory. -/
theorem followNames_of_filter {there : Place} (names : List Text) :
    ∀ (here : Place) (node : FileNode),
      files.followNames here node (names.filter fun name => !name.isEmpty) =
          .ok (there, .directory) →
        files.followNames here node names = .ok (there, .directory) := by
  induction names with
  | nil =>
    intro here node leads
    exact leads
  | cons name rest ih =>
    intro here node leads
    cases name with
    | nil =>
      rw [List.filter_cons_of_neg (by simp)] at leads
      obtain rfl := eq_directory_of_followNames leads
      exact ih here .directory leads
    | cons c name =>
      rw [List.filter_cons_of_pos (by simp), followNames_cons_eq_ok] at leads
      obtain ⟨place, next, step, onward⟩ := leads
      exact followNames_cons_eq_ok.mpr ⟨place, next, step, ih place next onward⟩

/-- **The way to a directory stays the same** when a file is written where no directory is. -/
theorem followNames_put {place there : Place} (inner : place ≠ []) (bytes : Bytes)
    (other : files.node? place ≠ some .directory) (names : List Text) :
    ∀ (here : Place) (node : FileNode),
      files.followNames here node names = .ok (there, .directory) →
        (files.put place (.file bytes)).followNames here node names = .ok (there, .directory) := by
  induction names with
  | nil =>
    intro here node leads
    exact leads
  | cons name rest ih =>
    intro here node leads
    obtain rfl := eq_directory_of_followNames leads
    rw [followNames] at leads ⊢
    split
    · next idle =>
      rw [if_pos idle] at leads
      exact ih here .directory leads
    · next busy =>
      rw [if_neg busy] at leads
      split
      · next up =>
        rw [if_pos up] at leads
        exact ih here.dropLast .directory leads
      · next down =>
        rw [if_neg down] at leads
        split
        · next long =>
          rw [if_pos long] at leads
          cases leads
        · next short =>
          rw [if_neg short] at leads
          cases found : files.node? (here ++ [name]) with
          | none =>
            simp only [found] at leads
            cases leads
          | some next =>
            simp only [found] at leads
            obtain rfl := eq_directory_of_followNames leads
            have elsewhere : here ++ [name] ≠ place := fun same => other (same ▸ found)
            rw [node?_put files _ inner, if_neg elsewhere, found]
            exact ih _ _ leads

/-! ## Writing and reading -/

/-- What can be written has a name of its own in a directory that is there. -/
theorem placeToWrite_eq_ok {path : Path} {place : Place}
    (writable : files.placeToWrite path = .ok place) :
    pathFault? path = none ∧ files.node? place ≠ some .directory ∧
      ∃ front name directory, path.names = front ++ [name] ∧ place = directory ++ [name] ∧
        name ≠ [] ∧ name ≠ ['.'] ∧ name ≠ ['.', '.'] ∧ Text.byteLength name ≤ longestName ∧
        files.followNames (files.start path) .directory front = .ok (directory, .directory) := by
  rw [placeToWrite] at writable
  split at writable
  · cases writable
  next sound =>
  dsimp only at writable
  split at writable
  · cases writable
  next name named =>
  split at writable
  · cases writable
  · cases writable
  next directory leads =>
  split at writable
  · cases writable
  next proper =>
  rw [not_or, not_or] at proper
  obtain ⟨notHere, notUp, notSlash⟩ := proper
  split at writable
  · cases writable
  next short =>
  split at writable
  · cases writable
  next free =>
  cases writable
  have filled : path ≠ [] := by
    rintro rfl
    cases sound
  obtain ⟨front, last, cut, present⟩ := Text.exists_pieces_concat filled notSlash
  have names : path.names = front ++ [last] := cut
  have kept : [last].filter (fun name => !name.isEmpty) = [last] := by
    simp [present]
  rw [names, List.filter_append, kept, List.getLast?_concat, Option.some.injEq] at named
  rw [names, List.filter_append, kept, List.dropLast_concat] at leads
  subst named
  exact ⟨sound, free, front, last, directory, names, rfl, present, notHere, notUp,
    Nat.le_of_not_lt short, followNames_of_filter front _ _ leads⟩

/-- **What was written is read again.** -/
theorem read_write {after : Files} {path : Path} {bytes : Bytes}
    (written : files.write path bytes = .ok after) : after.read path = .ok bytes := by
  rw [write] at written
  split at written
  · cases written
  next place writable =>
  cases written
  obtain ⟨sound, free, front, name, directory, names, rfl, present, notHere, notUp, short, leads⟩ :=
    placeToWrite_eq_ok writable
  have inner : directory ++ [name] ≠ [] := by simp
  have found := node?_put files (.file bytes) inner (directory ++ [name])
  rw [if_pos rfl] at found
  have leadsThen := followNames_put inner bytes free front _ _ leads
  have last : (files.put (directory ++ [name]) (.file bytes)).followNames directory .directory
      [name] = .ok (directory ++ [name], .file bytes) := by
    rw [followNames, if_neg (not_or.mpr ⟨present, notHere⟩), if_neg notUp,
      if_neg (Nat.not_lt.mpr short), found]
    rfl
  have arrives : (files.put (directory ++ [name]) (.file bytes)).follow path =
      .ok (directory ++ [name], .file bytes) := by
    rw [follow, sound, names]
    simp only [followNames_append]
    rw [show (files.put (directory ++ [name]) (.file bytes)).start path = files.start path from rfl,
      leadsThen]
    exact last
  rw [read, arrives]

end Files

end Polyglot
