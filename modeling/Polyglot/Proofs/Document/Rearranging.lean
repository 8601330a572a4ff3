import Polyglot.Proofs.Forest.Grafting
import Polyglot.Proofs.Forest.Rearranging

/-!
# Documents whose nodes are moved about

A document is read, nodes are made, and nodes are put somewhere and taken out again, in
any order, with whatever else leaves the forest alone in between (`Rearranges`). As long
as no node is put under itself or under a node below it, the document stays a forest in
the strict sense (`Arranged`): each node is the child of one node at most and once, it
names that node as its parent, and every way upwards ends. The next edit says whether it
is carried out, and if it is it has its effect on the lists of children and no other
(`rearranged`).

A node that is put in its own place stays there, and the edit counts as carried out
(`replace_itself`).
-/

set_option autoImplicit false

namespace Polyglot

/-! ## Forests in the strict sense -/

/-- Each node is a child once at most and names the one whose child it is; from each node
one comes to a node without a parent. -/
structure Forest.Arranged (forest : Forest) : Prop where
  once : ((List.range forest.size).flatMap forest.children).Nodup
  agree : ∀ parent child, child ∈ forest.children parent ↔ forest.parent? child = some parent
  ends : ∀ id, ∃ top, forest.Climbs id top ∧ forest.parent? top = none

namespace Forest

variable {forest : Forest}

/-- A way upwards ends, since the height rises on it and is bounded. -/
theorem Graded.exists_top {height : NodeId → Nat} (wellFormed : forest.WellFormed)
    (graded : forest.Graded height) (left : Nat) :
    ∀ id, forest.size ≤ height id + left →
      ∃ top, forest.Climbs id top ∧ forest.parent? top = none := by
  induction left with
  | zero =>
    intro id high
    refine ⟨id, .refl, Option.eq_none_iff_forall_ne_some.mpr fun parent found => ?_⟩
    have lower := graded.falls parent id (wellFormed.mem_of_parent? found)
    have bound := graded.le_size parent
    omega
  | succ left ih =>
    intro id high
    cases found : forest.parent? id with
    | none => exact ⟨id, .refl, found⟩
    | some parent =>
      have lower := graded.falls parent id (wellFormed.mem_of_parent? found)
      obtain ⟨top, climbs, loose⟩ := ih parent (by omega)
      exact ⟨top, .head found climbs, loose⟩

theorem Arranged.of_wellFormed (wellFormed : forest.WellFormed) (acyclic : forest.Acyclic) :
    forest.Arranged where
  once := by
    refine List.nodup_flatMap.mpr ⟨fun id _ => wellFormed.nodup_children id, ?_⟩
    refine List.nodup_range.imp fun {one other} different child inOne inOther => different ?_
    exact Option.some.inj ((wellFormed.parent?_of_mem inOne).symm.trans
      (wellFormed.parent?_of_mem inOther))
  agree := wellFormed.mem_children_iff
  ends id :=
    (acyclic.graded wellFormed).exists_top wellFormed forest.size id (Nat.le_add_left _ _)

end Forest

/-! ## Rearranging -/

/-- A document with an edit made to it, and whether the edit was carried out. -/
def Edit.attempt (document : Document) : Edit → Document × Bool
  | .setText node text => document.setText node text
  | .append parent node => (document.append parent node, true)
  | .insertAfter reference node => document.insertAfter reference node
  | .replace old node => document.replace old node
  | .remove node => document.remove node

theorem Edit.attempt_fst (document : Document) (edit : Edit) :
    (edit.attempt document).1 = edit.carryOut document := by
  cases edit <;> rfl

namespace Document

/-- A node is made, an admissible edit is made, or something is done that leaves the forest
alone: observers are registered and called. -/
inductive Rearrangement : Document → Document → Prop where
  | make (document : Document) (content : Content) :
    Rearrangement document (document.addNode content).1
  | edit (document : Document) {edit : Edit} (admissible : edit.Admissible document.forest) :
    Rearrangement document (edit.attempt document).1
  | observe {document after : Document} (same : after.forest = document.forest) :
    Rearrangement document after

/-- Any number of rearrangements. -/
abbrev Rearranges : Document → Document → Prop :=
  Relation.ReflTransGen Rearrangement

variable {document after : Document}

/-- One rearrangement leaves parents and children in agreement and makes no cycle. -/
theorem Rearrangement.preserves (rearrangement : Rearrangement document after)
    (wellFormed : document.forest.WellFormed) (acyclic : document.forest.Acyclic) :
    after.forest.WellFormed ∧ after.forest.Acyclic := by
  cases rearrangement with
  | make content =>
    have wellFormedThen := wellFormed.add content
    exact ⟨wellFormedThen, Forest.acyclic_of_fewer wellFormed acyclic wellFormedThen
      fun child parent found => Forest.parent?_add document.forest child content ▸ found⟩
  | edit admissible =>
    rw [Edit.attempt_fst, Edit.forest_carryOut]
    exact ⟨wellFormed.edited admissible.known, acyclic.edited wellFormed admissible⟩
  | observe same =>
    rw [same]
    exact ⟨wellFormed, acyclic⟩

theorem Rearranges.preserves (rearranges : Rearranges document after)
    (wellFormed : document.forest.WellFormed) (acyclic : document.forest.Acyclic) :
    after.forest.WellFormed ∧ after.forest.Acyclic := by
  induction rearranges with
  | refl => exact ⟨wellFormed, acyclic⟩
  | tail _ rearrangement ih => exact rearrangement.preserves ih.1 ih.2

/-- After a node was taken out, a child is still found below its parent unless it is that node. -/
theorem isSome_indexOf?_remove (wellFormed : document.forest.WellFormed) (node : NodeId)
    {parent reference : NodeId} (above : document.forest.parent? reference = some parent) :
    ((document.remove node).1.forest.indexOf? parent reference).isSome ↔ reference ≠ node := by
  rw [forest_remove]
  exact wellFormed.isSome_indexOf?_loosened node above

/-- An edit says that it was carried out just if it could be. -/
theorem attempt_snd_iff (wellFormed : document.forest.WellFormed) (edit : Edit) :
    (edit.attempt document).2 = true ↔ edit.Possible document.forest := by
  cases edit with
  | setText node text =>
    rw [Edit.attempt, Document.setText, Edit.Possible]
    cases document.forest.text? node <;> simp
  | append parent node => exact ⟨fun _ => trivial, fun _ => rfl⟩
  | insertAfter reference node =>
    rw [Edit.attempt, Document.insertAfter, Edit.Possible]
    cases above : document.forest.parent? reference with
    | none => simp
    | some parent =>
      rw [← isSome_indexOf?_remove wellFormed node above]
      cases index : (document.remove node).1.forest.indexOf? parent reference <;> simp [index]
  | replace old node =>
    rw [Edit.attempt, Document.replace, Edit.Possible]
    by_cases same : old = node
    · simp [same]
    · rw [if_neg same]
      cases above : document.forest.parent? old with
      | none => simp [same]
      | some parent =>
        have stays := (isSome_indexOf?_remove wellFormed node above).mpr same
        obtain ⟨index, found⟩ := Option.isSome_iff_exists.mp stays
        simp [found]
  | remove node =>
    rw [Edit.attempt, Document.remove, Edit.Possible]
    cases above : document.forest.parent? node with
    | none => simp
    | some parent =>
      have listed := List.isSome_idxOf?.mpr (wellFormed.mem_of_parent? above)
      obtain ⟨index, found⟩ := Option.isSome_iff_exists.mp listed
      simp [Forest.indexOf?, found]

/-- **A document that was read and rearranged is a forest in the strict sense**, and the
next edit has its effect on the lists of children, and no other, if it says that it was
carried out; it says so just if there is a place to put a node at, or one to take it from. -/
theorem rearranged {α : Type} {trees : List (Tree α)} {start document : Document}
    (parsed : start.forest = (Forest.ofTrees trees).1) (rearranges : Rearranges start document) :
    document.forest.Arranged ∧ ∀ edit : Edit, edit.Admissible document.forest →
      ((edit.attempt document).2 = true ↔ edit.Possible document.forest) ∧
      ((edit.attempt document).2 = true →
        edit.Effect document.forest (edit.attempt document).1.forest) := by
  have grown := (Forest.grown_ofTrees trees).1
  rw [← parsed] at grown
  obtain ⟨wellFormed, acyclic⟩ := rearranges.preserves grown.wellFormed grown.acyclic
  refine ⟨.of_wellFormed wellFormed acyclic, fun edit admissible => ?_⟩
  have carriedOut := attempt_snd_iff wellFormed edit
  refine ⟨carriedOut, fun succeeded => ?_⟩
  rw [Edit.attempt_fst, Edit.forest_carryOut]
  exact wellFormed.effect admissible.known (carriedOut.mp succeeded)

/-- A paragraph with two texts, which are the nodes 2 and 3. -/
def twoTexts : List (Tree Unit) :=
  [.node () (.element ⟨.html, "p".toList⟩ []) [
    .node () (.text ['a']) [], .node () (.text ['b']) []]]

/-- The two texts change places, and a comment that was made then comes in the place of one
of them. -/
theorem rearranged_twoTexts :
    let start := Document.ofForest (Forest.ofTrees twoTexts).1
    let swapped := ((Edit.insertAfter 3 2).attempt start).1
    let made := (swapped.addNode (.comment ['c'])).1
    swapped.forest.children 1 = [3, 2] ∧ made.forest.Arranged ∧
      (Edit.replace 2 4).Effect made.forest ((Edit.replace 2 4).attempt made).1.forest := by
  intro start swapped made
  have rearranges : Rearranges start made :=
    .tail (.single (.edit start (by decide : (Edit.insertAfter 3 2).Admissible start.forest)))
      (.make swapped (.comment ['c']))
  obtain ⟨arranged, effect⟩ := rearranged rfl rearranges
  exact ⟨by decide, arranged, (effect (.replace 2 4) (by decide)).2 (by decide)⟩

/-- A text that is put in its own place stays there: the edit is carried out, and the text
still has its parent. -/
theorem replace_itself :
    let start := Document.ofForest (Forest.ofTrees twoTexts).1
    (Edit.replace 2 2).Admissible start.forest ∧ ((Edit.replace 2 2).attempt start).2 = true ∧
      ((Edit.replace 2 2).attempt start).1.forest.parent? 2 = some 1 := by
  decide

end Document

end Polyglot
