import Polyglot.Proofs.Document.Moves
import Polyglot.Proofs.Forest.Moving

/-!
# The strokes of edits that make no cycle

An edit of nodes that are there, which puts no node below itself, is made of strokes of
three kinds: a text is written, a node is taken out, or a loose node is seated where it
is not below itself (`Edit.drawn_strokes`). Each of them leaves a forest without cycles
whose parents and children agree (`Draws.acyclic`), and each reports its change to whoever
is registered for a node above (`Document.mem_concerned`).
-/

set_option autoImplicit false

namespace Polyglot

/-! ## Kinds of strokes -/

/-- A stroke that writes a text, takes a node out, or seats a loose node. -/
inductive Forest.Draws (forest : Forest) : Stroke → Prop where
  | write {node : NodeId} {old : Text} (text : Text) (spoken : forest.text? node = some old) :
    forest.Draws ⟨forest.setContent node (.text text), some (.text node old)⟩
  | takeOut {node parent : NodeId} (found : forest.parent? node = some parent) :
    forest.Draws ⟨forest.loosened node, some (.children parent [] [node])⟩
  | seat {parent node : NodeId} {list : List NodeId} (knownParent : parent < forest.size)
    (known : node < forest.size) (loose : forest.parent? node = none)
    (perm : list.Perm (node :: forest.children parent)) (apart : ¬ forest.Climbs parent node) :
    forest.Draws ⟨forest.seated parent node list, some (.children parent [node] [])⟩

/-- Strokes of these kinds, one after the other. -/
inductive Forest.Drawn : Forest → List Stroke → Prop where
  | nil {forest : Forest} : Drawn forest []
  | cons {forest : Forest} {stroke : Stroke} {rest : List Stroke} (draws : forest.Draws stroke)
    (drawn : Drawn stroke.forest rest) : Drawn forest (stroke :: rest)

namespace Forest

variable {forest : Forest} {stroke : Stroke}

theorem Draws.wellFormed (wellFormed : forest.WellFormed) (draws : forest.Draws stroke) :
    stroke.forest.WellFormed := by
  cases draws with
  | write text spoken =>
    exact wellFormed.of_same (fun id => children_setContent forest _ id _)
      fun id => parent?_setContent forest _ id _
  | takeOut found => exact wellFormed.loosened _
  | seat knownParent known loose perm apart =>
    exact wellFormed.seated knownParent known loose perm

/-- **No stroke makes a cycle.** -/
theorem Draws.acyclic (wellFormed : forest.WellFormed) (acyclic : forest.Acyclic)
    (draws : forest.Draws stroke) : stroke.forest.Acyclic := by
  have then' := draws.wellFormed wellFormed
  cases draws with
  | write text spoken => exact fun id => (Alike.of_setContent spoken text).lineage id ▸ acyclic id
  | takeOut found => exact acyclic_loosened wellFormed acyclic
  | seat knownParent known loose perm apart =>
    exact acyclic_seated known wellFormed acyclic then' apart

/-- A node that has a parent is taken out in one stroke. -/
theorem removal_of_parent? (wellFormed : forest.WellFormed) {node parent : NodeId}
    (found : forest.parent? node = some parent) :
    forest.removal node = [⟨forest.loosened node, some (.children parent [] [node])⟩] := by
  obtain ⟨left, right, split⟩ := List.append_of_mem (wellFormed.mem_of_parent? found)
  rw [loosened, removal, found]
  simp only [wellFormed.indexOf?_of_split split]
  rfl

/-- Strokes that are made once a node is loose. -/
theorem drawn_removal_append (wellFormed : forest.WellFormed) (node : NodeId) {rest : List Stroke}
    (drawn : (forest.loosened node).Drawn rest) : forest.Drawn (forest.removal node ++ rest) := by
  cases found : forest.parent? node with
  | none =>
    have nothing : forest.removal node = [] := by rw [removal, found]
    rw [loosened, nothing] at drawn
    rw [nothing]
    exact drawn
  | some parent =>
    rw [removal_of_parent? wellFormed found]
    exact .cons (.takeOut found) drawn

/-- A loose node is seated where it is not below itself. -/
theorem draws_seat_loosened (wellFormed : forest.WellFormed) (acyclic : forest.Acyclic)
    {parent node : NodeId} (knownParent : parent < forest.size) (known : node < forest.size)
    (apart : forest.isInclusiveAncestor node parent = false) {list : List NodeId}
    (perm : list.Perm (node :: (forest.loosened node).children parent)) :
    (forest.loosened node).Draws
      ⟨(forest.loosened node).seated parent node list, some (.children parent [node] [])⟩ := by
  have size := size_loosened node wellFormed
  refine .seat (size.symm ▸ knownParent) (size.symm ▸ known)
    ((parent?_loosened node wellFormed node).trans (if_pos rfl)) perm fun climbs => ?_
  have covers := (isInclusiveAncestor_iff wellFormed acyclic).mpr
    (climbs_of_loosened wellFormed climbs)
  rw [apart] at covers
  cases covers

end Forest

namespace Edit

/-- An edit of nodes that are there that puts no node below itself, nor in the place of
another. -/
def Fits (forest : Forest) : Edit → Prop
  | .append parent node =>
    parent < forest.size ∧ node < forest.size ∧ forest.isInclusiveAncestor node parent = false
  | .insertAfter reference node =>
    node < forest.size ∧
      ∀ parent ∈ forest.parent? reference, forest.isInclusiveAncestor node parent = false
  | .replace _ _ => False
  | _ => True

instance (forest : Forest) : (edit : Edit) → Decidable (edit.Fits forest)
  | .append parent node => inferInstanceAs (Decidable (parent < forest.size ∧
      node < forest.size ∧ forest.isInclusiveAncestor node parent = false))
  | .insertAfter reference node => inferInstanceAs (Decidable (node < forest.size ∧
      ∀ parent ∈ forest.parent? reference, forest.isInclusiveAncestor node parent = false))
  | .replace _ _ => isFalse nofun
  | .setText _ _ => isTrue trivial
  | .remove _ => isTrue trivial

/-- **An edit that makes no cycle is drawn in strokes of the three kinds.** -/
theorem drawn_strokes {forest : Forest} (wellFormed : forest.WellFormed)
    (acyclic : forest.Acyclic) {edit : Edit} (fits : edit.Fits forest) :
    forest.Drawn (edit.strokes forest) := by
  cases edit with
  | setText node text =>
    rw [strokes]
    cases spoken : forest.text? node with
    | none => exact .nil
    | some old => exact .cons (.write text spoken) .nil
  | append parent node =>
    obtain ⟨knownParent, known, apart⟩ := fits
    rw [strokes]
    refine Forest.drawn_removal_append wellFormed node (.cons ?_ .nil)
    rw [show forest.after (forest.removal node) = forest.loosened node from rfl,
      Forest.attach_eq_seated]
    exact Forest.draws_seat_loosened wellFormed acyclic knownParent known apart
      (List.perm_append_singleton node _)
  | insertAfter reference node =>
    obtain ⟨known, apart⟩ := fits
    rw [strokes]
    cases found : forest.parent? reference with
    | none => exact .nil
    | some parent =>
      refine Forest.drawn_removal_append wellFormed node ?_
      rw [show forest.after (forest.removal node) = forest.loosened node from rfl]
      cases place : (forest.loosened node).indexOf? parent reference with
      | none => exact .nil
      | some index =>
        have knownParent := forest.lt_size_of_mem_children parent
          (wellFormed.mem_of_parent? found)
        exact .cons (Forest.draws_seat_loosened wellFormed acyclic knownParent known
          (apart parent found)
          (List.perm_insertIdx node _ (Forest.lt_length_of_indexOf? place))) .nil
  | replace old node => exact fits.elim
  | remove node =>
    have drawn := Forest.drawn_removal_append wellFormed node .nil
    rwa [List.append_nil] at drawn

end Edit

/-! ## What strokes report -/

namespace Document

variable {document : Document} {change : Change} {registration : Registration}

/-- A change concerns whoever is registered for a node above with all that is below. -/
theorem mem_concerned (listed : registration ∈ document.registrations)
    (above : document.forest.isInclusiveAncestor registration.target change.target = true)
    (subtree : registration.interest.subtree = true)
    (accepts : registration.interest.accepts change = true)
    (live : document.isLive registration.observer = true) :
    registration.observer ∈ document.concerned change := by
  rw [concerned, List.mem_eraseDups, List.mem_flatMap]
  refine ⟨registration.target, List.contains_iff_mem.mp above, ?_⟩
  rw [concernedAt, List.mem_filterMap]
  exact ⟨registration, listed, if_pos ⟨rfl, .inr subtree, accepts, live⟩⟩

section Report

variable (registers : document.RegistersKnown)
include registers

theorem queue_subset_report (change : Change) (id : ObserverId) :
    document.queue id ⊆ (document.report change).queue id := by
  rw [queue_report document change (registers.knows_of_mem_concerned change)]
  split
  · exact List.subset_append_left _ _
  · exact List.Subset.refl _

theorem mem_queue_report {id : ObserverId} (concerned : id ∈ document.concerned change) :
    change ∈ (document.report change).queue id := by
  rw [queue_report document change (registers.knows_of_mem_concerned change), if_pos concerned]
  exact List.mem_append_right _ (List.mem_singleton_self change)

end Report

end Document

end Polyglot
