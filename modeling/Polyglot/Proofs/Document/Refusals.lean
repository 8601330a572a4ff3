import Polyglot.Proofs.Document.Rearranging

/-!
# Edits that are refused

With one exception, an edit that says that it was not carried out has left the whole document
alone: nodes, texts, and what the observers have yet to hear of. Where a node is moved, it is
taken out of its old place before the new one is looked up, so that a place which is gone by
then is noticed too late. In a well-formed forest no place goes in this way but one, the place
directly after the node itself: a node that is to be put after itself is refused, and was
taken out, with a report of that (`insertAfter_itself`). For all other edits a refusal
means that nothing was done (`attempt_refused`).
-/

set_option autoImplicit false

namespace Polyglot.Document

variable {document : Document} {edit : Edit}

/-- A node that was taken out has no parent, whether or not it had one before. -/
theorem parent?_remove_self (wellFormed : document.forest.WellFormed) (node : NodeId) :
    (document.remove node).1.forest.parent? node = none := by
  rw [forest_remove]
  exact (Forest.parent?_loosened node wellFormed node).trans (if_pos rfl)

/-- Putting a node after itself takes it out, and fails. -/
theorem insertAfter_itself (wellFormed : document.forest.WellFormed) (node : NodeId) :
    document.insertAfter node node = ((document.remove node).1, false) := by
  cases above : document.forest.parent? node with
  | none => rw [insertAfter, remove, above]
  | some parent =>
    have missed := (isSome_indexOf?_remove wellFormed node above).not.mpr (not_not.mpr rfl)
    rw [Option.not_isSome_iff_eq_none] at missed
    rw [insertAfter, above]
    simp only [missed]

/-- What cannot be carried out is noticed before anything is done, unless a node is to be
put after itself. -/
theorem attempt_of_not_possible (failed : ¬ edit.Possible document.forest)
    (apart : ∀ node, edit ≠ .insertAfter node node) :
    edit.attempt document = (document, false) := by
  cases edit with
  | setText node text =>
    have silent := Option.not_isSome_iff_eq_none.mp failed
    rw [Edit.attempt, setText, silent]
  | append parent node => exact absurd trivial failed
  | insertAfter reference node =>
    have different : reference ≠ node := fun same => apart node (same ▸ rfl)
    have loose : ¬ (document.forest.parent? reference).isSome := fun above =>
      failed ⟨above, different⟩
    rw [Edit.attempt, insertAfter, Option.not_isSome_iff_eq_none.mp loose]
  | replace old node =>
    obtain ⟨loose, different⟩ := not_or.mp failed
    rw [Edit.attempt, replace, if_neg different, Option.not_isSome_iff_eq_none.mp loose]
  | remove node =>
    have loose := Option.not_isSome_iff_eq_none.mp failed
    rw [Edit.attempt, remove, loose]

/-- **An edit that was refused left the document as it was**, down to the queues of the
observers, unless a node that has a parent was to be put after itself. That node was taken
out, and the document is the one that taking it out makes. -/
theorem attempt_refused (wellFormed : document.forest.WellFormed)
    (refused : (edit.attempt document).2 = false) :
    ((edit.attempt document).1 = document ↔
      ∀ node, edit = .insertAfter node node → document.forest.parent? node = none) ∧
    ∀ node, edit = .insertAfter node node →
      (edit.attempt document).1 = (document.remove node).1 := by
  have removed : ∀ node, edit = .insertAfter node node →
      (edit.attempt document).1 = (document.remove node).1 := by
    rintro node rfl
    rw [Edit.attempt, insertAfter_itself wellFormed node]
  refine ⟨⟨fun same node itself => ?_, fun loose => ?_⟩, removed⟩
  · -- The node has no parent afterwards, so it had none before if nothing has changed.
    have after := parent?_remove_self wellFormed node
    rwa [← removed node itself, same] at after
  · by_cases itself : ∃ node, edit = .insertAfter node node
    · obtain ⟨node, found⟩ := itself
      rw [removed node found, remove, loose node found]
    · have failed : ¬ edit.Possible document.forest := fun possible =>
        Bool.false_ne_true (refused.symm.trans ((attempt_snd_iff wellFormed edit).mpr possible))
      rw [attempt_of_not_possible failed (not_exists.mp itself)]

/-- The two texts, under the eyes of an observer of the paragraph. -/
def watchedTexts : Document :=
  (Document.ofForest (Forest.ofTrees twoTexts).1).addObserver.1.observe 0 1 .nodes

/-- No text can be put after the page as a whole, and a text without a parent cannot be put
after itself; both leave the document alone. -/
theorem attempt_refused_watchedTexts :
    let loose := (watchedTexts.remove 2).1
    ((Edit.insertAfter 0 2).attempt watchedTexts).1 = watchedTexts ∧
      ((Edit.insertAfter 2 2).attempt loose).1 = loose := by
  have wellFormed : watchedTexts.forest.WellFormed :=
    (Forest.grown_ofTrees twoTexts).1.wellFormed
  intro loose
  have wellFormedLoose : loose.forest.WellFormed := by
    have known : (Edit.remove 2).Known watchedTexts.forest := by decide
    have edited := wellFormed.edited known
    rwa [← Edit.forest_carryOut] at edited
  refine ⟨(attempt_refused wellFormed (by decide)).1.mpr ?_,
    (attempt_refused wellFormedLoose (by decide)).1.mpr ?_⟩
  · rintro node ⟨⟩
  · rintro node ⟨⟩
    decide

/-- A text that is to be put after itself is refused: it has left the paragraph, and the
observer is told so. -/
theorem attempt_refused_itself :
    let attempted := (Edit.insertAfter 2 2).attempt watchedTexts
    watchedTexts.forest.WellFormed ∧ attempted.2 = false ∧
      watchedTexts.forest.children 1 = [2, 3] ∧ attempted.1.forest.children 1 = [3] ∧
      watchedTexts.forest.parent? 2 = some 1 ∧ attempted.1.forest.parent? 2 = none ∧
      watchedTexts.queue 0 = [] ∧ attempted.1.queue 0 = [.children 1 [] [2]] :=
  ⟨(Forest.grown_ofTrees twoTexts).1.wellFormed, by decide⟩

end Polyglot.Document
