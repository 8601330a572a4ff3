import Polyglot.Document.Edit
import Polyglot.Proofs.Document.Queues

/-!
# Edits as strokes

An edit changes the forest in strokes, each of which leaves a forest and, as a
rule, reports one change. What the strokes of an edit are depends on the forest
alone and not on who observes it, so the strokes say which changes an edit
reports and in which order. Carrying out an edit is playing its strokes
(`carryOut_eq_play`).
-/

set_option autoImplicit false

namespace Polyglot

/-- An edit of a document. -/
inductive Edit where
  | setText (node : NodeId) (text : Text)
  | append (parent node : NodeId)
  | insertAfter (reference node : NodeId)
  | replace (old node : NodeId)
  | remove (node : NodeId)
  deriving DecidableEq, Repr

/-- The document after an edit. -/
def Edit.carryOut (document : Document) : Edit → Document
  | .setText node text => (document.setText node text).1
  | .append parent node => document.append parent node
  | .insertAfter reference node => (document.insertAfter reference node).1
  | .replace old node => (document.replace old node).1
  | .remove node => (document.remove node).1

/-- A forest that an edit leaves on its way, and the change that it reports then. -/
structure Stroke where
  forest : Forest
  change? : Option Change
  deriving DecidableEq, Repr

/-! ## The strokes of an edit -/

namespace Forest

/-- The forest that strokes leave in the end. -/
def after (forest : Forest) (strokes : List Stroke) : Forest :=
  strokes.foldl (fun _ stroke => stroke.forest) forest

/-- The strokes of taking a node out of its parent. -/
def removal (forest : Forest) (node : NodeId) : List Stroke :=
  match forest.parent? node with
  | none => []
  | some parent =>
    match forest.indexOf? parent node with
    | none => [⟨forest.setParent node none, none⟩]
    | some index =>
      let children := (forest.children parent).eraseIdx index
      [⟨(forest.setChildren parent children).setParent node none,
        some (.children parent [] [node])⟩]

end Forest

/-- The strokes of an edit. -/
def Edit.strokes (forest : Forest) : Edit → List Stroke
  | .setText node text =>
    match forest.text? node with
    | none => []
    | some old => [⟨forest.setContent node (.text text), some (.text node old)⟩]
  | .append parent node =>
    let loose := forest.after (forest.removal node)
    forest.removal node ++
      [⟨loose.attach parent node, some (.children parent [node] [])⟩]
  | .insertAfter reference node =>
    match forest.parent? reference with
    | none => []
    | some parent =>
      let loose := forest.after (forest.removal node)
      forest.removal node ++
        match loose.indexOf? parent reference with
        | none => []
        | some index =>
          let children := (loose.children parent).insertIdx (index + 1) node
          [⟨(loose.setChildren parent children).setParent node (some parent),
            some (.children parent [node] [])⟩]
  | .replace old node =>
    if old = node then []
    else
      match forest.parent? old with
      | none => []
      | some parent =>
        let loose := forest.after (forest.removal node)
        forest.removal node ++
          match loose.indexOf? parent old with
          | none => []
          | some index =>
            let children := (loose.children parent).set index node
            [⟨((loose.setChildren parent children).setParent node (some parent)).setParent old none,
              some (.children parent [node] [old])⟩]
  | .remove node => forest.removal node

/-! ## Playing strokes -/

namespace Document

/-- A document after a stroke. -/
def stroke (document : Document) (stroke : Stroke) : Document :=
  match stroke.change? with
  | none => document.withForest stroke.forest
  | some change => (document.withForest stroke.forest).report change

/-- A document after several strokes. -/
def play (document : Document) (strokes : List Stroke) : Document :=
  strokes.foldl Document.stroke document

theorem forest_stroke (document : Document) (stroke : Stroke) :
    (document.stroke stroke).forest = stroke.forest := by
  unfold Document.stroke
  split
  · rfl
  · exact forest_report _ _

theorem forest_play (strokes : List Stroke) :
    ∀ document : Document, (document.play strokes).forest = document.forest.after strokes := by
  induction strokes with
  | nil => exact fun _ => rfl
  | cons stroke rest ih =>
    intro document
    have later := ih (document.stroke stroke)
    rw [forest_stroke] at later
    exact later

theorem play_append (document : Document) (first second : List Stroke) :
    document.play (first ++ second) = (document.play first).play second :=
  List.foldl_append

theorem remove_eq_play (document : Document) (node : NodeId) :
    (document.remove node).1 = document.play (document.forest.removal node) := by
  unfold Document.remove Forest.removal
  cases document.forest.parent? node with
  | none => rfl
  | some parent =>
    dsimp only
    cases document.forest.indexOf? parent node <;> rfl

/-- The forest after a node was taken out. -/
theorem forest_remove (document : Document) (node : NodeId) :
    (document.remove node).1.forest = document.forest.after (document.forest.removal node) := by
  rw [remove_eq_play, forest_play]

end Document

/-- **Carrying out an edit is playing its strokes.** -/
theorem Edit.carryOut_eq_play (document : Document) (edit : Edit) :
    edit.carryOut document = document.play (edit.strokes document.forest) := by
  cases edit with
  | setText node text =>
    simp only [carryOut, strokes, Document.setText]
    cases document.forest.text? node <;> rfl
  | append parent node =>
    simp only [carryOut, strokes, Document.append, Document.play_append,
      ← Document.remove_eq_play, ← Document.forest_remove]
    rfl
  | insertAfter reference node =>
    simp only [carryOut, strokes, Document.insertAfter]
    cases document.forest.parent? reference with
    | none => rfl
    | some parent =>
      simp only [Document.play_append, ← Document.remove_eq_play, ← Document.forest_remove]
      cases (document.remove node).1.forest.indexOf? parent reference <;> rfl
  | replace old node =>
    simp only [carryOut, strokes, Document.replace]
    by_cases same : old = node
    · rw [if_pos same, if_pos same]
      rfl
    · rw [if_neg same, if_neg same]
      cases document.forest.parent? old with
      | none => rfl
      | some parent =>
        simp only [Document.play_append, ← Document.remove_eq_play, ← Document.forest_remove]
        cases (document.remove node).1.forest.indexOf? parent old <;> rfl
  | remove node => exact Document.remove_eq_play document node

end Polyglot
