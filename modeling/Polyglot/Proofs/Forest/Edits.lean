import Polyglot.Proofs.Forest.Placement

/-!
# What edits do to a forest

An edit takes a node out of where it is, puts a node somewhere, or does both. Taking
out leaves a node loose (`loosened`), and a loose node is seated among the children of
another (`seated`). Both are described by what can be looked up afterwards, and both
keep parents and children in agreement; so does every edit of nodes that are there
(`WellFormed.edited`).
-/

set_option autoImplicit false

namespace Polyglot

namespace Forest

/-! ## Taking a node out -/

/-- A forest with a node taken out of its parent. -/
def loosened (forest : Forest) (node : NodeId) : Forest :=
  forest.after (forest.removal node)

section Loosened

variable {forest : Forest} (node : NodeId)

/-- A node without a parent is left where it is; any other one leaves its parent. -/
theorem WellFormed.loosened_cases (wellFormed : forest.WellFormed) :
    forest.parent? node = none ∧ forest.loosened node = forest ∨
      ∃ parent, forest.parent? node = some parent ∧ forest.loosened node =
        (forest.setChildren parent ((forest.children parent).erase node)).setParent node none := by
  rw [loosened, removal]
  cases found : forest.parent? node with
  | none => exact .inl ⟨rfl, rfl⟩
  | some parent =>
    obtain ⟨left, right, split⟩ := List.append_of_mem (wellFormed.mem_of_parent? found)
    have absent := wellFormed.not_mem_left split
    have fewer : (forest.children parent).eraseIdx left.length
        = (forest.children parent).erase node := by
      rw [split, List.eraseIdx_append_of_length_le (Nat.le_refl _), Nat.sub_self,
        List.eraseIdx_cons_zero, List.erase_append_right _ absent, List.erase_cons_head]
    simp only [wellFormed.indexOf?_of_split split, fewer]
    exact .inr ⟨parent, rfl, rfl⟩

variable (wellFormed : forest.WellFormed)
include wellFormed

@[simp] theorem size_loosened : (forest.loosened node).size = forest.size := by
  rcases wellFormed.loosened_cases node with ⟨_, same⟩ | ⟨parent, _, same⟩
  · rw [same]
  · rw [same, size_setParent, size_setChildren]

theorem parent?_loosened (id : NodeId) :
    (forest.loosened node).parent? id = if id = node then none else forest.parent? id := by
  rcases wellFormed.loosened_cases node with ⟨loose, same⟩ | ⟨parent, found, same⟩
  · rw [same]
    split
    · next here => rw [here, loose]
    · rfl
  · have known := forest.lt_size_of_parent? node found
    rw [same, parent?_setParent _ _ (by rwa [size_setChildren]), parent?_setChildren]

theorem children_loosened (id : NodeId) :
    (forest.loosened node).children id = (forest.children id).erase node := by
  rcases wellFormed.loosened_cases node with ⟨loose, same⟩ | ⟨parent, found, same⟩
  · have absent : node ∉ forest.children id := fun listed => by
      rw [wellFormed.parent?_of_mem listed] at loose
      cases loose
    rw [same, List.erase_of_not_mem absent]
  · have known := forest.lt_size_of_mem_children parent (wellFormed.mem_of_parent? found)
    rw [same, children_setParent, children_setChildren _ _ known]
    split
    · next here => rw [here]
    · next elsewhere =>
      have absent : node ∉ forest.children id := fun listed =>
        elsewhere (Option.some.inj ((wellFormed.parent?_of_mem listed).symm.trans found))
      rw [List.erase_of_not_mem absent]

theorem WellFormed.loosened : (forest.loosened node).WellFormed where
  mem_children_iff parent child := by
    rw [children_loosened node wellFormed, parent?_loosened node wellFormed,
      (wellFormed.nodup_children parent).mem_erase_iff, wellFormed.mem_children_iff]
    split
    · next same => simp [same]
    · next different => simp [different]
  nodup_children parent := by
    rw [children_loosened node wellFormed]
    exact (wellFormed.nodup_children parent).erase node

end Loosened

/-! ## Seating a node -/

/-- A forest with a node made one of the children of another, whose list is then a
given one. -/
def seated (forest : Forest) (parent node : NodeId) (list : List NodeId) : Forest :=
  (forest.setChildren parent list).setParent node (some parent)

theorem attach_eq_seated (forest : Forest) (parent node : NodeId) :
    forest.attach parent node = forest.seated parent node (forest.children parent ++ [node]) := by
  have changed : (forest.modify parent fun here =>
      { here with children := here.children ++ [node] })
        = forest.setChildren parent (forest.children parent ++ [node]) := by
    refine congrArg Forest.mk (Array.ext_getElem? fun id => ?_)
    have first := forest.node?_modify parent id fun here =>
      { here with children := here.children ++ [node] }
    have second := forest.node?_modify parent id fun here =>
      { here with children := forest.children parent ++ [node] }
    refine first.trans (Eq.trans ?_ second.symm)
    split
    · next same =>
      subst same
      rw [children]
      cases forest.node? parent <;> rfl
    · rfl
  rw [attach, seated, changed]

section Seated

variable {forest : Forest} {parent node : NodeId} (list : List NodeId)

@[simp] theorem size_seated : (forest.seated parent node list).size = forest.size := by
  rw [seated, size_setParent, size_setChildren]

theorem parent?_seated (known : node < forest.size) (id : NodeId) :
    (forest.seated parent node list).parent? id =
      if id = node then some parent else forest.parent? id := by
  rw [seated, parent?_setParent _ _ (by rwa [size_setChildren]), parent?_setChildren]

theorem children_seated (known : parent < forest.size) (id : NodeId) :
    (forest.seated parent node list).children id =
      if id = parent then list else forest.children id := by
  rw [seated, children_setParent, children_setChildren _ _ known]

/-- A loose node is seated among the children of another. -/
theorem WellFormed.seated (wellFormed : forest.WellFormed) (knownParent : parent < forest.size)
    (known : node < forest.size) (loose : forest.parent? node = none) {list : List NodeId}
    (perm : list.Perm (node :: forest.children parent)) :
    (forest.seated parent node list).WellFormed where
  mem_children_iff id child := by
    rw [children_seated list knownParent, parent?_seated list known]
    have unseated : ∀ above, node ∉ forest.children above := fun above listed => by
      rw [wellFormed.parent?_of_mem listed] at loose
      cases loose
    by_cases here : id = parent
    · rw [if_pos here, perm.mem_iff, List.mem_cons, wellFormed.mem_children_iff, here]
      split
      · next same => simp [same]
      · next different => simp [different]
    · rw [if_neg here, wellFormed.mem_children_iff]
      split
      · next same =>
        rw [same, loose]
        exact ⟨nofun, fun found => absurd (Option.some.inj found).symm here⟩
      · rfl
  nodup_children id := by
    rw [children_seated list knownParent]
    split
    · refine perm.nodup_iff.mpr (List.nodup_cons.mpr ⟨fun listed => ?_,
        wellFormed.nodup_children parent⟩)
      rw [wellFormed.parent?_of_mem listed] at loose
      cases loose
    · exact wellFormed.nodup_children id

end Seated

/-! ## Edits -/

/-- A forest after an edit. -/
def edited (forest : Forest) (edit : Edit) : Forest :=
  forest.after (edit.strokes forest)

end Forest

namespace Edit

theorem forest_carryOut (edit : Edit) (document : Document) :
    (edit.carryOut document).forest = document.forest.edited edit := by
  rw [edit.carryOut_eq_play, Document.forest_play, Forest.edited]

/-- The nodes that an edit names are there. A node that is to be changed or taken out,
or beside which another is to be put, need not be: nothing happens then. -/
def Known (forest : Forest) : Edit → Prop
  | .append parent node => parent < forest.size ∧ node < forest.size
  | .insertAfter _ node => node < forest.size
  | .replace _ node => node < forest.size
  | _ => True

instance (forest : Forest) : (edit : Edit) → Decidable (edit.Known forest)
  | .append parent node => inferInstanceAs (Decidable (parent < forest.size ∧ node < forest.size))
  | .insertAfter _ node => inferInstanceAs (Decidable (node < forest.size))
  | .replace _ node => inferInstanceAs (Decidable (node < forest.size))
  | .setText _ _ => isTrue trivial
  | .remove _ => isTrue trivial

end Edit

namespace Forest

variable {forest : Forest}

theorem after_append (first second : List Stroke) :
    forest.after (first ++ second) = (forest.after first).after second :=
  List.foldl_append

/-- Parents and children agree wherever they are the same. -/
theorem WellFormed.of_same {other : Forest} (wellFormed : forest.WellFormed)
    (children : ∀ id, other.children id = forest.children id)
    (parent? : ∀ id, other.parent? id = forest.parent? id) : other.WellFormed where
  mem_children_iff parent child := by
    rw [children, parent?]
    exact wellFormed.mem_children_iff parent child
  nodup_children parent := by
    rw [children]
    exact wellFormed.nodup_children parent

theorem WellFormed.add (wellFormed : forest.WellFormed) (content : Content) :
    (forest.add content).1.WellFormed :=
  wellFormed.of_same (fun id => children_add forest id content) fun id =>
    parent?_add forest id content

/-! ### Appending -/

theorem edited_append (parent node : NodeId) :
    forest.edited (.append parent node) =
      (forest.loosened node).seated parent node
        ((forest.loosened node).children parent ++ [node]) := by
  rw [edited, Edit.strokes, after_append, ← attach_eq_seated]
  rfl

theorem WellFormed.append (wellFormed : forest.WellFormed) {parent node : NodeId}
    (knownParent : parent < forest.size) (known : node < forest.size) :
    (forest.edited (.append parent node)).WellFormed := by
  have size := size_loosened node wellFormed
  have loose := (parent?_loosened node wellFormed node).trans (if_pos rfl)
  rw [edited_append]
  exact (wellFormed.loosened node).seated (size.symm ▸ knownParent) (size.symm ▸ known) loose
    (List.perm_append_singleton node _)

/-! ### Inserting -/

/-- A node that is put after another one is seated after it, or it is only taken out
because the other one has left with it. -/
theorem insertAfter_cases (forest : Forest) (reference node : NodeId) :
    forest.parent? reference = none ∧ forest.edited (.insertAfter reference node) = forest ∨
      ∃ parent, forest.parent? reference = some parent ∧
        ((forest.loosened node).indexOf? parent reference = none ∧
            forest.edited (.insertAfter reference node) = forest.loosened node ∨
          ∃ index, (forest.loosened node).indexOf? parent reference = some index ∧
            forest.edited (.insertAfter reference node) =
              (forest.loosened node).seated parent node
                (((forest.loosened node).children parent).insertIdx (index + 1) node)) := by
  rw [edited, Edit.strokes]
  cases forest.parent? reference with
  | none => exact .inl ⟨rfl, rfl⟩
  | some parent =>
    refine .inr ⟨parent, rfl, ?_⟩
    simp only [after_append]
    rw [show forest.after (forest.removal node) = forest.loosened node from rfl]
    cases (forest.loosened node).indexOf? parent reference with
    | none => exact .inl ⟨rfl, rfl⟩
    | some index => exact .inr ⟨index, rfl, rfl⟩

theorem lt_length_of_indexOf? {parent child : NodeId} {index : Nat}
    (found : forest.indexOf? parent child = some index) :
    index < (forest.children parent).length :=
  (List.idxOf?_eq_some_iff.mp found).1

theorem lt_size_of_indexOf? {parent child : NodeId} {index : Nat}
    (found : forest.indexOf? parent child = some index) : parent < forest.size := by
  have listed := List.getElem_mem (lt_length_of_indexOf? found)
  exact forest.lt_size_of_mem_children parent listed

theorem WellFormed.insertAfter (wellFormed : forest.WellFormed) {reference node : NodeId}
    (known : node < forest.size) : (forest.edited (.insertAfter reference node)).WellFormed := by
  obtain ⟨_, same⟩ | ⟨parent, _, ⟨_, same⟩ | ⟨index, found, same⟩⟩ :=
    forest.insertAfter_cases reference node
  · rw [same]
    exact wellFormed
  · rw [same]
    exact wellFormed.loosened node
  · have size := size_loosened node wellFormed
    have loose := (parent?_loosened node wellFormed node).trans (if_pos rfl)
    rw [same]
    exact (wellFormed.loosened node).seated (lt_size_of_indexOf? found) (size.symm ▸ known) loose
      (List.perm_insertIdx node _ (lt_length_of_indexOf? found))

/-! ### Replacing -/

/-- A node that is put in the place of another one is seated there, or it is only taken
out because the other one has left with it. -/
theorem replace_cases (forest : Forest) (old node : NodeId) :
    forest.edited (.replace old node) = forest ∨
      old ≠ node ∧ ∃ parent, forest.parent? old = some parent ∧
        (forest.edited (.replace old node) = forest.loosened node ∨
          ∃ index, (forest.loosened node).indexOf? parent old = some index ∧
            forest.edited (.replace old node) =
              ((forest.loosened node).seated parent node
                (((forest.loosened node).children parent).set index node)).setParent old none) := by
  rw [edited, Edit.strokes]
  split
  · exact .inl rfl
  · next different =>
    cases forest.parent? old with
    | none => exact .inl rfl
    | some parent =>
      refine .inr ⟨different, parent, rfl, ?_⟩
      simp only [after_append]
      rw [show forest.after (forest.removal node) = forest.loosened node from rfl]
      cases (forest.loosened node).indexOf? parent old with
      | none => exact .inl rfl
      | some index => exact .inr ⟨index, rfl, rfl⟩

/-- Seating a loose node in the place of another is seating it after that one and taking
that one out. -/
theorem WellFormed.supplant (wellFormed : forest.WellFormed) {parent old node : NodeId}
    (known : node < forest.size) (loose : forest.parent? node = none) {index : Nat}
    (found : forest.indexOf? parent old = some index) :
    ((forest.seated parent node ((forest.children parent).set index node)).setParent old
      none).WellFormed := by
  obtain ⟨bound, stands, _⟩ := List.idxOf?_eq_some_iff.mp found
  have listed : old ∈ forest.children parent := stands ▸ List.getElem_mem bound
  have knownParent := forest.lt_size_of_mem_children parent listed
  obtain ⟨left, right, split⟩ := List.append_of_mem listed
  have place := wellFormed.indexOf?_of_split split
  cases found.symm.trans place
  have absent := wellFormed.not_mem_left split
  have set : (forest.children parent).set left.length node = left ++ node :: right := by
    rw [split, List.set_append_right _ _ (Nat.le_refl _), Nat.sub_self, List.set_cons_zero]
  have perm : (left ++ old :: node :: right).Perm (node :: forest.children parent) := by
    rw [split]
    exact (List.perm_middle.trans (.cons old List.perm_middle)).trans
      ((List.Perm.swap node old _).trans (.cons node List.perm_middle.symm))
  have beside := wellFormed.seated knownParent known loose perm
  refine (beside.loosened old).of_same (fun id => ?_) fun id => ?_
  · rw [children_loosened old beside, children_setParent, children_seated _ knownParent,
      children_seated _ knownParent, set]
    split
    · rw [List.erase_append_right _ absent, List.erase_cons_head]
    · next elsewhere =>
      refine (List.erase_of_not_mem fun also => elsewhere ?_).symm
      exact Option.some.inj ((wellFormed.parent?_of_mem also).symm.trans
        (wellFormed.parent?_of_mem listed))
  · rw [parent?_loosened old beside, parent?_setParent _ _ (by
      rw [size_seated]
      exact wellFormed.lt_size listed), parent?_seated _ known, parent?_seated _ known]

theorem WellFormed.replace (wellFormed : forest.WellFormed) {old node : NodeId}
    (known : node < forest.size) : (forest.edited (.replace old node)).WellFormed := by
  obtain same | ⟨_, parent, _, same | ⟨index, found, same⟩⟩ :=
    forest.replace_cases old node
  · rw [same]
    exact wellFormed
  · rw [same]
    exact wellFormed.loosened node
  · have size := size_loosened node wellFormed
    have loose := (parent?_loosened node wellFormed node).trans (if_pos rfl)
    rw [same]
    exact (wellFormed.loosened node).supplant (size.symm ▸ known) loose found

/-! ### Any edit -/

/-- **Edits of nodes that are there keep parents and children in agreement.** -/
theorem WellFormed.edited (wellFormed : forest.WellFormed) {edit : Edit}
    (known : edit.Known forest) : (forest.edited edit).WellFormed := by
  cases edit with
  | setText node text =>
    rw [Forest.edited, Edit.strokes]
    cases forest.text? node with
    | none => exact wellFormed
    | some old =>
      exact wellFormed.of_same (fun id => children_setContent forest node id _)
        fun id => parent?_setContent forest node id _
  | append parent node => exact wellFormed.append known.1 known.2
  | insertAfter reference node => exact wellFormed.insertAfter known
  | replace old node => exact wellFormed.replace known
  | remove node => exact wellFormed.loosened node

end Forest

end Polyglot
