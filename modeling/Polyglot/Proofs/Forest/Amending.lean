import Polyglot.Directive.Scan
import Polyglot.Proofs.Forest.Ancestors

/-!
# Amending a subtree

What may be done to a subtree without harm to anything else in it: a text is given other
words, a comment of directives is put right after a text, or such a comment takes the place
of another one right after a text (`Amendment`). The texts are those that were in the
subtree at first; a comment that gives way may take some of them out of it meanwhile.

Amendments are confined to the subtree, however many there are (`Confined.amended`):
outside nothing changes at all, inside every node that is no text is what it was, none but
comments of directives lose their place, and apart from those all children stay in order.
-/

set_option autoImplicit false

namespace Polyglot.Forest

/-! ## Comments of directives -/

/-- Whether a node is a comment with a directive in it. -/
def isNote (forest : Forest) (id : NodeId) : Bool :=
  (forest.comment? id).any Directive.hasMarker

/-- Whether a node is there and is no comment of directives. -/
def isLasting (forest : Forest) (id : NodeId) : Bool :=
  (forest.content? id).isSome && !forest.isNote id

theorem text?_eq_none_of_isNote {forest : Forest} {id : NodeId} (note : forest.isNote id = true) :
    forest.text? id = none := by
  apply text?_eq_none_of_comment?
  rw [isNote] at note
  cases here : forest.comment? id with
  | none => simp [here] at note
  | some words => rfl

/-! ## Amendments -/

/-- One amendment of what was at first the subtree of a node. -/
inductive Amendment (start : Forest) (top : NodeId) : Forest → Forest → Prop where
  /-- A text is given other words. -/
  | rewrite {forest : Forest} {node : NodeId} {old : Text} (words : Text) :
      start.Climbs node top → forest.text? node = some old →
      Amendment start top forest (forest.setContent node (.text words))
  /-- A comment of directives is put right after a text. -/
  | insert {forest after : Forest} {node parent : NodeId} {left right : List NodeId}
      {words : Text} : start.Climbs node top → (forest.text? node).isSome →
      Directive.hasMarker words = true →
      forest.Placed after node parent left right none words → Amendment start top forest after
  /-- A comment of directives takes the place of another one right after a text. -/
  | replace {forest after : Forest} {node parent sibling : NodeId} {left right : List NodeId}
      {words : Text} : start.Climbs node top → (forest.text? node).isSome →
      Directive.hasMarker words = true → forest.isNote sibling = true →
      forest.Placed after node parent left right (some sibling) words →
      Amendment start top forest after

/-- Several amendments. -/
abbrev Amended (start : Forest) (top : NodeId) : Forest → Forest → Prop :=
  Relation.ReflTransGen (Amendment start top)

/-- A forest differs from another one in the subtree of a node only, and there in nothing
but the words of texts and in comments of directives. -/
structure Confined (start : Forest) (top : NodeId) (after : Forest) : Prop where
  wellFormed : after.WellFormed
  size_le : start.size ≤ after.size
  /-- A text remains a text, and no other node becomes one. -/
  isSome_text? : ∀ id, (after.text? id).isSome = (start.text? id).isSome
  /-- Nothing but a text of the subtree is another one than before. -/
  content? : ∀ id < start.size, ((start.text? id).isSome → ¬ start.Climbs id top) →
    after.content? id = start.content? id
  /-- Nothing but a comment of directives in the subtree loses its place. -/
  parent? : ∀ id < start.size, after.parent? id = start.parent? id ∨
    start.Climbs id top ∧ start.isNote id = true ∧ after.parent? id = none
  /-- Outside the subtree all nodes have the children that they had. -/
  outside : ∀ id < start.size, ¬ start.Climbs id top → after.children id = start.children id
  /-- Apart from comments of directives all nodes have the children that they had. -/
  children : ∀ id, (after.children id).filter start.isLasting =
    (start.children id).filter start.isLasting
  /-- What is new are comments of directives, with nothing below them. -/
  added : ∀ id, start.size ≤ id → id < after.size →
    after.isNote id = true ∧ after.children id = []

namespace Confined

variable {start forest after : Forest} {top : NodeId}

/-- A forest is confined to any change in a subtree of itself. -/
theorem refl (wellFormed : start.WellFormed) (top : NodeId) : start.Confined top start where
  wellFormed := wellFormed
  size_le := Nat.le_refl _
  isSome_text? _ := rfl
  content? _ _ _ := rfl
  parent? _ _ := .inl rfl
  outside _ _ _ := rfl
  children _ := rfl
  added _ beyond known := absurd known (Nat.not_lt.mpr beyond)

variable (confined : start.Confined top forest)
include confined

/-- A comment of directives that was there is what it was. -/
theorem isNote_of_lt {id : NodeId} (known : id < start.size) (note : forest.isNote id = true) :
    start.isNote id = true := by
  have same := confined.content? id known fun spoken => by
    rw [← confined.isSome_text?, text?_eq_none_of_isNote note] at spoken
    cases spoken
  rw [isNote, comment?, same] at note
  exact note

theorem isLasting_of_isNote {id : NodeId} (note : forest.isNote id = true) :
    start.isLasting id = false := by
  by_cases known : id < start.size
  · rw [isLasting, confined.isNote_of_lt known note, Bool.not_true, Bool.and_false]
  · rw [isLasting, start.content?_eq_none_of_size_le id (Nat.not_lt.mp known)]
    rfl

/-- A node that has a child was there. -/
theorem lt_size_of_mem {parent child : NodeId} (listed : child ∈ forest.children parent) :
    parent < start.size := by
  by_contra beyond
  have known := forest.lt_size_of_mem_children parent listed
  rw [(confined.added parent (Nat.not_lt.mp beyond) known).2] at listed
  exact List.not_mem_nil listed

/-- Of the nodes that were there, none comes to be below another one. -/
theorem climbs {id above : NodeId} (known : id < start.size) (up : forest.Climbs id above) :
    start.Climbs id above := by
  induction up using Relation.ReflTransGen.head_induction_on with
  | refl => exact .refl
  | head found _ ih =>
    have listed := confined.wellFormed.mem_of_parent? found
    rcases confined.parent? _ known with same | ⟨_, _, lost⟩
    · exact .head (same.symm.trans found) (ih (confined.lt_size_of_mem listed))
    · rw [lost] at found
      cases found

section Inside

variable (silent : start.text? top = none) {node parent : NodeId}
  (inside : start.Climbs node top) (spoken : (forest.text? node).isSome)
include silent inside spoken

/-- A text of the subtree has a parent, which is in the subtree. -/
theorem exists_parent : ∃ parent, node ∈ forest.children parent ∧ start.Climbs parent top := by
  have isText : (start.text? node).isSome := confined.isSome_text? node ▸ spoken
  obtain ⟨words, written⟩ := Option.isSome_iff_exists.mp isText
  obtain rfl | ⟨parent, found, onward⟩ := inside.cases_head
  · rw [silent] at written
    cases written
  refine ⟨parent, confined.wellFormed.mem_of_parent? ?_, onward⟩
  rcases confined.parent? node (start.lt_size_of_text? node written) with same | ⟨_, note, _⟩
  · exact same.trans found
  · rw [text?_eq_none_of_isNote note] at written
    cases written

theorem climbs_parent (listed : node ∈ forest.children parent) : start.Climbs parent top := by
  obtain ⟨above, child, within⟩ := confined.exists_parent silent inside spoken
  have found := confined.wellFormed.parent?_of_mem listed
  rw [confined.wellFormed.parent?_of_mem child, Option.some.injEq] at found
  exact found ▸ within

/-- The siblings of a text of the subtree are in it, unless they are new. -/
theorem climbs_sibling (listed : node ∈ forest.children parent) {sibling : NodeId}
    (beside : sibling ∈ forest.children parent) (known : sibling < start.size) :
    start.Climbs sibling top := by
  have found := confined.wellFormed.parent?_of_mem beside
  rcases confined.parent? sibling known with same | ⟨within, _, _⟩
  · exact .head (same.symm.trans found) (confined.climbs_parent silent inside spoken listed)
  · exact within

end Inside

/-! ## What an amendment does -/

section Rewrite

variable {node : NodeId} {old : Text} (inside : start.Climbs node top)
  (spoken : forest.text? node = some old)
include inside spoken

theorem rewrite (words : Text) : start.Confined top (forest.setContent node (.text words)) := by
  have alike := Alike.of_setContent spoken words
  have isText : (start.text? node).isSome := by
    rw [← confined.isSome_text?, spoken]
    rfl
  refine ⟨alike.wellFormed confined.wellFormed, ?_, fun id => ?_, fun id known elsewhere => ?_,
    fun id known => ?_, fun id known outside => ?_, fun id => ?_, fun id beyond known => ?_⟩
  · rw [alike.size]
    exact confined.size_le
  · rw [alike.isSome_text?]
    exact confined.isSome_text? id
  · have other : id ≠ node := by
      rintro rfl
      exact elsewhere isText inside
    rw [content?_setContent id _ (forest.lt_size_of_text? node spoken), if_neg other]
    exact confined.content? id known elsewhere
  · rw [alike.parent?]
    exact confined.parent? id known
  · rw [alike.children]
    exact confined.outside id known outside
  · rw [alike.children]
    exact confined.children id
  · rw [isNote, alike.comment?, alike.children]
    exact confined.added id beyond (alike.size ▸ known)

end Rewrite

section Placing

variable (silent : start.text? top = none) {node parent : NodeId} {left right : List NodeId}
  {sibling? : Option NodeId} {words : Text}
  (inside : start.Climbs node top) (spoken : (forest.text? node).isSome)
  (marked : Directive.hasMarker words = true)
  (note : ∀ sibling, sibling? = some sibling → forest.isNote sibling = true)
  (placed : forest.Placed after node parent left right sibling? words)
include silent inside spoken marked note placed

theorem place : start.Confined top after := by
  have within := confined.climbs_parent silent inside spoken placed.node_mem
  have occupied := confined.lt_size_of_mem placed.node_mem
  have old : ∀ id < start.size, id ≠ forest.size := fun id known =>
    Nat.ne_of_lt (Nat.lt_of_lt_of_le known confined.size_le)
  have fresh : start.isLasting forest.size = false := by
    rw [isLasting, start.content?_eq_none_of_size_le _ confined.size_le]
    rfl
  have gone : sibling?.toList.filter start.isLasting = [] := by
    cases given : sibling? with
    | none => rfl
    | some sibling =>
      rw [Option.toList_some, List.filter_singleton,
        confined.isLasting_of_isNote (note sibling given)]
      rfl
  refine ⟨placed.wellFormed confined.wellFormed, ?_, fun id => ?_, fun id known elsewhere => ?_,
    fun id known => ?_, fun id known outside => ?_, fun id => ?_, fun id beyond known => ?_⟩
  · rw [placed.size]
    exact Nat.le_succ_of_le confined.size_le
  · rw [placed.text?]
    exact confined.isSome_text? id
  · rw [placed.content?, if_neg (old id known)]
    exact confined.content? id known elsewhere
  · rw [placed.parent?, if_neg (old id known)]
    split
    · next gone =>
      exact .inr ⟨confined.climbs_sibling silent inside spoken placed.node_mem
        (placed.sibling_mem gone) known, confined.isNote_of_lt known (note id gone), rfl⟩
    · exact confined.parent? id known
  · rw [placed.children, if_neg]
    · exact confined.outside id known outside
    · rintro rfl
      exact outside within
  · rw [placed.children, ← confined.children id]
    split
    · next here =>
      rw [here, placed.split]
      simp only [List.filter_append, List.filter_cons, fresh, gone, List.nil_append,
        Bool.false_eq_true, if_false]
    · rfl
  · have elsewhere : id ≠ parent := Nat.ne_of_gt (Nat.lt_of_lt_of_le occupied beyond)
    rw [isNote, placed.comment?, placed.children, if_neg elsewhere]
    split
    · next new =>
      exact ⟨marked, new ▸ forest.children_eq_nil_of_size_le _ (Nat.le_refl _)⟩
    · next other =>
      rw [placed.size] at known
      exact confined.added id beyond (Nat.lt_of_le_of_ne (Nat.le_of_lt_succ known) other)

end Placing

variable (silent : start.text? top = none)
include silent

/-- An amendment is confined to the subtree. -/
theorem amendment (amendment : Amendment start top forest after) : start.Confined top after := by
  cases amendment with
  | rewrite words inside spoken => exact confined.rewrite inside spoken words
  | insert inside spoken marked placed =>
    apply confined.place silent inside spoken marked _ placed
    intro sibling given
    cases given
  | replace inside spoken marked note placed =>
    apply confined.place silent inside spoken marked _ placed
    intro sibling given
    exact Option.some.inj given ▸ note

/-- **Amendments are confined to the subtree**, if what stands on top of it is no text. -/
theorem amended (amended : Amended start top forest after) : start.Confined top after := by
  induction amended with
  | refl => exact confined
  | tail _ last ih => exact ih.amendment silent last

end Confined

end Polyglot.Forest
