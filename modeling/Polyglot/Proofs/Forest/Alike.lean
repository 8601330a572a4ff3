import Polyglot.Proofs.Forest.Walks

/-!
# Forests that differ in their words

Two forests are alike if they have the same nodes in the same places and differ at
most in what their texts say. Everything that does not read a text is the same in
both: siblings, comments, which nodes are texts. If the texts say the
same too, then the forests are equal (`Alike.eq_of_text?`).
-/

set_option autoImplicit false

namespace Polyglot

/-- What a node is, apart from the words of a text. -/
def Content.wordless : Content → Content
  | .text _ => .text []
  | content => content

theorem Content.comment?_wordless (content : Content) :
    content.wordless.comment? = content.comment? := by
  cases content <;> rfl

theorem Content.isText_wordless (content : Content) : content.wordless.isText = content.isText := by
  cases content <;> rfl

namespace Forest

/-- Two forests that differ in the words of their texts at most. -/
structure Alike (one other : Forest) : Prop where
  size : one.size = other.size
  parent? : one.parent? = other.parent?
  children : one.children = other.children
  content? : ∀ id, (one.content? id).map Content.wordless = (other.content? id).map Content.wordless

/-- A forest is known by what can be looked up in it. -/
theorem eq_of_lookups {one other : Forest} (size : one.size = other.size)
    (content? : ∀ id, one.content? id = other.content? id) (parent? : one.parent? = other.parent?)
    (children : one.children = other.children) : one = other := by
  suffices nodes : one.nodes = other.nodes by
    cases one
    cases other
    exact congrArg Forest.mk nodes
  refine Array.ext_getElem? fun id => ?_
  change one.node? id = other.node? id
  have content := content? id
  have parent := congrFun parent? id
  have children := congrFun children id
  rw [Forest.content?, Forest.content?] at content
  rw [Forest.parent?, Forest.parent?] at parent
  rw [Forest.children, Forest.children] at children
  cases here : one.node? id with
  | none =>
    rw [other.node?_eq_none_of_size_le id]
    rw [here, Option.map_none] at content
    have missing : other.node? id = none := Option.map_eq_none_iff.mp content.symm
    exact Array.getElem?_eq_none_iff.mp missing
  | some node =>
    obtain ⟨twin, there⟩ := other.node?_of_lt_size id (size ▸ one.lt_size_of_node? id here)
    rw [here, there] at content parent children
    rw [there]
    obtain ⟨_, _, _⟩ := node
    obtain ⟨_, _, _⟩ := twin
    cases content
    cases parent
    cases children
    rfl

namespace Alike

variable {one other third : Forest}

theorem refl (forest : Forest) : forest.Alike forest :=
  ⟨rfl, rfl, rfl, fun _ => rfl⟩

theorem symm (alike : one.Alike other) : other.Alike one :=
  ⟨alike.size.symm, alike.parent?.symm, alike.children.symm, fun id => (alike.content? id).symm⟩

theorem trans (first : one.Alike other) (second : other.Alike third) : one.Alike third :=
  ⟨first.size.trans second.size, first.parent?.trans second.parent?,
    first.children.trans second.children, fun id => (first.content? id).trans (second.content? id)⟩

/-- Giving a text other words makes an alike forest. -/
theorem of_setContent {node : NodeId} {old : Text} (isText : one.text? node = some old)
    (new : Text) : (one.setContent node (.text new)).Alike one where
  size := size_setContent one node _
  parent? := funext fun id => parent?_setContent one node id _
  children := funext fun id => children_setContent one node id _
  content? id := by
    rw [content?_setContent id _ (one.lt_size_of_text? node isText)]
    by_cases same : id = node
    · obtain ⟨content, here, text⟩ := Option.bind_eq_some_iff.mp isText
      cases content with
      | text words => rw [if_pos same, same, here, Option.map_some, Option.map_some]; rfl
      | _ => cases text
    · rw [if_neg same]

variable (alike : one.Alike other)
include alike

theorem comment? (id : NodeId) : one.comment? id = other.comment? id := by
  have drop : ∀ forest : Forest, forest.comment? id
      = ((forest.content? id).map Content.wordless).bind Content.comment? := by
    intro forest
    rw [Forest.comment?]
    cases forest.content? id with
    | none => rfl
    | some content => exact (content.comment?_wordless).symm
  rw [drop one, drop other, alike.content? id]

theorem isSome_text? (id : NodeId) : (one.text? id).isSome = (other.text? id).isSome := by
  have drop : ∀ forest : Forest, (forest.text? id).isSome
      = ((forest.content? id).map Content.wordless).any Content.isText := by
    intro forest
    rw [Forest.text?]
    cases forest.content? id with
    | none => rfl
    | some content => exact (content.isText_wordless).symm
  rw [drop one, drop other, alike.content? id]

theorem nextSibling? (id : NodeId) : one.nextSibling? id = other.nextSibling? id := by
  unfold Forest.nextSibling? Forest.indexOf?
  rw [alike.parent?, alike.children]

theorem textNodes (top : NodeId) : one.textNodes top = other.textNodes top := by
  have within : ∀ fuel id, one.textNodesWithin fuel id = other.textNodesWithin fuel id := by
    intro fuel
    induction fuel with
    | zero => exact fun _ => rfl
    | succ fuel ih =>
      intro id
      rw [textNodesWithin, textNodesWithin, alike.isSome_text?, alike.children]
      split
      · rfl
      · exact List.flatMap_congr fun child _ => ih child
  rw [Forest.textNodes, Forest.textNodes, alike.size, alike.children]
  exact List.flatMap_congr fun child _ => within other.size child

theorem wellFormed (wellFormed : other.WellFormed) : one.WellFormed where
  mem_children_iff parent child := by
    rw [alike.children, alike.parent?]
    exact wellFormed.mem_children_iff parent child
  nodup_children parent := by
    rw [alike.children]
    exact wellFormed.nodup_children parent

/-- Where the texts say the same, the nodes are the same. -/
theorem content?_of_text? {id : NodeId} (words : one.text? id = other.text? id) :
    one.content? id = other.content? id := by
  have wordless := alike.content? id
  rw [Forest.text?, Forest.text?] at words
  cases here : one.content? id with
  | none =>
    rw [here, Option.map_none] at wordless
    exact (Option.map_eq_none_iff.mp wordless.symm).symm
  | some content =>
    cases there : other.content? id with
    | none =>
      rw [here, there, Option.map_some, Option.map_none] at wordless
      cases wordless
    | some twin =>
      rw [here, there, Option.bind_some, Option.bind_some] at words
      rw [here, there, Option.map_some, Option.map_some, Option.some.injEq] at wordless
      cases content <;> cases twin <;>
        simp_all [Content.wordless, Content.text?]

/-- **Alike forests whose texts say the same are equal.** -/
theorem eq_of_text? (same : ∀ id, one.text? id = other.text? id) : one = other :=
  eq_of_lookups alike.size (fun id => alike.content?_of_text? (same id)) alike.parent?
    alike.children

end Alike

end Forest

end Polyglot
