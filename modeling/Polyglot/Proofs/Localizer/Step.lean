import Polyglot.Proofs.Forest.Edits
import Polyglot.Proofs.Localizer.Passes

/-!
# What one visit does to a forest

A visit gives a text other words and, if directives stood in it, places a comment after
it. In any forest whose parents and children agree that is all that it does: other
texts keep their words, their parents and what they find after them
(`agreeAt_localize`), and the text itself finds after it what it is to find
(`carrierText?_localize_self`).

A text that stands nowhere can be visited too. There is no place for the comment then,
which remains loose.
-/

set_option autoImplicit false

namespace Polyglot.Forest

/-- Two forests agree on a text, its parent and the directives that it finds after it. -/
structure AgreeAt (node : NodeId) (one other : Forest) : Prop where
  text? : other.text? node = one.text? node
  parent? : other.parent? node = one.parent? node
  carrierText? : other.carrierText? node = one.carrierText? node

section Visit

variable {forest : Forest} {node : NodeId} {text : Text}

theorem text?_add (content : Content) (unspoken : content.text? = none) (id : NodeId) :
    (forest.add content).1.text? id = forest.text? id := by
  rw [text?, text?, content?_add]
  split
  · next new =>
    rw [new, forest.content?_eq_none_of_size_le _ (Nat.le_refl _)]
    exact unspoken
  · rfl

/-- A loose node is after nothing. -/
theorem agreeAt_add (wellFormed : forest.WellFormed) (content : Content) {id : NodeId}
    (known : id < forest.size) : AgreeAt id forest (forest.add content).1 where
  text? := by rw [text?, text?, content?_add, if_neg (Nat.ne_of_lt known)]
  parent? := parent?_add forest id _
  carrierText? := by
    have next : (forest.add content).1.nextSibling? id = forest.nextSibling? id := by
      unfold nextSibling? indexOf?
      simp only [parent?_add, children_add]
    rw [carrierText?_eq, carrierText?_eq, next]
    cases sibling : forest.nextSibling? id with
    | none => rfl
    | some other =>
      obtain ⟨_, child⟩ := mem_of_nextSibling? sibling
      rw [Option.bind_some, Option.bind_some, comment?, content?_add,
        if_neg (Nat.ne_of_lt (wellFormed.lt_size child)), comment?]

/-- A node that stands nowhere has nothing after it. -/
theorem carrier?_of_parent?_eq_none (loose : forest.parent? node = none) :
    Localizer.carrier? forest node = none := by
  rw [Localizer.carrier?, nextSibling?, loose]
  rfl

theorem placeComment_of_parent?_eq_none (loose : forest.parent? node = none) (words : Text) :
    forest.placeComment node none words = (forest.add (.comment words)).1 := by
  rw [placeComment]
  dsimp only
  rw [Edit.strokes, parent?_add, loose]
  rfl

variable (counterpart? : Text → Option Text) (wellFormed : forest.WellFormed)
  (spoken : forest.text? node = some text)
include wellFormed spoken

/-- A visit gives a text other words, and that is all, or it leaves a loose comment
besides, or it places the comment after the text. -/
theorem localize_cases :
    ∃ written : Forest, written.Alike forest ∧
      (∀ id, written.text? id = if id = node then
        some ((Reading.of text (forest.carrierText? node)).localized counterpart?).1
        else forest.text? id) ∧
      ((Reading.of text (forest.carrierText? node)).tail? = none ∧
          forest.localize counterpart? node = written ∨
        ∃ tail, (Reading.of text (forest.carrierText? node)).tail? = some tail ∧
          (forest.parent? node = none ∧
              forest.localize counterpart? node = (written.add (.comment tail)).1 ∨
            ∃ parent left right, forest.parent? node = some parent ∧
              written.Placed (forest.localize counterpart? node) node parent left right
                (Localizer.carrier? forest node) tail)) := by
  have read : forest.reading? node = some (Reading.of text (forest.carrierText? node)) := by
    rw [reading?, spoken, Option.map_some]
  generalize Reading.of text (forest.carrierText? node) = reading at read
  have alike := write_alike spoken (reading.localized counterpart?).1
  refine ⟨_, alike, text?_write spoken, ?_⟩
  cases moves : reading.tail? with
  | none => exact .inl ⟨rfl, localize_of_tail?_eq_none read moves⟩
  | some tail =>
    refine .inr ⟨tail, rfl, ?_⟩
    rw [localize_of_tail? read moves]
    cases place : forest.parent? node with
    | none =>
      have loose := (congrFun alike.parent? node).trans place
      rw [carrier?_of_parent?_eq_none place, placeComment_of_parent?_eq_none loose]
      exact .inl ⟨rfl, rfl⟩
    | some parent =>
      obtain ⟨left, right, split⟩ := wellFormed.exists_split (wellFormed.mem_of_parent? place)
      have splitWritten := (congrFun alike.children parent).trans split
      exact .inr ⟨parent, left, right, rfl,
        placed_placeComment (alike.wellFormed wellFormed) tail splitWritten⟩

/-- Nothing but the text itself gets other words. -/
theorem text?_localize (id : NodeId) :
    (forest.localize counterpart? node).text? id =
      if id = node then
        some ((Reading.of text (forest.carrierText? node)).localized counterpart?).1
      else forest.text? id := by
  obtain ⟨written, _, words, ⟨_, same⟩ | ⟨tail, _, ⟨_, same⟩ | ⟨_, _, _, _, placed⟩⟩⟩ :=
    localize_cases counterpart? wellFormed spoken
  · rw [same, words]
  · rw [same, text?_add _ rfl, words]
  · rw [placed.text?, words]

/-- What was there besides the text is what it was. -/
theorem content?_localize {id : NodeId} (known : id < forest.size) (different : id ≠ node) :
    (forest.localize counterpart? node).content? id = forest.content? id := by
  obtain ⟨written, alike, words, placement⟩ := localize_cases counterpart? wellFormed spoken
  have kept := alike.content?_of_text? ((words id).trans (if_neg different))
  have old : id ≠ written.size := Nat.ne_of_lt (alike.size ▸ known)
  obtain ⟨_, same⟩ | ⟨tail, _, ⟨_, same⟩ | ⟨_, _, _, _, placed⟩⟩ := placement
  · rw [same, kept]
  · rw [same, content?_add, if_neg old, kept]
  · rw [placed.content?, if_neg old, kept]

/-- Nothing is put in front of the children of a node. -/
theorem head?_children_localize (id : NodeId) :
    ((forest.localize counterpart? node).children id).head? = (forest.children id).head? := by
  obtain ⟨written, alike, _, ⟨_, same⟩ | ⟨tail, _, ⟨_, same⟩ | ⟨parent, left, _, _, placed⟩⟩⟩ :=
    localize_cases counterpart? wellFormed spoken
  · rw [same, alike.children]
  · rw [same, children_add, alike.children]
  · rw [placed.children, ← alike.children]
    split
    · next here =>
      rw [here, placed.split]
      cases left <;> rfl
    · rfl

/-- Parents and children agree after a visit. -/
theorem WellFormed.localize : (forest.localize counterpart? node).WellFormed := by
  obtain ⟨written, alike, _, ⟨_, same⟩ | ⟨tail, _, ⟨_, same⟩ | ⟨_, _, _, _, placed⟩⟩⟩ :=
    localize_cases counterpart? wellFormed spoken
  · rw [same]
    exact alike.wellFormed wellFormed
  · rw [same]
    exact (alike.wellFormed wellFormed).add _
  · exact placed.wellFormed (alike.wellFormed wellFormed)

/-- No text loses its parent. -/
theorem parent?_localize {id : NodeId} {words : Text} (spokenThere : forest.text? id = some words) :
    (forest.localize counterpart? node).parent? id = forest.parent? id := by
  obtain ⟨written, alike, _, ⟨_, same⟩ | ⟨tail, _, ⟨_, same⟩ | ⟨_, _, _, _, placed⟩⟩⟩ :=
    localize_cases counterpart? wellFormed spoken
  · rw [same, alike.parent?]
  · rw [same, parent?_add, alike.parent?]
  · have old : id ≠ written.size :=
      alike.size ▸ Nat.ne_of_lt (forest.lt_size_of_text? id spokenThere)
    have stays : Localizer.carrier? forest node ≠ some id := fun found => by
      rw [text?_eq_none_of_comment? (comment?_of_carrier? found)] at spokenThere
      cases spokenThere
    rw [placed.parent?, if_neg old, if_neg stays, alike.parent?]

/-- **A visit leaves every other text as it is**, with its parent and with the
directives that it finds after it. -/
theorem agreeAt_localize {id : NodeId} {words : Text} (spokenThere : forest.text? id = some words)
    (different : id ≠ node) : AgreeAt id forest (forest.localize counterpart? node) where
  text? := (text?_localize counterpart? wellFormed spoken id).trans (if_neg different)
  parent? := parent?_localize counterpart? wellFormed spoken spokenThere
  carrierText? := by
    obtain ⟨written, alike, _, ⟨_, same⟩ | ⟨tail, _, ⟨_, same⟩ | ⟨_, _, _, _, placed⟩⟩⟩ :=
      localize_cases counterpart? wellFormed spoken
    · rw [same, alike.carrierText?]
    · have known : id < written.size := alike.size ▸ forest.lt_size_of_text? id spokenThere
      rw [same, (agreeAt_add (alike.wellFormed wellFormed) _ known).carrierText?,
        alike.carrierText?]
    · have old : id ≠ written.size :=
        alike.size ▸ Nat.ne_of_lt (forest.lt_size_of_text? id spokenThere)
      have stays : Localizer.carrier? forest node ≠ some id := fun found => by
        rw [text?_eq_none_of_comment? (comment?_of_carrier? found)] at spokenThere
        cases spokenThere
      have next := placed.nextSibling?_of_ne (alike.wellFormed wellFormed) different old stays
      rw [← alike.carrierText?, carrierText?_eq, carrierText?_eq, next]
      cases sibling : written.nextSibling? id with
      | none => rfl
      | some other =>
        obtain ⟨_, child⟩ := mem_of_nextSibling? sibling
        rw [Option.bind_some, Option.bind_some, placed.comment?,
          if_neg (Nat.ne_of_lt ((alike.wellFormed wellFormed).lt_size child))]

/-- A text that stands somewhere finds its directives after it from then on. -/
theorem carrierText?_localize_self
    (stands : (Reading.of text (forest.carrierText? node)).tail?.isSome →
      (forest.parent? node).isSome) :
    (forest.localize counterpart? node).carrierText? node =
      (Reading.of text (forest.carrierText? node)).carrierAfter (forest.carrierText? node) := by
  obtain ⟨written, alike, _, ⟨stays, same⟩ | ⟨tail, moves, ⟨loose, _⟩ | ⟨_, _, _, _, placed⟩⟩⟩ :=
    localize_cases counterpart? wellFormed spoken
  · rw [Reading.carrierAfter, stays, Option.none_or, same, alike.carrierText?]
  · rw [moves, loose] at stands
    exact absurd (stands rfl) (by simp)
  · rw [Reading.carrierAfter, moves, Option.some_or, carrierText?_eq,
      placed.nextSibling?_node (alike.wellFormed wellFormed), Option.bind_some, placed.comment?,
      if_pos rfl, Option.filter_some, Reading.hasMarker_of_tail? moves, if_pos rfl]

end Visit

end Polyglot.Forest
