import Mathlib.Data.List.Induction
import Polyglot.Localizer.Basic
import Polyglot.Proofs.Forest.Alike
import Polyglot.Proofs.Forest.Placement
import Polyglot.Proofs.Localizer.Reversible

/-!
# Moving directives into carriers

The directives that stand in a text move, once, into a comment right after it.
`Forest.settle` is what this does to a forest, `Forest.settleAll` what a pass over
several texts does in this respect. Neither depends on the language that the texts
are localized in, and neither changes what a text says.

Settling keeps a forest orderly and keeps the text nodes below every node. A text
that was settled finds its directives after it; every other text finds after it what
it found before.
-/

set_option autoImplicit false

namespace Polyglot

namespace Forest

/-- The directives that a text node finds after it. -/
def carrierText? (forest : Forest) (node : NodeId) : Option Text :=
  (Localizer.carrier? forest node).bind forest.comment?

/-- A text node with its carrier, taken apart. -/
def reading? (forest : Forest) (node : NodeId) : Option Reading :=
  (forest.text? node).map fun text => Reading.of text (forest.carrierText? node)

/-- A forest in which the directives that stand in a text have moved into the comment
after it. -/
def settle (forest : Forest) (node : NodeId) : Forest :=
  match (forest.reading? node).bind Reading.tail? with
  | none => forest
  | some tail => forest.placeComment node (Localizer.carrier? forest node) tail

/-- A forest in which several texts are settled in order. -/
def settleAll (forest : Forest) (nodes : List NodeId) : Forest :=
  nodes.foldl settle forest

/-! ## Carriers -/

section Carriers

variable {forest other : Forest} {node : NodeId}

theorem carrierText?_eq (forest : Forest) (node : NodeId) :
    forest.carrierText? node =
      ((forest.nextSibling? node).bind forest.comment?).filter Directive.hasMarker := by
  rw [carrierText?, Localizer.carrier?]
  cases forest.nextSibling? node with
  | none => rfl
  | some sibling =>
    rw [Option.filter_some, Option.bind_some]
    cases here : forest.comment? sibling with
    | none => rfl
    | some comment =>
      cases marked : Directive.hasMarker comment with
      | true => simp [here, marked, Option.filter_some]
      | false => simp [marked, Option.filter_some]

theorem comment?_of_carrier? {carrier : NodeId}
    (found : Localizer.carrier? forest node = some carrier) :
    (forest.comment? carrier).isSome := by
  obtain ⟨_, marked⟩ := Option.filter_eq_some_iff.mp found
  cases here : forest.comment? carrier with
  | none => simp [here] at marked
  | some comment => rfl

theorem Alike.carrier? (alike : forest.Alike other) (node : NodeId) :
    Localizer.carrier? forest node = Localizer.carrier? other node := by
  rw [Localizer.carrier?, Localizer.carrier?, alike.nextSibling?]
  simp only [alike.comment?]

theorem Alike.carrierText? (alike : forest.Alike other) (node : NodeId) :
    forest.carrierText? node = other.carrierText? node := by
  rw [Forest.carrierText?, Forest.carrierText?, alike.carrier?, funext alike.comment?]

/-- A node stands before its carrier. -/
theorem WellFormed.exists_split (wellFormed : forest.WellFormed) {parent : NodeId}
    (listed : node ∈ forest.children parent) :
    ∃ left right, forest.children parent =
      left ++ node :: ((Localizer.carrier? forest node).toList ++ right) := by
  obtain ⟨left, rest, split⟩ := List.append_of_mem listed
  cases found : Localizer.carrier? forest node with
  | none => exact ⟨left, rest, split⟩
  | some carrier =>
    obtain ⟨next, _⟩ := Option.filter_eq_some_iff.mp found
    rw [wellFormed.nextSibling?_of_split split] at next
    obtain ⟨right, rfl⟩ := List.head?_eq_some_iff.mp next
    exact ⟨left, right, split⟩

end Carriers

/-! ## Settling a text -/

section Settle

variable {forest : Forest} {top node : NodeId}

/-- A text without directives of its own is settled as it is; any other is settled by
placing a comment. -/
theorem settle_cases (orderly : forest.Orderly) (listed : node ∈ forest.textNodes top) :
    ∃ text, forest.text? node = some text ∧
      (((Reading.of text (forest.carrierText? node)).tail? = none ∧ forest.settle node = forest) ∨
        ∃ tail parent left right,
          (Reading.of text (forest.carrierText? node)).tail? = some tail ∧
          forest.settle node = forest.placeComment node (Localizer.carrier? forest node) tail ∧
          forest.Placed (forest.settle node) node parent left right
            (Localizer.carrier? forest node) tail) := by
  obtain ⟨⟨text, spoken⟩, parent, child⟩ := text_of_mem_textNodes listed
  obtain ⟨left, right, split⟩ := orderly.wellFormed.exists_split child
  refine ⟨text, spoken, ?_⟩
  have step : forest.settle node =
      match (Reading.of text (forest.carrierText? node)).tail? with
      | none => forest
      | some tail => forest.placeComment node (Localizer.carrier? forest node) tail := by
    rw [settle, reading?, spoken, Option.map_some, Option.bind_some]
  cases moves : (Reading.of text (forest.carrierText? node)).tail? with
  | none =>
    rw [moves] at step
    exact .inl ⟨rfl, step⟩
  | some tail =>
    rw [moves] at step
    refine .inr ⟨tail, parent, left, right, rfl, step, ?_⟩
    rw [step]
    exact placed_placeComment orderly.wellFormed tail split

variable (orderly : forest.Orderly) (listed : node ∈ forest.textNodes top)
include orderly listed

theorem Orderly.settle : (forest.settle node).Orderly := by
  obtain ⟨text, _, ⟨_, same⟩ | ⟨tail, parent, left, right, _, _, placed⟩⟩ :=
    settle_cases orderly listed
  · rw [same]
    exact orderly
  · exact placed.orderly orderly

theorem text?_settle (id : NodeId) : (forest.settle node).text? id = forest.text? id := by
  obtain ⟨text, _, ⟨_, same⟩ | ⟨tail, parent, left, right, _, _, placed⟩⟩ :=
    settle_cases orderly listed
  · rw [same]
  · exact placed.text? id

theorem textNodes_settle (above : NodeId) :
    (forest.settle node).textNodes above = forest.textNodes above := by
  obtain ⟨text, _, ⟨_, same⟩ | ⟨tail, parent, left, right, _, _, placed⟩⟩ :=
    settle_cases orderly listed
  · rw [same]
  · exact placed.textNodes (fun _ found => comment?_of_carrier? found) orderly above

/-- **A text that was settled finds its directives after it.** -/
theorem carrierText?_settle_self {text : Text} (spoken : forest.text? node = some text) :
    (forest.settle node).carrierText? node =
      (Reading.of text (forest.carrierText? node)).carrierAfter (forest.carrierText? node) := by
  obtain ⟨_, here, cases⟩ := settle_cases orderly listed
  cases spoken.symm.trans here
  rw [Reading.carrierAfter]
  rcases cases with ⟨stays, same⟩ | ⟨tail, parent, left, right, moves, _, placed⟩
  · rw [stays, same, Option.none_or]
  · rw [moves, Option.some_or, carrierText?_eq, placed.nextSibling?_node orderly.wellFormed,
      Option.bind_some, placed.comment?, if_pos rfl, Option.filter_some,
      Reading.hasMarker_of_tail? moves, if_pos rfl]

/-- Every other text finds after it what it found before. -/
theorem carrierText?_settle_of_ne {other : NodeId} {text : Text}
    (spoken : forest.text? other = some text) (different : other ≠ node) :
    (forest.settle node).carrierText? other = forest.carrierText? other := by
  obtain ⟨_, _, ⟨_, same⟩ | ⟨tail, parent, left, right, _, _, placed⟩⟩ :=
    settle_cases orderly listed
  · rw [same]
  · have old : other ≠ forest.size := Nat.ne_of_lt (forest.lt_size_of_text? other spoken)
    have stays : Localizer.carrier? forest node ≠ some other := by
      intro found
      rw [text?_eq_none_of_comment? (comment?_of_carrier? found)] at spoken
      cases spoken
    rw [carrierText?_eq, carrierText?_eq,
      placed.nextSibling?_of_ne orderly.wellFormed different old stays]
    cases next : forest.nextSibling? other with
    | none => rfl
    | some sibling =>
      obtain ⟨_, child⟩ := mem_of_nextSibling? next
      rw [Option.bind_some, Option.bind_some, placed.comment?,
        if_neg (Nat.ne_of_lt (orderly.wellFormed.lt_size child))]

end Settle

/-! ## Settling several texts -/

/-- A forest in which several texts of another one have been settled. -/
structure Settled (original : Forest) (nodes : List NodeId) (forest : Forest) : Prop where
  orderly : forest.Orderly
  textNodes : ∀ top, forest.textNodes top = original.textNodes top
  text? : ∀ id, forest.text? id = original.text? id
  carrierText? : ∀ id text, original.text? id = some text →
    forest.carrierText? id =
      if id ∈ nodes then
        (Reading.of text (original.carrierText? id)).carrierAfter (original.carrierText? id)
      else original.carrierText? id

theorem Settled.snoc {original forest : Forest} {nodes : List NodeId} {top node : NodeId}
    (settled : original.Settled nodes forest) (listed : node ∈ original.textNodes top)
    (fresh : node ∉ nodes) : original.Settled (nodes ++ [node]) (forest.settle node) := by
  have here : node ∈ forest.textNodes top := (settled.textNodes top).symm ▸ listed
  refine ⟨settled.orderly.settle here, fun above => ?_, fun id => ?_, fun id text spoken => ?_⟩
  · exact (textNodes_settle settled.orderly here above).trans (settled.textNodes above)
  · exact (text?_settle settled.orderly here id).trans (settled.text? id)
  · have before := settled.carrierText? id text spoken
    have spokenHere : forest.text? id = some text := (settled.text? id).trans spoken
    by_cases same : id = node
    · subst same
      rw [if_neg fresh] at before
      rw [carrierText?_settle_self settled.orderly here spokenHere, before, if_pos (by simp)]
    · rw [carrierText?_settle_of_ne settled.orderly here spokenHere same, before]
      simp only [List.mem_append, List.mem_singleton, same, or_false]

/-- **Settling several texts, each once.** -/
theorem Orderly.settled_settleAll {original : Forest} (orderly : original.Orderly) {top : NodeId}
    (nodes : List NodeId) (listed : ∀ node ∈ nodes, node ∈ original.textNodes top)
    (distinct : nodes.Nodup) : original.Settled nodes (original.settleAll nodes) := by
  induction nodes using List.reverseRecOn with
  | nil => exact ⟨orderly, fun _ => rfl, fun _ => rfl, fun _ _ _ => (if_neg List.not_mem_nil).symm⟩
  | append_singleton nodes node ih =>
    rw [List.nodup_append] at distinct
    obtain ⟨distinct, _, apart⟩ := distinct
    have earlier := ih (fun node here => listed node (List.mem_append_left _ here)) distinct
    have fresh : node ∉ nodes := fun here => apart node here node (List.mem_singleton_self node) rfl
    rw [settleAll, List.foldl_append]
    exact earlier.snoc (listed node (by simp)) fresh

end Forest

end Polyglot
