import Polyglot.Proofs.Directive.Behind
import Polyglot.Proofs.Forest.Ancestors
import Polyglot.Proofs.Localizer.Orders

/-!
# Directives that move once

A pass leaves no marker in the texts that it visits, whatever the catalog has: what becomes
of a text is cut at its first marker, be it exempt, missed, or the counterpart of its phrase.
Only values that are filled in afterwards could bring a marker back, so the texts and
comments below the node must not have any data (`Forest.Dataless`).

A text without a marker has no directives that could move. So a second pass gives texts other
words and does nothing else, and it leaves no markers again (`Cleared.localize`). From the
first pass on, whatever the languages are, no comment is made, replaced or taken out
(`Localizer.fulfilAll_after_localizeTree`).

The walk of a later pass must not come upon texts that the first one did not visit. The new
comments have nothing below them, so it finds the same texts, or fewer where a comment gave
way that had texts below it (`Toured.mem_textNodes`).
-/

set_option autoImplicit false

namespace Polyglot

open Directive (hasMarker hasMarker_strip)

/-! ## Readings without data -/

namespace Reading

variable {text : Text} {carrier? : Option Text}

theorem data_of (inText : (Directives.read text).data = [])
    (inCarrier : ∀ comment ∈ carrier?, (Directives.read comment).data = []) :
    (Reading.of text carrier?).directives.data = [] := by
  cases present : (Directives.read text).present with
  | true =>
    rw [of_of_present present]
    exact inText
  | false =>
    cases carrier? with
    | none =>
      rw [of_of_bare present]
      rfl
    | some comment =>
      rw [of_of_carried present]
      exact inCarrier comment rfl

/-- Directives that are to move have the data that the text has. -/
theorem data_of_tail? {tail : Text} (moves : (Reading.of text carrier?).tail? = some tail) :
    (Directives.read tail).data = (Directives.read text).data := by
  obtain ⟨start, begins, rfl⟩ := exists_start_of_tail? moves
  rw [Directives.read_drop begins]

/-- **Without data, a text is left without a marker.** -/
theorem hasMarker_localized {reading : Reading} (dataless : reading.directives.data = [])
    (counterpart? : Text → Option Text) :
    hasMarker (reading.localized counterpart?).1 = false := by
  have unfilled : (reading.localized counterpart?).1 = (reading.chosen counterpart?).1 := by
    rw [localized, dataless]
    rfl
  rw [unfilled, chosen]
  split
  · exact hasMarker_strip _
  · split <;> exact hasMarker_strip _

end Reading

namespace Forest

/-! ## Forests without data -/

/-- No directive in a text or a comment below a node has data. -/
def Dataless (forest : Forest) (top : NodeId) : Prop :=
  ∀ id < forest.size, ∀ parent ∈ forest.parent? id,
    forest.isInclusiveAncestor top parent = true →
      (∀ text ∈ forest.text? id, (Directives.read text).data = []) ∧
        ∀ comment ∈ forest.comment? id, (Directives.read comment).data = []

instance (forest : Forest) (top : NodeId) : Decidable (forest.Dataless top) :=
  inferInstanceAs (Decidable (∀ id < forest.size, _))

variable {original forest : Forest} {top node : NodeId}

/-- A text that is found below a node has a parent there. -/
theorem exists_parent_of_mem_textNodes (wellFormed : forest.WellFormed)
    (listed : node ∈ forest.textNodes top) :
    ∃ parent, forest.parent? node = some parent ∧ forest.Climbs parent top := by
  obtain ⟨child, childOf, listed⟩ := List.mem_flatMap.mp listed
  have above := wellFormed.parent?_of_mem childOf
  rcases (climbs_of_mem_textNodesWithin wellFormed _ child node listed).cases_head with
    rfl | ⟨parent, found, climbs⟩
  · exact ⟨top, above, .refl⟩
  · exact ⟨parent, found, climbs.tail above⟩

/-! ## What a walk finds after visits -/

section Toured

variable {counterpart? : Text → Option Text} {nodes : List NodeId}

theorem mem_seats {movers : List NodeId} {id other : NodeId}
    (listed : other ∈ original.seats movers id) : other = id ∨ original.size ≤ other := by
  rw [seats] at listed
  split at listed
  · simp only [List.mem_cons, List.not_mem_nil, or_false] at listed
    rcases listed with same | rfl
    · exact .inl same
    · exact .inr (Nat.le_add_right ..)
  · split at listed
    · exact absurd listed List.not_mem_nil
    · exact .inl (List.mem_singleton.mp listed)

/-- No child is new but the comments. -/
theorem Toured.mem_children (toured : original.Toured counterpart? nodes forest)
    {parent child : NodeId} (listed : child ∈ forest.children parent) :
    child ∈ original.children parent ∨ original.size ≤ child := by
  rw [toured.children] at listed
  obtain ⟨id, childOf, listed⟩ := List.mem_flatMap.mp listed
  rcases mem_seats listed with rfl | new
  · exact .inl childOf
  · exact .inr new

/-- The same nodes are texts. -/
theorem Toured.isSome_text? (toured : original.Toured counterpart? nodes forest) (id : NodeId) :
    (forest.text? id).isSome = (original.text? id).isSome := by
  by_cases old : id < original.size
  · rw [Forest.text?, toured.content? id old]
    split
    · next visited =>
      obtain ⟨text, spoken⟩ := Option.isSome_iff_exists.mp (toured.isText id visited)
      simp only [becomes?, Forest.reading?, spoken, Option.map_some, Option.bind_some,
        Content.text?, Option.isSome_some]
    · rfl
  · obtain ⟨index, rfl⟩ := Nat.exists_eq_add_of_le (Nat.le_of_not_lt old)
    rw [Forest.text?, toured.comments, Forest.text?,
      original.content?_eq_none_of_size_le _ (Nat.le_add_right ..)]
    cases (original.movers nodes)[index]?.bind original.movingTail? <;> rfl

/-- **A walk finds no text that was not found before.** -/
theorem Toured.mem_textNodes (toured : original.Toured counterpart? nodes forest)
    (wellFormed : original.WellFormed) (acyclic : original.Acyclic)
    (listed : node ∈ forest.textNodes top) : node ∈ original.textNodes top := by
  have nothing : ∀ fuel id, original.size ≤ id → original.textNodesWithin fuel id = [] := by
    intro fuel id new
    cases fuel with
    | zero => rfl
    | succ fuel =>
      rw [textNodesWithin, Forest.text?, original.content?_eq_none_of_size_le id new,
        original.children_eq_nil_of_size_le id new]
      rfl
  have step : ∀ fuel id, (∀ child, node ∈ forest.textNodesWithin fuel child →
      node ∈ original.textNodesWithin fuel child) →
      node ∈ (forest.children id).flatMap (forest.textNodesWithin fuel) →
      node ∈ (original.children id).flatMap (original.textNodesWithin fuel) := by
    intro fuel id below listed
    obtain ⟨child, childOf, listed⟩ := List.mem_flatMap.mp listed
    have found := below child listed
    rcases toured.mem_children childOf with childOf | new
    · exact List.mem_flatMap.mpr ⟨child, childOf, found⟩
    · rw [nothing fuel child new] at found
      exact absurd found List.not_mem_nil
  have within : ∀ fuel id, node ∈ forest.textNodesWithin fuel id →
      node ∈ original.textNodesWithin fuel id := by
    intro fuel
    induction fuel with
    | zero => exact fun _ listed => listed
    | succ fuel ih =>
      intro id listed
      rw [textNodesWithin, toured.isSome_text?] at listed
      rw [textNodesWithin]
      split
      · next isText => rwa [if_pos isText] at listed
      · next other =>
        rw [if_neg other] at listed
        exact step fuel id ih listed
  -- There are more nodes after the visits, but the bound on walks does not matter.
  have found := step forest.size top (within forest.size) listed
  obtain ⟨child, childOf, found⟩ := List.mem_flatMap.mp found
  have graded := acyclic.graded wellFormed
  have lower := Nat.lt_of_lt_of_le (graded.falls top child childOf) (graded.le_size top)
  have enough : original.size ≤ forest.size := toured.size ▸ Nat.le_add_right ..
  rw [graded.textNodesWithin_eq original.size child forest.size lower enough] at found
  exact List.mem_flatMap.mpr ⟨child, childOf, found⟩

end Toured

/-! ## Forests that have been cleared -/

/-- No text below a node has a marker, and no comment after such a text has data. -/
structure Cleared (top : NodeId) (forest : Forest) : Prop where
  free : ∀ node ∈ forest.textNodes top, ∀ text ∈ forest.text? node, hasMarker text = false
  data : ∀ node ∈ forest.textNodes top, ∀ comment ∈ forest.carrierText? node,
    (Directives.read comment).data = []

section Cleared

variable {counterpart? : Text → Option Text}

theorem Dataless.text (dataless : original.Dataless top) (wellFormed : original.WellFormed)
    (acyclic : original.Acyclic) (listed : node ∈ original.textNodes top) {text : Text}
    (spoken : original.text? node = some text) : (Directives.read text).data = [] := by
  obtain ⟨parent, found, climbs⟩ := exists_parent_of_mem_textNodes wellFormed listed
  exact (dataless node (original.lt_size_of_text? node spoken) parent found
    ((isInclusiveAncestor_iff wellFormed acyclic).mpr climbs)).1 text spoken

theorem Dataless.carrier (dataless : original.Dataless top) (wellFormed : original.WellFormed)
    (acyclic : original.Acyclic) (listed : node ∈ original.textNodes top) {parent id : NodeId}
    (above : original.parent? node = some parent) (child : id ∈ original.children parent)
    {comment : Text} (noted : original.comment? id = some comment) :
    (Directives.read comment).data = [] := by
  obtain ⟨_, found, climbs⟩ := exists_parent_of_mem_textNodes wellFormed listed
  cases above.symm.trans found
  exact (dataless id (wellFormed.lt_size child) parent (wellFormed.parent?_of_mem child)
    ((isInclusiveAncestor_iff wellFormed acyclic).mpr climbs)).2 comment noted

/-- **A pass clears what is below its node**, if there are no data. -/
theorem Toured.cleared (toured : original.Toured counterpart? (original.textNodes top) forest)
    (wellFormed : original.WellFormed) (acyclic : original.Acyclic)
    (dataless : original.Dataless top) : forest.Cleared top where
  free node found text spoken := by
    have listed := toured.mem_textNodes wellFormed acyclic found
    obtain ⟨⟨written, was⟩, parent, child⟩ := text_of_mem_textNodes listed
    have becomes : forest.text? node = original.becomes? counterpart? node := by
      rw [Forest.text?, toured.content? node (original.lt_size_of_text? node was), if_pos listed]
      cases original.becomes? counterpart? node <;> rfl
    rw [becomes, becomes?, Forest.reading?, was] at spoken
    cases spoken
    refine Reading.hasMarker_localized (Reading.data_of ?_ fun comment carried => ?_) counterpart?
    · exact dataless.text wellFormed acyclic listed was
    · obtain ⟨carrier, after, noted⟩ := Option.bind_eq_some_iff.mp carried
      have above := wellFormed.parent?_of_mem child
      exact dataless.carrier wellFormed acyclic listed above
        (mem_children_of_nextSibling? above (Option.filter_eq_some_iff.mp after).1) noted
  data node found comment carried := by
    have listed := toured.mem_textNodes wellFormed acyclic found
    obtain ⟨⟨text, spoken⟩, parent, child⟩ := text_of_mem_textNodes found
    obtain ⟨carrier, after, noted⟩ := Option.bind_eq_some_iff.mp carried
    have sibling := mem_children_of_nextSibling? (toured.wellFormed.parent?_of_mem child)
      (Option.filter_eq_some_iff.mp after).1
    rcases toured.mem_children sibling with old | new
    · -- The comment stood there before.
      have known := toured.isText node listed
      obtain ⟨_, was⟩ := Option.isSome_iff_exists.mp known
      have here : node ∈ original.children parent := (toured.mem_children child).resolve_right
        (Nat.not_le_of_lt (original.lt_size_of_text? node was))
      rw [toured.comment? (wellFormed.lt_size old)] at noted
      exact dataless.carrier wellFormed acyclic listed (wellFormed.parent?_of_mem here) old noted
    · -- The comment is new and has the directives that stood in a text.
      obtain ⟨index, rfl⟩ := Nat.exists_eq_add_of_le new
      rw [Forest.comment?, toured.comments] at noted
      cases moved : (original.movers (original.textNodes top))[index]?.bind original.movingTail? with
      | none =>
        rw [moved] at noted
        cases noted
      | some words =>
        rw [moved] at noted
        cases noted
        obtain ⟨mover, stands, moves⟩ := Option.bind_eq_some_iff.mp moved
        have visited := (mem_movers.mp (List.mem_of_getElem? stands)).1
        obtain ⟨⟨written, was⟩, _⟩ := text_of_mem_textNodes visited
        rw [movingTail?, Forest.reading?, was, Option.map_some, Option.bind_some] at moves
        rw [Reading.data_of_tail? moves]
        exact dataless.text wellFormed acyclic visited was

variable (cleared : forest.Cleared top)
include cleared

/-- **In a forest that has been cleared a visit gives a text other words and does nothing
else**, and no marker is among them. -/
theorem Cleared.localize (counterpart? : Text → Option Text) (listed : node ∈ forest.textNodes top) :
    (forest.localize counterpart? node).Alike forest ∧
      (forest.localize counterpart? node).Cleared top := by
  obtain ⟨⟨text, spoken⟩, _⟩ := text_of_mem_textNodes listed
  have free := cleared.free node listed text spoken
  have read : forest.reading? node = some (Reading.of text (forest.carrierText? node)) := by
    rw [Forest.reading?, spoken, Option.map_some]
  have dataless : (Reading.of text (forest.carrierText? node)).directives.data = [] := by
    refine Reading.data_of ?_ (cleared.data node listed)
    rw [Directives.read_of_free free]
    rfl
  rw [localize_of_tail?_eq_none read
    (Reading.tail?_of_absent (Directives.present_of_free free))]
  have alike := write_alike spoken
    ((Reading.of text (forest.carrierText? node)).localized counterpart?).1
  refine ⟨alike, fun other found words said => ?_, fun other found => ?_⟩
  · rw [alike.textNodes] at found
    rw [text?_write spoken] at said
    split at said
    · cases said
      exact Reading.hasMarker_localized dataless counterpart?
    · exact cleared.free other found words said
  · rw [alike.textNodes] at found
    rw [alike.carrierText?]
    exact cleared.data other found

/-- So do several visits. -/
theorem Cleared.foldl_localize (counterpart? : Text → Option Text) (nodes : List NodeId)
    (listed : ∀ node ∈ nodes, node ∈ forest.textNodes top) :
    (nodes.foldl (Forest.localize counterpart?) forest).Alike forest ∧
      (nodes.foldl (Forest.localize counterpart?) forest).Cleared top := by
  induction nodes using List.reverseRecOn with
  | nil => exact ⟨.refl forest, cleared⟩
  | append_singleton nodes node ih =>
    obtain ⟨alike, still⟩ := ih fun other here => listed other (List.mem_append_left _ here)
    have found : node ∈ (nodes.foldl (Forest.localize counterpart?) forest).textNodes top := by
      rw [alike.textNodes]
      exact listed node (List.mem_append_right _ (List.mem_singleton_self node))
    obtain ⟨alikeNext, next⟩ := still.localize counterpart? found
    rw [List.foldl_append]
    exact ⟨alikeNext.trans alike, next⟩

end Cleared

end Forest

/-! ## Requests -/

/-- On account of a request no texts are visited but those below a node, where a localizer
keeps the subtree of its target. -/
def Request.Within (target root : NodeId) : Request → Prop
  | .changeLanguage _ => target = root
  | .localizeTree top _ => top = root
  | .localizeText _ _ => False
  | _ => True

instance (target root : NodeId) : (request : Request) → Decidable (request.Within target root)
  | .changeLanguage _ => inferInstanceAs (Decidable (target = root))
  | .localizeTree top _ => inferInstanceAs (Decidable (top = root))
  | .localizeText _ _ => inferInstanceAs (Decidable False)
  | .setLanguage _ | .keepLanguage _ | .startTexts | .stopTexts | .startNodes | .stopNodes =>
    inferInstanceAs (Decidable True)

namespace Localizer

/-- What is left when a localizer has been asked for several things in order. -/
def fulfilAll (localizer : Localizer) (document : Document) (host : Host) (requests : List Request) :
    Localizer × Document × Host :=
  requests.foldl (fun (localizer, document, host) request =>
    localizer.fulfil document host request) (localizer, document, host)

variable (localizer : Localizer) (document : Document) (host : Host)

/-- Whatever a localizer is asked for, it keeps the same subtree. -/
theorem watch_fulfil (request : Request) :
    (localizer.fulfil document host request).1.watch = localizer.watch := by
  cases request with
  | changeLanguage language =>
    rw [fulfil, changeLanguage]
    dsimp only
    split <;> rfl
  | _ => rfl

variable {document} {root : NodeId} (cleared : document.forest.Cleared root)
include cleared

theorem cleared_localizeTreeUnheard (source : Text) :
    (localizer.localizeTreeUnheard document root source).2.1.forest.Alike document.forest ∧
      (localizer.localizeTreeUnheard document root source).2.1.forest.Cleared root := by
  rw [forest_localizeTreeUnheard]
  exact cleared.foldl_localize _ _ fun _ listed => listed

/-- **What is cleared stays cleared, with the same nodes in the same places**, whatever of this
kind a localizer is asked for. -/
theorem cleared_fulfil {request : Request} (within : request.Within localizer.watch.target root) :
    (localizer.fulfil document host request).2.1.forest.Alike document.forest ∧
      (localizer.fulfil document host request).2.1.forest.Cleared root := by
  have same : document.forest.Alike document.forest ∧ document.forest.Cleared root :=
    ⟨.refl _, cleared⟩
  cases request with
  | changeLanguage language =>
    cases within
    rw [fulfil, changeLanguage]
    dsimp only
    split
    · exact same
    · exact (localizer.setLanguage language).cleared_localizeTreeUnheard cleared localizer.language
  | localizeText _ _ => exact absurd within not_false
  | localizeTree top source =>
    cases within
    exact localizer.cleared_localizeTreeUnheard cleared source
  | _ => exact same

theorem cleared_fulfilAll (requests : List Request)
    (within : ∀ request ∈ requests, request.Within localizer.watch.target root) :
    (localizer.fulfilAll document host requests).2.1.forest.Alike document.forest ∧
      (localizer.fulfilAll document host requests).2.1.forest.Cleared root := by
  induction requests generalizing localizer document host with
  | nil => exact ⟨.refl _, cleared⟩
  | cons request rest ih =>
    obtain ⟨first, others⟩ := List.forall_mem_cons.mp within
    obtain ⟨alike, still⟩ := localizer.cleared_fulfil host cleared first
    rw [← localizer.watch_fulfil document host request] at others
    obtain ⟨alikeThen, last⟩ := ih _ _ still others
    exact ⟨alikeThen.trans alike, last⟩

omit cleared

/-- **Directives move once.** In a forest whose parents and children agree and that has no
cycles, let no directive in a text or a comment below a node have data. After a pass over the
texts below the node, none that is found there has a marker; and whatever is asked of the
localizer then, other languages and further passes over these texts from any language, no text
gets a marker, every list of children stays what it is, and no comment is made or changed. -/
theorem fulfilAll_after_localizeTree (localizer : Localizer) (document : Document) (host : Host)
    (root : NodeId) (source : Text) (wellFormed : document.forest.WellFormed)
    (acyclic : document.forest.Acyclic) (dataless : document.forest.Dataless root)
    (requests : List Request)
    (within : ∀ request ∈ requests, request.Within localizer.watch.target root) :
    let first := localizer.fulfil document host (.localizeTree root source)
    let last := first.1.fulfilAll first.2.1 first.2.2 requests
    (∀ node ∈ first.2.1.forest.textNodes root, ∀ text,
        first.2.1.forest.text? node = some text → hasMarker text = false) ∧
      (∀ node ∈ last.2.1.forest.textNodes root, ∀ text,
        last.2.1.forest.text? node = some text → hasMarker text = false) ∧
      last.2.1.forest.children = first.2.1.forest.children ∧
      last.2.1.forest.comment? = first.2.1.forest.comment? ∧
      last.2.1.forest.size = first.2.1.forest.size := by
  intro first last
  obtain ⟨toured, _⟩ := localizer.toured_of_perm source wellFormed acyclic (List.Perm.refl _)
  have cleared : first.2.1.forest.Cleared root := by
    have pass : first.2.1.forest = _ := localizer.forest_localizeTreeUnheard document source root
    rw [forest_foldl_visited] at toured
    rw [pass]
    exact toured.cleared wellFormed acyclic dataless
  have watch : first.1.watch = localizer.watch := localizer.watch_fulfil document host _
  obtain ⟨alike, still⟩ := first.1.cleared_fulfilAll first.2.2 cleared requests
    (watch.symm ▸ within)
  exact ⟨cleared.free, still.free, alike.children, funext alike.comment?, alike.size⟩

/-- A localizer with an entry that goes on behind a marker and one that begins with it. -/
def scattered : Localizer :=
  { withKey with catalog := .ofList [(['e'], ["a I18N_K k".toList, "c I18N_K k".toList]),
      (['f'], ["c I18N_I I18N_D n=1".toList, ['d']]), (['g'], [['b'], " I18N_K k d".toList])] }

/-- A text with a key before a comment that has a text below it. -/
def exempted : Document :=
  .ofForest (Forest.ofTrees [.node () (.text "a I18N_K k".toList) [],
    .node () (.comment " I18N_I".toList) [.node () (.text ['n']) []]]).1

/-- The first pass puts the key in the place of the comment, and the text below that is not found
again; the second pass changes words. -/
theorem fulfilAll_after_localizeTree_exempted :
    let requests := [.setLanguage ['g'], .stopTexts, .localizeTree 0 ['e']]
    let first := scattered.fulfil exempted (.new 0) (.localizeTree 0 ['e'])
    let last := first.1.fulfilAll first.2.1 first.2.2 requests
    exempted.forest.Dataless 0 ∧
      (∀ request ∈ requests, request.Within scattered.watch.target 0) ∧
      first.2.1.forest.text? 1 = some ['c'] ∧ first.2.1.forest.children 0 = [1, 4] ∧
      last.2.1.forest.text? 1 = some [] ∧
      last.2.1.forest.children = first.2.1.forest.children ∧ last.2.1.forest.size = 5 := by
  intro requests first last
  have grown : exempted.forest.Grown := (Forest.grown_ofTrees _).1
  have dataless : exempted.forest.Dataless 0 := by decide
  have within : ∀ request ∈ requests, request.Within scattered.watch.target 0 := by decide
  obtain ⟨_, _, children, _, size⟩ := fulfilAll_after_localizeTree scattered exempted (.new 0) 0
    ['e'] grown.wellFormed grown.acyclic dataless requests within
  have sizeFirst : first.2.1.forest.size = 5 := by decide
  have words : first.2.1.forest.text? 1 = some ['c'] := by decide
  have place : first.2.1.forest.children 0 = [1, 4] := by decide
  have wordsLast : last.2.1.forest.text? 1 = some [] := by decide
  exact ⟨dataless, within, words, place, wordsLast, children, size.trans sizeFirst⟩

end Localizer

end Polyglot
