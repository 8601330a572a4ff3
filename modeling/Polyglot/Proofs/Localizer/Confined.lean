import Polyglot.Proofs.Forest.Amending
import Polyglot.Proofs.Forest.Grafting
import Polyglot.Proofs.Forest.Rearranging
import Polyglot.Proofs.Localizer.Exempt

/-!
# Localizers stay in their subtrees

Whatever a localizer does to a document, when it is attached, when it changes its language
and when an observer of it is called, is a sequence of amendments of the subtree that it
keeps, as that was when the pass or the call began (`Guest.confined_run`). So what somebody
else took out of the subtree meanwhile is left alone, and so is everything that was never in
it.

A text is visited only if it is found in the subtree, and then all that happens is that it
is amended (`Confined.amended_localize`). During a call texts are looked for in the document
that the visits before have left; no amendment brings an old node into the subtree, so what
is found was there to begin with (`Localizer.climbs_of_mem_route`).
-/

set_option autoImplicit false

namespace Polyglot

/-! ## Visits -/

namespace Forest

variable {start forest : Forest} {top : NodeId}

namespace Confined

variable (confined : start.Confined top forest) (silent : start.text? top = none)
  (counterpart? : Text → Option Text)
include confined silent

/-- **A visit amends the subtree**, if the text that is visited is in it. -/
theorem amended_localize {node : NodeId}
    (inside : (start.text? node).isSome → start.Climbs node top) :
    Amended start top forest (forest.localize counterpart? node) := by
  cases spoken : forest.text? node with
  | none =>
    rw [localize_of_text?_eq_none counterpart? spoken]
  | some text =>
    have isText : (forest.text? node).isSome := by
      rw [spoken]
      rfl
    have within := inside (confined.isSome_text? node ▸ isText)
    have read : forest.reading? node = some (Reading.of text (forest.carrierText? node)) := by
      rw [reading?, spoken, Option.map_some]
    have written : ∀ words, Amended start top forest (forest.write node words) := by
      intro words
      rw [write]
      split
      · exact .refl
      · exact .single (.rewrite words within spoken)
    cases moves : (Reading.of text (forest.carrierText? node)).tail? with
    | none =>
      rw [localize_of_tail?_eq_none read moves]
      exact written _
    | some tail =>
      rw [localize_of_tail? read moves]
      generalize ((Reading.of text (forest.carrierText? node)).localized counterpart?).1 = words
      apply (written words).tail
      have alike := write_alike spoken words
      have isTextThen := (alike.isSome_text? node).trans isText
      have marked := Reading.hasMarker_of_tail? moves
      obtain ⟨parent, listed, _⟩ := confined.exists_parent silent within isText
      obtain ⟨left, right, split⟩ := confined.wellFormed.exists_split listed
      have placed := placed_placeComment (alike.wellFormed confined.wellFormed) tail
        ((congrFun alike.children parent).trans split)
      cases found : Localizer.carrier? forest node with
      | none =>
        rw [found] at placed
        exact .insert within isTextThen marked placed
      | some carrier =>
        rw [found] at placed
        refine .replace within isTextThen marked ?_ placed
        rw [isNote, alike.comment?]
        exact (Option.filter_eq_some_iff.mp found).2

/-- Visits amend the subtree. -/
theorem amended_foldl_localize {nodes : List NodeId}
    (inside : ∀ node ∈ nodes, (start.text? node).isSome → start.Climbs node top) :
    Amended start top forest (nodes.foldl (Forest.localize counterpart?) forest) := by
  induction nodes generalizing forest with
  | nil => exact .refl
  | cons node rest ih =>
    obtain ⟨here, further⟩ := List.forall_mem_cons.mp inside
    have first := confined.amended_localize silent counterpart? here
    exact first.trans (ih (confined.amended silent first) further)

end Confined

/-- A pass amends its subtree. -/
theorem amended_pass (wellFormed : start.WellFormed) (silent : start.text? top = none)
    (counterpart? : Text → Option Text) :
    Amended start top start ((start.textNodes top).foldl (Forest.localize counterpart?) start) := by
  apply (Confined.refl wellFormed top).amended_foldl_localize silent
  intro node listed _
  exact climbs_of_mem_textNodes wellFormed listed

end Forest

/-! ## What localizers do -/

namespace Localizer

open Forest

variable (localizer : Localizer) (document : Document)

section Routes

variable {start : Forest} {document : Document}
  (confined : start.Confined localizer.watch.target document.forest)
include confined

/-- What a localizer covers and was there at first was in its subtree then. -/
theorem climbs_of_covers {node : NodeId} (covers : localizer.covers document node = true)
    (isText : (start.text? node).isSome) : start.Climbs node localizer.watch.target := by
  obtain ⟨words, spoken⟩ := Option.isSome_iff_exists.mp isText
  apply confined.climbs (start.lt_size_of_text? node spoken)
  exact climbs_of_mem_lineageWithin _ _ _ (List.contains_iff_mem.mp covers)

theorem climbs_of_mem_textStops (change : Change) :
    ∀ node ∈ localizer.textStops document change, (start.text? node).isSome →
      start.Climbs node localizer.watch.target := by
  intro node listed isText
  rw [textStops] at listed
  split at listed
  · next found =>
    rw [List.mem_singleton] at listed
    rw [Bool.and_eq_true, ← listed] at found
    exact localizer.climbs_of_covers confined found.2 isText
  · exact absurd listed List.not_mem_nil

theorem climbs_of_mem_nodeStops (came : NodeId) :
    ∀ node ∈ localizer.nodeStops document came, (start.text? node).isSome →
      start.Climbs node localizer.watch.target := by
  intro node listed isText
  rw [nodeStops] at listed
  split at listed
  · next covers =>
    split at listed
    · rw [← List.mem_singleton.mp listed] at covers
      exact localizer.climbs_of_covers confined covers isText
    · obtain ⟨words, spoken⟩ := Option.isSome_iff_exists.mp isText
      apply confined.climbs (start.lt_size_of_text? node spoken)
      apply (climbs_of_mem_textNodes confined.wellFormed listed).trans
      exact climbs_of_mem_lineageWithin _ _ _ (List.contains_iff_mem.mp covers)
  · exact absurd listed List.not_mem_nil

end Routes

variable {start : Forest} (silent : start.text? localizer.watch.target = none)
include silent

/-- What is visited on account of several things was in the subtree when the first of them
was looked at. -/
theorem climbs_of_mem_route {α : Type} {stops : Document → α → List NodeId}
    (each : ∀ document, start.Confined localizer.watch.target document.forest → ∀ item,
      ∀ node ∈ stops document item, (start.text? node).isSome →
        start.Climbs node localizer.watch.target) (items : List α) :
    ∀ document, start.Confined localizer.watch.target document.forest →
      ∀ node ∈ localizer.route stops document items, (start.text? node).isSome →
        start.Climbs node localizer.watch.target := by
  induction items with
  | nil =>
    intro document _ node listed
    exact absurd listed List.not_mem_nil
  | cons item rest ih =>
    intro document confined node listed
    rw [route, List.mem_append] at listed
    rcases listed with here | later
    · exact each document confined item node here
    · have first := confined.amended_foldl_localize silent
        (localizer.counterpart? localizer.htmlLanguage) (each document confined item)
      rw [← forest_foldl_visited] at first
      exact ih _ (confined.amended silent first) node later

omit silent in
/-- Hearing of changes amends the subtree. -/
theorem amended_hear (wellFormed : document.forest.WellFormed)
    (silent : document.forest.text? localizer.watch.target = none) (id : ObserverId)
    (changes : List Change) :
    Amended document.forest localizer.watch.target document.forest
      (localizer.hear document id changes).2.forest := by
  have confined := Confined.refl wellFormed localizer.watch.target
  have begun : document.forest.Confined localizer.watch.target
      (localizer.watch.suspend document).1.forest := by
    rw [localizer.watch.forest_suspend document]
    exact confined
  rw [forest_hear]
  apply confined.amended_foldl_localize silent
  rw [heardRoute]
  split
  · apply localizer.climbs_of_mem_route silent _ _ _ begun
    intro document confined change
    exact localizer.climbs_of_mem_textStops confined change
  · apply localizer.climbs_of_mem_route silent _ _ _ begun
    intro document confined came
    exact localizer.climbs_of_mem_nodeStops confined came

omit silent in
/-- A change of language amends the subtree. -/
theorem amended_changeLanguage (wellFormed : document.forest.WellFormed)
    (silent : document.forest.text? localizer.watch.target = none) (host : Host)
    (language : Text) :
    Amended document.forest localizer.watch.target document.forest
      (localizer.changeLanguage document host language).2.1.forest := by
  rw [changeLanguage]
  dsimp only
  split
  · exact .refl
  · have pass := (localizer.setLanguage language).forest_localizeTreeUnheard document
      localizer.language localizer.watch.target
    exact pass ▸ amended_pass wellFormed silent _

omit silent in
/-- Attaching a localizer amends the subtree that it is attached to. -/
theorem amended_attach (wellFormed : document.forest.WellFormed) (host : Host)
    {options : LocalizerOptions}
    (silent : document.forest.text? (targetOf document.forest options) = none) {after : Document}
    (attached : attach document host options = .ok (localizer, after)) :
    Amended document.forest (targetOf document.forest options) document.forest after.forest := by
  rw [attach] at attached
  cases valid : options.catalog.validate with
  | error problem =>
    rw [valid] at attached
    cases attached
  | ok _ =>
    rw [valid] at attached
    cases attached
    have pass := (create document host options).1.forest_localizeTreeUnheard
      (create document host options).2 (create document host options).1.htmlLanguage
      (targetOf document.forest options)
    exact pass ▸ amended_pass wellFormed silent _

end Localizer

/-! ## Turns -/

namespace Turn

/-- The node whose subtree a localizer keeps that does something in a turn of its own: it is
attached, it changes its language, or an observer of it is called. -/
def keptNode? (turn : Turn) : Option NodeId :=
  match turn.doing with
  | .act (.attach options) => some (Localizer.targetOf turn.scene.document.forest options)
  | .act (.ask id (.changeLanguage _)) =>
    (turn.scene.localizer? id).map fun localizer => localizer.watch.target
  | .hear id _ => (turn.scene.localizer? id).map fun localizer => localizer.watch.target
  | _ => none

/-- Whoever edits in a turn names nodes that are there. -/
def Names (turn : Turn) : Prop :=
  ∀ edit ∈ turn.doing.edit?, edit.Known turn.scene.document.forest

instance (turn : Turn) : Decidable turn.Names :=
  inferInstanceAs (Decidable (∀ edit ∈ turn.doing.edit?, _))

/-- **In a turn of its own a localizer amends the subtree that it keeps.** -/
theorem amended {turn : Turn} {top : NodeId} (wellFormed : turn.scene.document.forest.WellFormed)
    (silent : turn.scene.document.forest.text? top = none) (kept : turn.keptNode? = some top) :
    turn.scene.document.forest.Amended top turn.scene.document.forest
      turn.after.document.forest := by
  obtain ⟨scene, doing⟩ := turn
  cases doing with
  | hear id changes =>
    obtain ⟨localizer, found, rfl⟩ := Option.map_eq_some_iff.mp kept
    simp only [after, Scene.hear, found]
    exact localizer.amended_hear scene.document wellFormed silent id changes
  | act action =>
    cases action with
    | attach options =>
      obtain rfl := Option.some.inj kept
      simp only [after, Scene.act]
      cases attached : Localizer.attach scene.document scene.host options with
      | error problem => exact .refl
      | ok made => exact made.1.amended_attach scene.document wellFormed scene.host silent attached
    | ask id request =>
      cases request with
      | changeLanguage language =>
        obtain ⟨localizer, found, rfl⟩ := Option.map_eq_some_iff.mp kept
        simp only [after, Scene.act, found]
        exact localizer.amended_changeLanguage scene.document wellFormed silent scene.host language
      | _ => cases kept
    | _ => cases kept

end Turn

/-! ## Runs -/

namespace Forest

/-- An edit leaves every node what it is, unless it is a text. -/
theorem WellFormed.content?_edited {forest : Forest} (wellFormed : forest.WellFormed) {edit : Edit}
    (known : edit.Known forest) {id : NodeId} (silent : forest.text? id = none) :
    (forest.edited edit).content? id = forest.content? id := by
  by_cases possible : edit.Possible forest
  · have effect := wellFormed.effect known possible
    cases edit with
    | setText node text =>
      have other : id ≠ node := by
        rintro rfl
        rw [Edit.Possible, silent] at possible
        cases possible
      exact (effect.2.2.2 id).trans (if_neg other)
    | append parent node => exact effect.2.2.content? id
    | insertAfter reference node => exact effect.2.2.content? id
    | remove node => exact effect.2.2.content? id
    | replace old node =>
      rw [Edit.Effect] at effect
      split at effect
      · rw [effect]
      · exact effect.2.2.2.content? id
  · rcases edited_of_not_possible wellFormed possible with same | ⟨node, _, same⟩
    · rw [same]
    · rw [same]
      exact (rehung_loosened wellFormed node).content? id

/-- A node that is no text is there, in a forest whose parents and children agree. -/
structure Carries (top : NodeId) (content : Content) (forest : Forest) : Prop where
  wellFormed : forest.WellFormed
  content? : forest.content? top = some content
  wordless : content.text? = none

variable {top : NodeId} {content : Content} {forest : Forest}

theorem Carries.silent (carries : forest.Carries top content) : forest.text? top = none := by
  rw [text?, carries.content?]
  exact carries.wordless

/-- Visits leave the node what it is. -/
theorem carries_rule (top : NodeId) (content : Content) :
    VisitRule (Carries top content) fun _ => True where
  visit forest node counterpart? carries := by
    refine ⟨?_, trivial⟩
    cases spoken : forest.text? node with
    | none =>
      rw [localize_of_text?_eq_none counterpart? spoken]
      exact carries
    | some text =>
      have other : top ≠ node := by
        rintro rfl
        rw [carries.silent] at spoken
        cases spoken
      have known := forest.lt_size_of_content? top carries.content?
      exact ⟨carries.wellFormed.localize counterpart? spoken,
        (content?_localize counterpart? carries.wellFormed spoken known other).trans
          carries.content?, carries.wordless⟩

/-- Every turn leaves the node what it is, and a localizer that keeps its subtree confines
itself to that. -/
theorem confined_turn (top : NodeId) (content : Content) :
    TurnRule Turn.Names
      (fun turn => turn.keptNode? = some top →
        turn.scene.document.forest.Amended top turn.scene.document.forest
            turn.after.document.forest ∧
          turn.scene.document.forest.Confined top turn.after.document.forest)
      fun scene => scene.document.forest.Carries top content where
  withDocument scene document same carries := by
    rw [Scene.withDocument]
    exact same.symm ▸ carries
  turn turn carries names := by
    refine ⟨((carries_rule top content).turn carries (fun content' _ => ?_) fun edit doing => ?_).1,
      fun kept => ?_⟩
    · have known := turn.scene.document.forest.lt_size_of_content? top carries.content?
      refine ⟨carries.wellFormed.add content', ?_, carries.wordless⟩
      rw [content?_add, if_neg (Nat.ne_of_lt known)]
      exact carries.content?
    · have known := names edit (by rw [doing]; rfl)
      rw [edit.forest_carryOut]
      exact ⟨carries.wellFormed.edited known,
        (carries.wellFormed.content?_edited known carries.silent).trans carries.content?,
        carries.wordless⟩
    · have amended := Turn.amended carries.wellFormed carries.silent kept
      exact ⟨amended, (Confined.refl carries.wellFormed top).amended carries.silent amended⟩

end Forest

namespace Guest

/-- **Localizers stay in their subtrees.** Whatever is done in a run by anybody, whenever a
localizer is attached to a node that is no text, and whenever a localizer that keeps the
subtree of such a node changes its language or hears of something, it amends the subtree as
it is then, and does nothing else to the document. -/
theorem confined_run {σ : Type} (guest : Guest σ) (limit : Nat) {play : Play σ} {top : NodeId}
    {content : Content} (wellFormed : play.scene.document.forest.WellFormed)
    (there : play.scene.document.forest.content? top = some content)
    (wordless : content.text? = none) (actions : List Action)
    (names : ∀ turn ∈ guest.turns limit play actions, turn.Names) :
    ∀ turn ∈ guest.turns limit play actions, turn.keptNode? = some top →
      turn.scene.document.forest.Amended top turn.scene.document.forest
          turn.after.document.forest ∧
        turn.scene.document.forest.Confined top turn.after.document.forest :=
  ((Forest.confined_turn top content).run guest limit actions play
    ⟨wellFormed, there, wordless⟩ names).2

/-- A paragraph of a text and a comment with a text in it, and a text outside. -/
def margin : Forest :=
  (Forest.ofTrees [.node () (.element ⟨.html, ['p']⟩ [])
      [.node () (.text "a I18N_K k".toList) [],
        .node () (.comment " I18N_D x=1".toList) [.node () (.text ['b']) []]],
    .node () (.text ['c']) []]).1

/-- Options for a localizer of the paragraph. -/
def margins : LocalizerOptions :=
  ⟨some 1, some ['e'], .ofList [(['e'], ["a I18N_K k".toList, ['b'], ['c']]),
    (['f'], [['x'], ['y'], ['z']])], some ['f'], none, ⟨[], [], [], [], [], []⟩⟩

/-- The guest who has no observers. -/
def bystander : Guest Unit := ⟨fun _ _ _ => ([], ())⟩

/-- What is done in the margin: the text outside and the text of the paragraph change places,
after the latter got other words. -/
def exchange : List Action :=
  [.attach margins, .edit (.append 1 5), .edit (.setText 2 ['a']), .edit (.append 0 2), .deliver,
    .ask 0 (.changeLanguage ['e'])]

/-- Attached to the paragraph, a localizer puts its own comment in the place of the one there
and localizes the text that goes with that one. It leaves alone the text that was moved out
before it heard of its change, and all that it does is confined to the paragraph. -/
theorem confined_run_margin :
    let turns := bystander.turns 3 (Play.start margin (.new 0) ()) exchange
    let last := (bystander.run 3 (Play.start margin (.new 0) ()) exchange).scene.document.forest
    margin.content? 1 = some (.element ⟨.html, ['p']⟩ []) ∧
      turns.countP (fun turn => turn.keptNode? = some 1) = 4 ∧
      last.text? 2 = some ['a'] ∧ last.text? 4 = some ['y'] ∧ last.parent? 3 = none ∧
      last.children 1 = [6, 5] ∧ last.text? 5 = some ['c'] ∧
      (∀ turn ∈ turns, turn.Names) ∧
      ∀ turn ∈ turns, turn.keptNode? = some 1 →
        turn.scene.document.forest.Confined 1 turn.after.document.forest := by
  intro turns last
  have grown := (Forest.grown_ofTrees [Tree.node () (.element ⟨.html, ['p']⟩ [])
      [.node () (.text "a I18N_K k".toList) [],
        .node () (.comment " I18N_D x=1".toList) [.node () (.text ['b']) []]],
    .node () (.text ['c']) []]).1
  have there : margin.content? 1 = some (.element ⟨.html, ['p']⟩ []) := rfl
  have names : ∀ turn ∈ turns, turn.Names := by decide
  refine ⟨there, by decide, by decide, by decide, by decide, by decide, by decide, names, ?_⟩
  intro turn listed kept
  exact (bystander.confined_run 3 grown.wellFormed there rfl exchange names turn listed kept).2

end Guest

end Polyglot
