import Polyglot.Proofs.Localizer.Carrier

/-!
# What a pass does to a forest

`Forest.localize` is what localizing one text does to a forest, and a pass does it to
all texts below a node, one after the other (`Localizer.forest_localizeTreeUnheard`).

A forest shows another one in some languages if it is the other one, with some texts
settled, and each of these texts is what it is in its language (`Shows`). The first
pass leaves a forest that shows the original one in the language of the pass
(`Exchangeable.shows_first`), and a later pass from that language to another leaves
one that shows it in the other (`Exchangeable.shows_again`). Both go text by text: a
single step adds a text to those that are shown, or exchanges its language. A forest
that shows another one in given languages is the only one that does.
-/

set_option autoImplicit false

namespace Polyglot

namespace Forest

/-- A forest in which a text has been given other words, if they are others. -/
def write (forest : Forest) (node : NodeId) (words : Text) : Forest :=
  if forest.text? node = some words then forest else forest.setContent node (.text words)

/-- A forest in which one text has been localized. -/
def localize (counterpart? : Text → Option Text) (forest : Forest) (node : NodeId) : Forest :=
  match forest.reading? node with
  | none => forest
  | some reading =>
    let written := forest.write node (reading.localized counterpart?).1
    match reading.tail? with
    | none => written
    | some tail => written.placeComment node (Localizer.carrier? forest node) tail

end Forest

/-! ## Passes as changes of forests -/

namespace Watch

variable (watch : Watch) (document : Document)

theorem forest_start : (watch.start document).forest = document.forest := rfl

theorem forest_withhold (id : ObserverId) : (withhold document id).1.forest = document.forest := by
  unfold withhold
  split <;> rfl

theorem forest_suspend : (watch.suspend document).1.forest = document.forest :=
  (forest_withhold _ watch.nodes).trans (forest_withhold document watch.texts)

theorem forest_resume (suspension : Suspension) :
    (watch.resume suspension document).forest = document.forest := by
  have texts : ∀ changes, ((watch.startTexts document).requeue watch.texts changes).forest
      = document.forest := fun changes => Document.forest_requeue _ _ _
  have nodes : ∀ (document : Document) changes,
      ((watch.startNodes document).requeue watch.nodes changes).forest = document.forest :=
    fun document changes => Document.forest_requeue _ _ _
  rw [resume]
  cases suspension.texts? <;> cases suspension.nodes? <;> simp only [texts, nodes]

end Watch

namespace Localizer

variable (localizer : Localizer) (document : Document) (node : NodeId) (source : Text)

theorem forest_setText {old : Text} (spoken : document.forest.text? node = some old)
    (words : Text) :
    (document.setText node words).1.forest = document.forest.setContent node (.text words) := by
  rw [Document.setText, spoken]
  exact Document.forest_report _ _

theorem forest_placeCarrier (carrier? : Option NodeId) (tail : Text) :
    (placeCarrier document node carrier? tail).forest =
      document.forest.placeComment node carrier? tail := by
  have carried : ∀ edit : Edit,
      (edit.carryOut (document.addNode (.comment tail)).1).forest
        = (document.forest.add (.comment tail)).1.after
            (edit.strokes (document.forest.add (.comment tail)).1) := by
    intro edit
    rw [edit.carryOut_eq_play, Document.forest_play]
    rfl
  rw [Forest.placeComment]
  cases carrier? with
  | none => exact carried (.insertAfter node document.forest.size)
  | some carrier => exact carried (.replace carrier document.forest.size)

/-- Localizing a text succeeds, and what becomes of the text is seen from its reading. -/
theorem localizeText_of_reading? {reading : Reading}
    (read : document.forest.reading? node = some reading) :
    ∃ after, localizer.localizeText document node source
        = .ok (after, (reading.localized (localizer.counterpart? source)).2) ∧
      after.forest = document.forest.localize (localizer.counterpart? source) node := by
  obtain ⟨text, spoken, taken⟩ := Option.map_eq_some_iff.mp read
  rw [Forest.carrierText?] at taken
  rw [localizeText, spoken, Forest.localize, read]
  simp only [taken]
  have written : (if (reading.localized (localizer.counterpart? source)).1 = text then document
      else (document.setText node (reading.localized (localizer.counterpart? source)).1).1).forest
      = document.forest.write node (reading.localized (localizer.counterpart? source)).1 := by
    rw [Forest.write, spoken]
    simp only [Option.some.injEq]
    split
    · next same => rw [if_pos same.symm]
    · next other => rw [if_neg fun same => other same.symm, forest_setText document node spoken]
  cases reading.tail? with
  | none => exact ⟨_, rfl, written⟩
  | some tail =>
    refine ⟨_, rfl, ?_⟩
    rw [forest_placeCarrier, written]

/-- Where there is no text nothing is localized. -/
theorem localizeText_of_silent (silent : document.forest.reading? node = none) :
    localizer.localizeText document node source = .error .notATextNode := by
  rw [localizeText, Option.map_eq_none_iff.mp silent]

theorem forest_visit (stats : PassStats) :
    (localizer.visit source (document, stats) node).1.forest =
      document.forest.localize (localizer.counterpart? source) node := by
  cases read : document.forest.reading? node with
  | none =>
    rw [visit, localizer.localizeText_of_silent document node source read, Forest.localize, read]
  | some reading =>
    obtain ⟨after, done, same⟩ := localizer.localizeText_of_reading? document node source read
    rw [visit, done, ← same]

theorem forest_visitAll (nodes : List NodeId) :
    (localizer.visitAll source document nodes).1.forest =
      nodes.foldl (Forest.localize (localizer.counterpart? source)) document.forest := by
  suffices along : ∀ (state : Document × PassStats),
      (nodes.foldl (localizer.visit source) state).1.forest =
        nodes.foldl (Forest.localize (localizer.counterpart? source)) state.1.forest from
    along (document, .zero)
  induction nodes with
  | nil => exact fun _ => rfl
  | cons node rest ih =>
    intro state
    rw [List.foldl_cons, List.foldl_cons, ih, ← forest_visit]

/-- **A pass localizes all texts below a node, one after the other.** -/
theorem forest_localizeTreeUnheard (root : NodeId) :
    (localizer.localizeTreeUnheard document root source).2.1.forest =
      (document.forest.textNodes root).foldl
        (Forest.localize (localizer.counterpart? source)) document.forest := by
  have suspended := localizer.watch.forest_suspend document
  have resumed : (localizer.localizeTreeUnheard document root source).2.1.forest =
      (localizer.visitAll source (localizer.watch.suspend document).1
        ((localizer.watch.suspend document).1.forest.textNodes root)).1.forest :=
    Watch.forest_resume _ _ _
  rw [resumed, forest_visitAll, suspended]

end Localizer

/-! ## Forests that show others in some languages -/

namespace Forest

variable {forest : Forest} {node : NodeId} {old words : Text}

theorem write_alike (spoken : forest.text? node = some old) (words : Text) :
    (forest.write node words).Alike forest := by
  rw [write]
  split
  · exact .refl forest
  · exact .of_setContent spoken words

theorem content?_of_text? (spoken : forest.text? node = some old) :
    forest.content? node = some (.text old) := by
  obtain ⟨content, here, text⟩ := Option.bind_eq_some_iff.mp spoken
  cases content <;> cases text
  exact here

theorem content?_write (spoken : forest.text? node = some old) (words : Text) (id : NodeId) :
    (forest.write node words).content? id =
      if id = node then some (.text words) else forest.content? id := by
  rw [write]
  split
  · next same =>
    split
    · next here => rw [here, content?_of_text? same]
    · rfl
  · exact content?_setContent id _ (forest.lt_size_of_text? node spoken)

theorem text?_write (spoken : forest.text? node = some old) (id : NodeId) :
    (forest.write node words).text? id = if id = node then some words else forest.text? id := by
  rw [text?, content?_write spoken]
  split <;> rfl

/-- Where there is no text nothing changes. -/
theorem localize_of_text?_eq_none (counterpart? : Text → Option Text)
    (silent : forest.text? node = none) : forest.localize counterpart? node = forest := by
  rw [localize, reading?, silent, Option.map_none]

/-- Localizing a text without directives of its own gives it other words. -/
theorem localize_of_tail?_eq_none {counterpart? : Text → Option Text} {reading : Reading}
    (read : forest.reading? node = some reading) (stays : reading.tail? = none) :
    forest.localize counterpart? node = forest.write node (reading.localized counterpart?).1 := by
  rw [localize, read]
  simp only [stays]

/-- Localizing any other text settles it besides. -/
theorem localize_of_tail? {counterpart? : Text → Option Text} {reading : Reading}
    (read : forest.reading? node = some reading) {tail : Text}
    (moves : reading.tail? = some tail) :
    forest.localize counterpart? node =
      (forest.write node (reading.localized counterpart?).1).placeComment node
        (Localizer.carrier? forest node) tail := by
  rw [localize, read]
  simp only [moves]

/-- Where a forest and an alike one are read the same, localizing a text of the one is
settling it in the other and giving it other words. -/
theorem Alike.localize {other : Forest} (alike : forest.Alike other) (orderly : other.Orderly)
    {top : NodeId} (listed : node ∈ other.textNodes top) {reading : Reading}
    (read : forest.reading? node = some reading) (readOther : other.reading? node = some reading)
    (counterpart? : Text → Option Text) :
    (forest.localize counterpart? node).Alike (other.settle node) ∧
      ∀ id, (forest.localize counterpart? node).text? id =
        if id = node then some (reading.localized counterpart?).1 else forest.text? id := by
  obtain ⟨old, spoken, _⟩ := Option.map_eq_some_iff.mp read
  have written := (write_alike spoken (reading.localized counterpart?).1).trans alike
  obtain ⟨text, spokenOther, cases⟩ := settle_cases orderly listed
  rw [reading?, spokenOther, Option.map_some, Option.some.injEq] at readOther
  rw [readOther] at cases
  rcases cases with ⟨stays, step⟩ | ⟨tail, parent, left, right, moves, step, placed⟩
  · rw [localize_of_tail?_eq_none read stays, step]
    exact ⟨written, text?_write spoken⟩
  · have split := (congrFun written.children parent).trans placed.split
    have placedHere := placed_placeComment (written.wellFormed orderly.wellFormed) tail split
    rw [localize_of_tail? read moves, step, alike.carrier?]
    refine ⟨written.placeComment orderly.wellFormed placed.split tail, fun id => ?_⟩
    rw [placedHere.text?, text?_write spoken]

/-- What a text node is in a language. -/
def rendered? (forest : Forest) (catalog : Catalog) (written language : Text) (node : NodeId) :
    Option Text :=
  (forest.reading? node).map fun reading => reading.rendered catalog written language

end Forest

/-- A document that can be localized back and forth below a node: its catalog has the
language that it was written in and no phrase twice in one language, and all texts
below the node are reversible. -/
structure Exchangeable (original : Forest) (catalog : Catalog) (written : Text) (top : NodeId) :
    Prop where
  orderly : original.Orderly
  distinct : catalog.Distinct
  known : catalog.contains written = true
  reversible : ∀ node ∈ original.textNodes top, ∀ text, original.text? node = some text →
    Reversible catalog written text (original.carrierText? node)

/-- A forest that is another one with some texts settled and put into languages. -/
structure Shows (original : Forest) (catalog : Catalog) (written : Text) (nodes : List NodeId)
    (language : NodeId → Text) (shown : Forest) : Prop where
  alike : shown.Alike (original.settleAll nodes)
  text? : ∀ id, shown.text? id =
    if id ∈ nodes then original.rendered? catalog written (language id) id else original.text? id

/-- A forest that shows another one in given languages is the only one. -/
theorem Shows.eq {original one other : Forest} {catalog : Catalog} {written : Text}
    {nodes : List NodeId} {language : NodeId → Text}
    (first : Shows original catalog written nodes language one)
    (second : Shows original catalog written nodes language other) : one = other :=
  (first.alike.trans second.alike.symm).eq_of_text? fun id =>
    (first.text? id).trans (second.text? id).symm

namespace Exchangeable

variable {original shown : Forest} {catalog : Catalog} {written : Text} {top node : NodeId}
  {nodes : List NodeId} {language : NodeId → Text}
  (exchangeable : Exchangeable original catalog written top)
include exchangeable

theorem settled (listed : ∀ node ∈ nodes, node ∈ original.textNodes top) (distinct : nodes.Nodup) :
    original.Settled nodes (original.settleAll nodes) :=
  exchangeable.orderly.settled_settleAll nodes listed distinct

/-- A text that was not shown yet is shown after it was localized from the language
that it was written in. -/
theorem shows_snoc (shows : Shows original catalog written nodes language shown)
    (all : ∀ node ∈ nodes, node ∈ original.textNodes top) (distinct : nodes.Nodup)
    (listed : node ∈ original.textNodes top) (fresh : node ∉ nodes) :
    Shows original catalog written (nodes ++ [node]) language
      (shown.localize (catalog.counterpart? written (language node)) node) := by
  have settled := exchangeable.settled all distinct
  have here : node ∈ (original.settleAll nodes).textNodes top :=
    (settled.textNodes top).symm ▸ listed
  obtain ⟨⟨text, spoken⟩, _, _⟩ := Forest.text_of_mem_textNodes listed
  have reversible := exchangeable.reversible node listed text spoken
  -- The text and its carrier are still as they were.
  have carrier : (original.settleAll nodes).carrierText? node = original.carrierText? node := by
    rw [settled.carrierText? node text spoken, if_neg fresh]
  have read : shown.reading? node = some (Reading.of text (original.carrierText? node)) := by
    rw [Forest.reading?, shows.text?, if_neg fresh, spoken, Option.map_some,
      shows.alike.carrierText?, carrier]
  have readSettled : (original.settleAll nodes).reading? node
      = some (Reading.of text (original.carrierText? node)) := by
    rw [Forest.reading?, settled.text?, spoken, Option.map_some, carrier]
  obtain ⟨alike, texts⟩ := shows.alike.localize settled.orderly here read readSettled
    (catalog.counterpart? written (language node))
  refine ⟨?_, fun id => ?_⟩
  · rw [Forest.settleAll, List.foldl_append]
    exact alike
  · rw [texts, reversible.localized_eq_rendered]
    by_cases same : id = node
    · rw [if_pos same, same, if_pos (by simp), Forest.rendered?, Forest.reading?, spoken,
        Option.map_some, Option.map_some]
    · rw [if_neg same, shows.text?]
      simp only [List.mem_append, List.mem_singleton, same, or_false]

/-- **The first pass** leaves a forest that shows the original in one language. -/
theorem shows_first (language : Text) :
    Shows original catalog written (original.textNodes top) (fun _ => language)
      ((original.textNodes top).foldl
        (Forest.localize (catalog.counterpart? written language)) original) := by
  have distinct := exchangeable.orderly.nodup_textNodes top
  -- The texts that are shown already come before those that are still to be localized.
  suffices along : ∀ (rest nodes : List NodeId) (shown : Forest),
      original.textNodes top = nodes ++ rest →
      Shows original catalog written nodes (fun _ => language) shown →
      Shows original catalog written (nodes ++ rest) (fun _ => language)
        (rest.foldl (Forest.localize (catalog.counterpart? written language)) shown) from
    along _ [] original rfl ⟨.refl original, fun _ => (if_neg List.not_mem_nil).symm⟩
  intro rest
  induction rest with
  | nil =>
    intro nodes shown _ shows
    rw [List.append_nil]
    exact shows
  | cons node rest ih =>
    intro nodes shown whole shows
    rw [whole, List.nodup_append] at distinct
    have listed : ∀ id ∈ nodes ++ node :: rest, id ∈ original.textNodes top :=
      fun id here => whole ▸ here
    have step := exchangeable.shows_snoc shows
      (fun id here => listed id (List.mem_append_left _ here)) distinct.1
      (listed node (List.mem_append_right _ List.mem_cons_self))
      (fun here => distinct.2.2 node here node List.mem_cons_self rfl)
    have later := ih (nodes ++ [node]) _ (by rw [whole]; simp) step
    rw [List.append_assoc, List.singleton_append] at later
    exact later

/-- Nodes of a forest that shows the original one. -/
theorem textNodes_of_shows
    (shows : Shows original catalog written (original.textNodes top) language shown) :
    shown.textNodes top = original.textNodes top := by
  have settled := exchangeable.settled (fun _ here => here)
    (exchangeable.orderly.nodup_textNodes top)
  exact (shows.alike.textNodes top).trans (settled.textNodes top)

/-- A text that is shown in one language is shown in another after it was localized
from the one to the other. -/
theorem shows_exchange
    (shows : Shows original catalog written (original.textNodes top) language shown)
    (listed : node ∈ original.textNodes top) {target : Text}
    (knownSource : catalog.contains (language node) = true)
    (knownTarget : catalog.contains target = true) :
    Shows original catalog written (original.textNodes top)
      (fun id => if id = node then target else language id)
      (shown.localize (catalog.counterpart? (language node) target) node) := by
  have settled := exchangeable.settled (fun _ here => here)
    (exchangeable.orderly.nodup_textNodes top)
  obtain ⟨⟨text, spoken⟩, _, _⟩ := Forest.text_of_mem_textNodes listed
  have reversible := exchangeable.reversible node listed text spoken
  have rendered : ∀ language, original.rendered? catalog written language node =
      some ((Reading.of text (original.carrierText? node)).rendered catalog written language) := by
    intro language
    rw [Forest.rendered?, Forest.reading?, spoken, Option.map_some, Option.map_some]
  have spokenHere : shown.text? node = some ((Reading.of text
      (original.carrierText? node)).rendered catalog written (language node)) := by
    rw [shows.text?, if_pos listed, rendered]
  have read : shown.reading? node = some (Reading.of
      ((Reading.of text (original.carrierText? node)).rendered catalog written (language node))
      ((Reading.of text (original.carrierText? node)).carrierAfter
        (original.carrierText? node))) := by
    rw [Forest.reading?, spokenHere, Option.map_some, shows.alike.carrierText?,
      settled.carrierText? node text spoken, if_pos listed]
  obtain ⟨stays, result⟩ :=
    reversible.localized_rendered exchangeable.distinct knownSource knownTarget
  rw [Forest.localize_of_tail?_eq_none read stays, result]
  refine ⟨(Forest.write_alike spokenHere _).trans shows.alike, fun id => ?_⟩
  rw [Forest.text?_write spokenHere]
  by_cases same : id = node
  · rw [if_pos same, same, if_pos listed, if_pos rfl, rendered]
  · rw [if_neg same, if_neg same, shows.text?]

/-- **A later pass** from one language to another leaves a forest that shows the
original in the other. -/
theorem shows_again {source target : Text} (knownSource : catalog.contains source = true)
    (knownTarget : catalog.contains target = true)
    (shows : Shows original catalog written (original.textNodes top) (fun _ => source) shown) :
    Shows original catalog written (original.textNodes top) (fun _ => target)
      ((shown.textNodes top).foldl
        (Forest.localize (catalog.counterpart? source target)) shown) := by
  rw [exchangeable.textNodes_of_shows shows]
  have distinct := exchangeable.orderly.nodup_textNodes top
  -- The texts that are still to be localized are those in the source language.
  suffices along : ∀ (rest : List NodeId) (shown : Forest), rest.Nodup →
      (∀ node ∈ rest, node ∈ original.textNodes top) →
      Shows original catalog written (original.textNodes top)
        (fun id => if id ∈ rest then source else target) shown →
      Shows original catalog written (original.textNodes top) (fun _ => target)
        (rest.foldl (Forest.localize (catalog.counterpart? source target)) shown) from
    along _ shown distinct (fun _ here => here) ⟨shows.alike, fun id => by
      rw [shows.text?]
      split <;> rfl⟩
  intro rest
  induction rest with
  | nil =>
    intro shown _ _ shows
    exact ⟨shows.alike, fun id => by simpa using shows.text? id⟩
  | cons node rest ih =>
    intro shown distinct listed shows
    obtain ⟨fresh, distinct⟩ := List.nodup_cons.mp distinct
    have language : (if node ∈ node :: rest then source else target) = source :=
      if_pos List.mem_cons_self
    have step := exchangeable.shows_exchange shows (listed node List.mem_cons_self)
      (language.symm ▸ knownSource) knownTarget
    rw [language] at step
    refine ih _ distinct (fun id here => listed id (List.mem_cons_of_mem node here)) ⟨step.alike,
      fun id => (step.text? id).trans ?_⟩
    by_cases same : id = node
    · rw [if_pos same, same, if_neg fresh]
    · simp only [same, if_false, List.mem_cons, false_or]

end Exchangeable

end Polyglot
