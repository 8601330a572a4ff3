import Polyglot.Proofs.Localizer.Exchange
import Polyglot.Proofs.Localizer.Grounded

/-!
# Language changes and deliveries commute

What others write into a subtree waits to be heard of, and meanwhile the language may be
changed. The text is then taken for one in the language that was in use, though it is in
the one that the document was written in; and it is heard of later, when the subtree is
in the new language already. For bare texts and exact catalogs that comes to the same as
hearing of it first (`Guest.deliver?_changeLanguage`).

A text is visited as often in the one order as in the other, and by the pass of the
change once. So it is enough that single visits commute (`Exact.semiconj_exchange`).

A pass does not visit the node itself that a localizer is at, nor what is below a text.
A text in such a place is put into the language when it is changed and not when the
language is, so that the order matters there (`Guest.deliver?_changeLanguage_note`).
-/

set_option autoImplicit false

namespace Polyglot

namespace Localizer

variable {localizer : Localizer} {document : Document} {catalog : Catalog} {original : Forest}

/-- **A change of language exchanges the texts that a pass visits**, and nothing if the
language stays the same. -/
theorem Grounded.changeLanguage_bare (grounded : localizer.Grounded)
    (exact : localizer.catalog.Exact) (wellFormed : original.WellFormed)
    (acyclic : original.Acyclic)
    (bareBelow : Forest.BareBelow localizer.watch.target original document.forest)
    (host : Host) (language : Text) :
    Forest.BareBelow localizer.watch.target original
        (localizer.changeLanguage document host language).2.1.forest ∧
      ∀ node, (localizer.changeLanguage document host language).2.1.forest.text? node =
        if node ∈ original.textNodes localizer.watch.target then
          (document.forest.text? node).map
            (localizer.catalog.exchange localizer.language (localizer.resolve language))
        else document.forest.text? node := by
  rw [changeLanguage]
  simp only [stays_iff_of_contains grounded.language]
  split
  · next stays =>
    refine ⟨bareBelow, fun node => ?_⟩
    rw [stays, funext (exact.exchange_self localizer.language)]
    exact (ite_eq_right_iff.mpr fun _ => Option.map_id').symm
  · have pass : ((localizer.keepLanguage host language).1.localizeTreeUnheard document
          (localizer.keepLanguage host language).1.watch.target localizer.language).2.1.forest =
        (document.forest.textNodes localizer.watch.target).foldl
          (Forest.localize
            (localizer.catalog.counterpart? localizer.language (localizer.resolve language)))
          document.forest :=
      (localizer.keepLanguage host language).1.forest_localizeTreeUnheard document _ _
    dsimp only
    rw [pass]
    exact bareBelow.pass exact localizer.language (localizer.resolve language) wellFormed acyclic

/-- What is due to a localizer is seen from its watch and what waits for that. -/
theorem outstanding_of_unmoved {other : Localizer} (same : other.watch = localizer.watch)
    {before after : Document} (unmoved : localizer.watch.Unmoved before after) (forest : Forest)
    (node : NodeId) :
    other.outstanding forest after node = localizer.outstanding forest before node := by
  rw [outstanding, outstanding, same, unmoved.texts.queue, unmoved.nodes.queue]

end Localizer

/-- The only localizer of a scene is asked to change the language. -/
theorem Scene.act_changeLanguage {scene : Scene} {localizer : Localizer}
    (alone : scene.localizers = [localizer]) (language : Text) :
    scene.act (.ask localizer.watch.texts (.changeLanguage language)) =
      { scene with
        document := (localizer.changeLanguage scene.document scene.host language).2.1
        host := (localizer.changeLanguage scene.document scene.host language).2.2.1
        localizers := [(localizer.changeLanguage scene.document scene.host language).1] } := by
  have found : scene.localizer? localizer.watch.texts = some localizer := by
    rw [localizer?, alone, List.find?_cons_of_pos (by simp)]
  have watch : (localizer.changeLanguage scene.document scene.host language).1.watch
      = localizer.watch := by
    rw [Localizer.changeLanguage]
    dsimp only
    split <;> rfl
  simp only [act, found, Localizer.fulfil, put, alone, List.map_singleton, watch, if_true]

namespace Guest

section Orders

variable {σ : Type} (guest : Guest σ) (passive : guest.Passive) {play : Play σ}
  {localizer : Localizer} {original : Forest} (grounded : localizer.Grounded)
  (alone : play.scene.localizers = [localizer]) (exact : localizer.catalog.Exact)
  (wellFormed : original.WellFormed) (acyclic : original.Acyclic)
  (bareBelow : Forest.BareBelow localizer.watch.target original play.scene.document.forest)
include alone exact wellFormed acyclic bareBelow

include passive in
/-- **A delivery exchanges each text as often as that was due.** -/
theorem deliver?_bare (settled : play.Settled) {limit : Nat} (enough : 3 ≤ limit) :
    ∃ after calls now, guest.stage.deliver? limit play = some (after, calls) ∧
      after.scene.localizers = [now] ∧ localizer.SameButCounts now ∧
      Forest.BareBelow localizer.watch.target original after.scene.document.forest ∧
      ∀ node, after.scene.document.forest.text? node =
        (play.scene.document.forest.text? node).map
          ((localizer.catalog.exchange localizer.htmlLanguage localizer.language)^[
            localizer.outstanding original play.scene.document node]) := by
  have steady := Forest.Steady.of_bare exact localizer.htmlLanguage localizer.language wellFormed
    acyclic localizer.watch.target
  obtain ⟨after, calls, now, delivered, _, alone', same, holds, words⟩ :=
    guest.deliver?_wording passive steady settled alone bareBelow enough
  refine ⟨after, calls, now, delivered, alone', same, holds, fun node => ?_⟩
  refine bareBelow.text?_of_wording? exact (fun due => ?_) (words node)
  obtain ⟨other, listed⟩ := Localizer.exists_mem_stops_of_outstanding due
  exact Forest.covers_of_mem_stops wellFormed acyclic listed

include passive grounded in
/-- The language is changed after a delivery. -/
theorem deliver?_then_changeLanguage (settled : play.Settled) {limit : Nat} (enough : 3 ≤ limit)
    (language : Text) :
    ∃ after calls, guest.stage.deliver? limit play = some (after, calls) ∧
      Forest.BareBelow localizer.watch.target original
        (after.act (.ask localizer.watch.texts (.changeLanguage language))).scene.document.forest ∧
      ∀ node, (after.act
          (.ask localizer.watch.texts (.changeLanguage language))).scene.document.forest.text? node =
        let heard := (play.scene.document.forest.text? node).map
          ((localizer.catalog.exchange localizer.htmlLanguage localizer.language)^[
            localizer.outstanding original play.scene.document node])
        if node ∈ original.textNodes localizer.watch.target then
          heard.map (localizer.catalog.exchange localizer.language (localizer.resolve language))
        else heard := by
  obtain ⟨after, calls, now, delivered, alone', same, bareThen, texts⟩ :=
    guest.deliver?_bare passive alone exact wellFormed acyclic bareBelow settled enough
  rw [← same.watch] at bareThen
  obtain ⟨last, lastTexts⟩ := (grounded.of_same same).changeLanguage_bare
    (same.catalog ▸ exact) wellFormed acyclic
    bareThen after.scene.host language
  refine ⟨after, calls, delivered, ?_⟩
  rw [Play.act, ← same.watch, Scene.act_changeLanguage alone' language]
  refine ⟨last, fun node => ?_⟩
  rw [lastTexts, texts, same.catalog, same.language, same.resolve]

include passive grounded in
/-- The language is changed before a delivery. -/
theorem deliver?_of_changeLanguage (settled : play.Settled) {limit : Nat} (enough : 3 ≤ limit)
    (language : Text) :
    ∃ after calls, guest.stage.deliver? limit
        (play.act (.ask localizer.watch.texts (.changeLanguage language))) = some (after, calls) ∧
      Forest.BareBelow localizer.watch.target original after.scene.document.forest ∧
      ∀ node, after.scene.document.forest.text? node =
        let changed :=
          if node ∈ original.textNodes localizer.watch.target then
            (play.scene.document.forest.text? node).map
              (localizer.catalog.exchange localizer.language (localizer.resolve language))
          else play.scene.document.forest.text? node
        changed.map
          ((localizer.catalog.exchange localizer.htmlLanguage (localizer.resolve language))^[
            localizer.outstanding original play.scene.document node]) := by
  obtain ⟨changed, texts⟩ := grounded.changeLanguage_bare exact wellFormed acyclic bareBelow
    play.scene.host language
  have same := grounded.sameButCounts_changeLanguage play.scene.document play.scene.host language
  have sound : localizer.watch.Sound play.scene.document :=
    settled.kept.proper.sound_of_localizers alone
  have unmoved := (localizer.unheard_changeLanguage play.scene.document play.scene.host
    language).unmoved sound
  have due := Localizer.outstanding_of_unmoved same.watch unmoved original
  have asked := Scene.act_changeLanguage alone language
  generalize localizer.changeLanguage play.scene.document play.scene.host language = made
    at changed texts same unmoved due asked
  have settled' := settled_act settled (.ask localizer.watch.texts (.changeLanguage language))
  have alone' : (play.act (.ask localizer.watch.texts (.changeLanguage language))).scene.localizers
      = [made.1] := congrArg Scene.localizers asked
  have document :
      (play.act (.ask localizer.watch.texts (.changeLanguage language))).scene.document
        = made.2.1 := congrArg Scene.document asked
  have target : made.1.watch.target = localizer.watch.target := congrArg Watch.target same.watch
  rw [← document, ← target] at changed
  obtain ⟨after, calls, now, delivered, _, _, bareThen, lastTexts⟩ :=
    guest.deliver?_bare passive alone' (same.catalog ▸ exact) wellFormed acyclic changed settled'
      enough
  refine ⟨after, calls, delivered, target ▸ bareThen, fun node => ?_⟩
  rw [lastTexts, document, texts, due, same.catalog, same.htmlLanguage, same.language]
  rfl

omit alone exact wellFormed acyclic bareBelow in
/-- **Deliveries commute with changes of language.** One localizer is at work on a subtree
of a tree, nobody else does anything when called, and the catalog is exact. If the texts
of the subtree are bare and each is one that a pass visits, then whatever others did that
has not been heard of yet, it comes to the same document to deliver it and then change the
language to any other and to change the language first and deliver it then; and both
deliveries come to their end. -/
theorem deliver?_changeLanguage (passive : guest.Passive) (reached : guest.Reaches play)
    (idle : play.scene.document.delivering = false) (alone : play.scene.localizers = [localizer])
    (exact : localizer.catalog.Exact)
    (wellFormed : play.scene.document.forest.WellFormed)
    (acyclic : play.scene.document.forest.Acyclic)
    (bare : ∀ node text,
      play.scene.document.forest.isInclusiveAncestor localizer.watch.target node = true →
      play.scene.document.forest.text? node = some text →
        Directive.hasMarker text = false ∧ play.scene.document.forest.carrierText? node = none)
    (visited : ∀ node,
      play.scene.document.forest.isInclusiveAncestor localizer.watch.target node = true →
      (play.scene.document.forest.text? node).isSome →
        node ∈ play.scene.document.forest.textNodes localizer.watch.target)
    {limit : Nat} (enough : 3 ≤ limit) (language : Text) :
    ∃ flushed calls changed calls',
      guest.stage.deliver? limit play = some (flushed, calls) ∧
      guest.stage.deliver? limit
        (play.act (.ask localizer.watch.texts (.changeLanguage language)))
          = some (changed, calls') ∧
      (flushed.act (.ask localizer.watch.texts (.changeLanguage language))).scene.document.forest
        = changed.scene.document.forest := by
  have settled := reached.settled idle
  have grounded := reached.grounded localizer (alone ▸ List.mem_singleton_self localizer)
  have bareBelow : Forest.BareBelow localizer.watch.target play.scene.document.forest
      play.scene.document.forest := by
    refine ⟨.refl _, fun node wording covered said => ?_⟩
    obtain ⟨text, spoken, rfl⟩ := Option.map_eq_some_iff.mp said
    obtain ⟨free, nothing⟩ := bare node text covered spoken
    exact ⟨free, nothing⟩
  obtain ⟨flushed, calls, delivered, first, firstTexts⟩ := guest.deliver?_then_changeLanguage
    passive grounded alone exact wellFormed acyclic bareBelow settled enough language
  obtain ⟨changed, calls', delivered', second, secondTexts⟩ := guest.deliver?_of_changeLanguage
    passive grounded alone exact wellFormed acyclic bareBelow settled enough language
  refine ⟨flushed, calls, changed, calls', delivered, delivered', ?_⟩
  refine (first.alike.trans second.alike.symm).eq_of_text? fun node => ?_
  rw [firstTexts, secondTexts]
  dsimp only
  split
  · have commute := (exact.semiconj_exchange localizer.htmlLanguage grounded.language
      (localizer.contains_resolve grounded.language grounded.fallback language)).iterate_right
        (localizer.outstanding play.scene.document.forest play.scene.document node)
    rw [Option.map_map, Option.map_map, commute.comp_eq]
  · next absent =>
    cases spoken : play.scene.document.forest.text? node with
    | none => rfl
    | some text =>
      have nothing : localizer.outstanding play.scene.document.forest play.scene.document node
          = 0 := by
        refine Decidable.byContradiction fun due => absent ?_
        obtain ⟨other, listed⟩ := Localizer.exists_mem_stops_of_outstanding due
        exact visited node (Forest.covers_of_mem_stops wellFormed acyclic listed)
          (Forest.isSome_text?_of_mem_stops listed)
      rw [nothing]
      rfl

end Orders

/-- A catalog of one phrase in three languages. -/
def trilingual : Catalog := .ofList [(['e'], [['a']]), (['s'], [['b']]), (['f'], [['c']])]

theorem exact_trilingual : trilingual.Exact :=
  .of_entries (by decide) (by decide) (by decide)

/-- A document of one text. -/
def note : Forest := ⟨#[⟨.document, none, [1]⟩, ⟨.text ['x'], some 0, []⟩]⟩

/-- A play in which somebody edits the note after a localizer was attached to the document
or to the text itself. -/
def noted (target : NodeId) : Play Unit :=
  silent.run 3 (Play.start note (.new 0) ())
    [.attach ⟨some target, some ['e'], trilingual, some ['s'], none, ⟨[], [], [], [], [], []⟩⟩,
      .edit (.setText 1 ['a'])]

theorem localizers_noted (target : NodeId) (known : target = 0 ∨ target = 1) :
    ∃ localizer, (noted target).scene.localizers = [localizer] ∧
      localizer.catalog = trilingual ∧ localizer.watch.target = target ∧
      localizer.watch.texts = 0 := by
  refine Scene.exists_localizer ?_ ?_ <;> rcases known with rfl | rfl <;> decide

theorem bare_noted (target : NodeId) (known : target = 0 ∨ target = 1) (node : NodeId) (text : Text)
    (spoken : (noted target).scene.document.forest.text? node = some text) :
    Directive.hasMarker text = false ∧
      (noted target).scene.document.forest.carrierText? node = none := by
  have all : ∀ node < 2, ∀ text ∈ (noted target).scene.document.forest.text? node,
      Directive.hasMarker text = false ∧
        (noted target).scene.document.forest.carrierText? node = none := by
    rcases known with rfl | rfl <;> decide
  have size : (noted target).scene.document.forest.size = 2 := by
    rcases known with rfl | rfl <;> decide
  exact all node (size ▸ Forest.lt_size_of_text? _ _ spoken) text spoken

/-- Where the localizer is at the document, the text is put into the new language in
either order. -/
theorem deliver?_changeLanguage_noted :
    silent.Passive ∧ ∃ localizer, (noted 0).scene.localizers = [localizer] ∧
      ∃ flushed calls changed calls',
        silent.stage.deliver? 3 (noted 0) = some (flushed, calls) ∧
        silent.stage.deliver? 3
          ((noted 0).act (.ask localizer.watch.texts (.changeLanguage ['f'])))
            = some (changed, calls') ∧
        (flushed.act (.ask localizer.watch.texts (.changeLanguage ['f']))).scene.document.forest
          = changed.scene.document.forest := by
  obtain ⟨localizer, alone, catalog, target, _⟩ := localizers_noted 0 (.inl rfl)
  have orderly : (noted 0).scene.document.forest.Orderly := by decide
  refine ⟨fun _ _ _ => rfl, localizer, alone, ?_⟩
  refine silent.deliver?_changeLanguage (fun _ _ _ => rfl) ⟨_, _, _, _, _, rfl⟩ (by decide) alone
    (catalog ▸ exact_trilingual) orderly.wellFormed orderly.acyclic
    (fun node text _ spoken => bare_noted 0 (.inl rfl) node text spoken)
    (fun node _ isText => ?_) (Nat.le_refl 3) ['f']
  obtain ⟨text, spoken⟩ := Option.isSome_iff_exists.mp isText
  have all : ∀ node < 2, ((noted 0).scene.document.forest.text? node).isSome →
      node ∈ (noted 0).scene.document.forest.textNodes 0 := by decide
  rw [target]
  exact all node (Forest.lt_size_of_text? _ _ spoken) isText

/-- Where the localizer is at the text itself, the order matters. -/
theorem deliver?_changeLanguage_note :
    silent.Passive ∧ silent.Reaches (noted 1) ∧
      (noted 1).scene.document.delivering = false ∧
      (noted 1).scene.document.forest.Orderly ∧
      ∃ localizer, (noted 1).scene.localizers = [localizer] ∧ localizer.catalog.Exact ∧
        (∀ node text, (noted 1).scene.document.forest.text? node = some text →
          Directive.hasMarker text = false ∧
            (noted 1).scene.document.forest.carrierText? node = none) ∧
        ∃ flushed calls changed calls',
          silent.stage.deliver? 3 (noted 1) = some (flushed, calls) ∧
          silent.stage.deliver? 3
            ((noted 1).act (.ask localizer.watch.texts (.changeLanguage ['f'])))
              = some (changed, calls') ∧
          (flushed.act
              (.ask localizer.watch.texts (.changeLanguage ['f']))).scene.document.forest
            ≠ changed.scene.document.forest := by
  obtain ⟨localizer, alone, catalog, _, id⟩ := localizers_noted 1 (.inr rfl)
  have first : ((silent.stage.deliver? 3 (noted 1)).map fun result =>
      (result.1.act (.ask 0 (.changeLanguage ['f']))).scene.document.forest.text? 1)
        = some (some ['b']) := by decide
  have second : ((silent.stage.deliver? 3
      ((noted 1).act (.ask 0 (.changeLanguage ['f'])))).map fun result =>
        result.1.scene.document.forest.text? 1) = some (some ['c']) := by decide
  obtain ⟨⟨flushed, calls⟩, delivered, before⟩ := Option.map_eq_some_iff.mp first
  obtain ⟨⟨changed, calls'⟩, delivered', after⟩ := Option.map_eq_some_iff.mp second
  refine ⟨fun _ _ _ => rfl, ⟨_, _, _, _, _, rfl⟩, by decide, by decide, localizer, alone,
    catalog ▸ exact_trilingual, bare_noted 1 (.inr rfl), flushed, calls, changed, calls', delivered,
    id ▸ delivered', fun same => ?_⟩
  rw [id] at same
  have texts := before.symm.trans ((congrArg (Forest.text? · 1) same).trans after)
  cases texts

end Guest

end Polyglot
