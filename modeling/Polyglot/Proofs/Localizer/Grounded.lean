import Polyglot.Proofs.Localizer.Delivered
import Polyglot.Proofs.Localizer.PathIndependence
import Polyglot.Proofs.Localizer.Turns

/-!
# The languages that localizers are in

A localizer is in a language of its catalog, whoever does what in its scene: it takes the
language that it is asked for only if the catalog has it, and what it falls back on is
taken from the catalog as well (`Guest.Reaches.grounded`).
-/

set_option autoImplicit false

namespace Polyglot

namespace Localizer

/-- A localizer that is in a language of its catalog and has none but such to fall back
on. -/
structure Grounded (localizer : Localizer) : Prop where
  language : localizer.catalog.contains localizer.language = true
  fallback : ∀ language, localizer.fallback? = some language →
    localizer.catalog.contains language = true

variable {localizer other : Localizer}

theorem Grounded.of_same (grounded : localizer.Grounded) (same : localizer.SameButCounts other) :
    other.Grounded where
  language := by
    rw [same.catalog, same.language]
    exact grounded.language
  fallback := by
    rw [same.catalog, same.fallback?]
    exact grounded.fallback

theorem Grounded.setLanguage (grounded : localizer.Grounded) (language : Text) :
    (localizer.setLanguage language).Grounded where
  language := localizer.contains_resolve grounded.language grounded.fallback language
  fallback := grounded.fallback

theorem sameButCounts_localizeTreeUnheard (localizer : Localizer) (document : Document)
    (root : NodeId) (source : Text) :
    localizer.SameButCounts (localizer.localizeTreeUnheard document root source).1 :=
  ⟨rfl, rfl, rfl, rfl, rfl⟩

/-- A change of language sets the language, and changes nothing else of a localizer. -/
theorem Grounded.sameButCounts_changeLanguage (grounded : localizer.Grounded)
    (document : Document) (host : Host) (language : Text) :
    (localizer.setLanguage language).SameButCounts
      (localizer.changeLanguage document host language).1 := by
  rw [changeLanguage]
  simp only [stays_iff_of_contains grounded.language]
  split
  · next stays => exact ⟨rfl, rfl, rfl, rfl, stays.symm⟩
  · exact (localizer.setLanguage language).sameButCounts_localizeTreeUnheard document _ _

theorem Grounded.fulfil (grounded : localizer.Grounded) (document : Document) (host : Host)
    (request : Request) : (localizer.fulfil document host request).1.Grounded := by
  cases request with
  | changeLanguage language =>
    exact (grounded.setLanguage language).of_same
      (grounded.sameButCounts_changeLanguage document host language)
  | setLanguage language => exact grounded.setLanguage language
  | keepLanguage language => exact grounded.setLanguage language
  | localizeTree root source =>
    exact grounded.of_same (localizer.sameButCounts_localizeTreeUnheard document root source)
  | _ => exact grounded

/-- A catalog that can be used has a language. -/
theorem exists_contains {catalog : Catalog} (valid : catalog.validate = .ok ()) :
    ∃ language, catalog.contains language = true := by
  rw [Catalog.Table.validate, Catalog.Table.isEmpty] at valid
  cases languages : catalog.languages with
  | nil =>
    rw [languages] at valid
    cases valid
  | cons first rest =>
    exact ⟨first, (catalog.consistent.contains_iff first).mpr (languages ▸ List.mem_cons_self)⟩

theorem grounded_attach {document after : Document} {host : Host} {options : LocalizerOptions}
    (attached : attach document host options = .ok (localizer, after)) : localizer.Grounded := by
  rw [attach] at attached
  cases valid : options.catalog.validate with
  | error problem =>
    rw [valid] at attached
    cases attached
  | ok _ =>
    rw [valid] at attached
    cases attached
    obtain ⟨present, known⟩ := exists_contains valid
    have fallback : ∀ language, (create document host options).1.fallback? = some language →
        options.catalog.contains language = true := fun language given =>
      (Option.filter_eq_some_iff.mp given).2
    exact ⟨contains_resolve _ known fallback _, fallback⟩

end Localizer

namespace Scene

/-- All localizers of a scene are in a language of their catalogs. -/
def Grounded (scene : Scene) : Prop :=
  ∀ localizer ∈ scene.localizers, localizer.Grounded

variable {scene : Scene}

theorem Grounded.put (grounded : scene.Grounded) {localizer : Localizer}
    (ground : localizer.Grounded) : (scene.put localizer).Grounded := by
  intro other listed
  obtain ⟨before, here, rfl⟩ := List.mem_map.mp listed
  split
  · exact ground
  · exact grounded before here

theorem Grounded.onHandle (grounded : scene.Grounded) (id : ObserverId)
    (change : Document → Document) : (scene.onHandle id change).Grounded := by
  unfold Scene.onHandle
  split <;> exact grounded

theorem Grounded.hear (grounded : scene.Grounded) (id : ObserverId) (changes : List Change) :
    (scene.hear id changes).Grounded := by
  unfold Scene.hear
  split
  · exact grounded
  · next localizer found =>
    exact grounded.put ((grounded _ (localizer?_eq_some found).1).of_same
      (localizer.sameButCounts_hear scene.document id changes))

theorem Grounded.act (grounded : scene.Grounded) (action : Action) :
    (scene.act action).Grounded := by
  cases action with
  | release id => exact grounded.onHandle id _
  | observe id target interest => exact grounded.onHandle id _
  | disconnect id => exact grounded.onHandle id _
  | take id => exact grounded.onHandle id _
  | attach options =>
    unfold Scene.act
    dsimp only
    split
    · exact grounded
    · next localizer document attached =>
      intro other listed
      rcases List.mem_append.mp listed with old | new
      · exact grounded other old
      · exact List.mem_singleton.mp new ▸ Localizer.grounded_attach attached
  | drop id =>
    unfold Scene.act
    dsimp only
    split
    · exact grounded
    · exact fun other listed => grounded other (List.mem_filter.mp listed).1
  | ask id request =>
    unfold Scene.act
    dsimp only
    split
    · exact grounded
    · next localizer found =>
      exact grounded.put ((grounded _ (localizer?_eq_some found).1).fulfil scene.document
        scene.host request)
  | _ => exact grounded

end Scene

/-- **Every turn leaves every localizer in a language of its catalog.** -/
theorem groundedRule : TurnRule (fun _ => True) (fun _ => True) Scene.Grounded where
  withDocument _ _ _ grounded := grounded
  turn turn grounded _ := by
    obtain ⟨scene, doing⟩ := turn
    cases doing with
    | act action => exact ⟨grounded.act action, trivial⟩
    | hear id changes => exact ⟨grounded.hear id changes, trivial⟩

theorem Guest.Reaches.grounded {σ : Type} {guest : Guest σ} {play : Play σ}
    (reached : guest.Reaches play) : play.scene.Grounded := by
  obtain ⟨limit, forest, host, state, actions, rfl⟩ := reached
  exact (groundedRule.run guest limit actions (Play.start forest host state) nofun
    fun _ _ => trivial).1

end Polyglot
