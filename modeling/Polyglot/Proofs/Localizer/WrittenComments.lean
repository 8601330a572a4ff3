import Polyglot.Proofs.Forest.Values
import Polyglot.Proofs.Localizer.Step
import Polyglot.Proofs.Markup.Comments
import Polyglot.Webpage.Localize

/-!
# Directives that are written into markup

The directives of a text move into a comment as they stand, and comments are written as
they stand, so nothing in them is escaped any more. Whether the comment comes back when
the markup is read is decided by its characters alone (`localizeText_comment`): if it
contains an end of a comment, then it ends there, and what stands behind that in the
directives has become markup (`localize_escaped`).
-/

set_option autoImplicit false

namespace Polyglot

open Markup Markup.Token

/-- A comment that holds directives begins with a blank, so it is not cut short at once. -/
theorem Directive.exists_cons_of_startsWithMarker {text : Text}
    (marked : Directive.startsWithMarker text = true) :
    ∃ c rest, text = c :: rest ∧ c ≠ '>' ∧ c ≠ '-' := by
  obtain ⟨body, found⟩ := Option.isSome_iff_exists.mp marked
  obtain ⟨c, blank, mark, _, rfl⟩ := afterMarker?_eq_some_iff.mp found
  refine ⟨c, mark ++ body, rfl, fun same => ?_, fun same => ?_⟩
  · rw [same] at blank
    exact absurd blank (by decide)
  · rw [same] at blank
    exact absurd blank (by decide)

/-- The value of a comment is written like any comment. -/
theorem Markup.write_value_comment {forest : Forest} {id : NodeId} {words : Text}
    (here : forest.content? id = some (.comment words)) (around : Surroundings) :
    write around (forest.value id) = "<!--".toList ++ (words ++ "-->".toList) := by
  have content := forest.content_value id
  rw [here, Option.getD_some] at content
  cases value : forest.value id with
  | node mark inside children =>
    rw [value] at content
    cases content
    exact write_comment around mark words children

namespace Localizer

/-- **What becomes of directives in markup.** A text with directives that belongs to a node
is localized, and its directives come to stand in a comment right after it. Written and read
again, with anything behind it, the comment is what it was just if it is lasting. If it is
not because an end of a comment stands in it, the part before that is read as the comment,
and the part behind it is read like any other markup. -/
theorem localizeText_comment (localizer : Localizer) (source : Text) {document : Document}
    {node parent : NodeId} {text : Text} (wellFormed : document.forest.WellFormed)
    (above : document.forest.parent? node = some parent)
    (spoken : document.forest.text? node = some text)
    (present : (Directives.read text).present = true) :
    ∃ after outcome comment tail,
      localizer.localizeText document node source = .ok (after, outcome) ∧
      (Directives.read text).tail? text = some tail ∧
      after.forest.nextSibling? node = some comment ∧
      after.forest.content? comment = some (.comment tail) ∧
      ∀ around rest,
        (next (unifyLineEnds (write around (after.forest.value comment) ++ rest)) =
          ([.comment tail], unifyLineEnds rest) ↔ Lasting tail) ∧
        ∀ front back, tail = front ++ "-->".toList ++ back → Lasting front →
          next (unifyLineEnds (write around (after.forest.value comment) ++ rest)) =
            ([.comment front], unifyLineEnds (back ++ "-->".toList ++ rest)) := by
  obtain ⟨start, begins⟩ := Directives.exists_start present
  obtain ⟨_, _, _, marked⟩ := Directives.read_tail begins
  have cut : (Directives.read text).tail? text = some (text.drop start) := by
    rw [Directives.tail?, begins, Option.map_some]
  have moves : (Reading.of text (document.forest.carrierText? node)).tail?
      = some (text.drop start) := by
    rw [Reading.of_of_present present, cut]
  have read : document.forest.reading? node
      = some (Reading.of text (document.forest.carrierText? node)) := congrArg (Option.map _) spoken
  obtain ⟨after, done, forest⟩ := localizer.localizeText_of_reading? document node source read
  obtain ⟨written, alike, _, ⟨stays, _⟩ | ⟨tail, same, ⟨loose, _⟩ | ⟨_, _, _, _, placed⟩⟩⟩ :=
    Forest.localize_cases (localizer.counterpart? source) wellFormed spoken
  · rw [moves] at stays
    cases stays
  · rw [above] at loose
    cases loose
  · cases moves.symm.trans same
    rw [← forest] at placed
    have here : after.forest.content? written.size = some (.comment (text.drop start)) :=
      (placed.content? written.size).trans (if_pos rfl)
    refine ⟨after, _, written.size, text.drop start, done, cut,
      placed.nextSibling?_node (alike.wellFormed wellFormed), here, fun around rest => ?_⟩
    generalize text.drop start = tail at marked here
    obtain ⟨c, more, rfl, plain, unhyphened⟩ := Directive.exists_cons_of_startsWithMarker marked
    rw [write_value_comment here around]
    exact ⟨next_comment_iff_lasting more plain unhyphened rest, fun front back split lasting =>
      next_comment_of_split plain unhyphened split lasting rest⟩

/-- A localizer with nothing to say. -/
def speechless : Localizer where
  watch := ⟨0, 0, 1⟩
  htmlLanguage := ['e']
  catalog := .ofList []
  fallback? := none
  detection := ⟨[], [], [], [], [], []⟩
  language := ['e']
  textCalls := 0
  nodeCalls := 0
  passes := 0
  lastPass := .zero

/-- A value that contains markup, but no end of a comment, comes back as the comment that it
was written as. -/
theorem localizeText_comment_bold :
    let document := Document.ofForest (Forest.ofTrees
      [.node () (.element ⟨.html, ['p']⟩ []) [.node () (.text "a I18N_D x=<b>".toList) []]]).1
    ∃ after comment,
      speechless.localizeText document 2 ['e'] = .ok (after, .missed) ∧
      after.forest.nextSibling? 2 = some comment ∧
      next (unifyLineEnds (write .top (after.forest.value comment) ++ "</p>".toList)) =
        ([.comment " I18N_D x=<b>".toList], "</p>".toList) := by
  intro document
  have orderly : document.forest.Orderly := by decide
  have above : document.forest.parent? 2 = some 1 := by decide
  have spoken : document.forest.text? 2 = some "a I18N_D x=<b>".toList := by decide
  obtain ⟨after, outcome, comment, tail, done, cut, next, _, comesBack⟩ :=
    localizeText_comment speechless ['e'] orderly.wellFormed above spoken (by decide)
  have becomes : (speechless.localizeText document 2 ['e']).toOption.map Prod.snd
      = some .missed := by decide
  rw [done, Except.toOption, Option.map_some, Option.some.injEq] at becomes
  cases becomes
  cases cut.symm.trans (by decide : _ = some " I18N_D x=<b>".toList)
  exact ⟨after, comment, done, next, (comesBack .top "</p>".toList).1.mpr (by decide)⟩

end Localizer

namespace Webpage

/-- A page with a text in which some markup is escaped, with an end of a comment before it. -/
def escaped : Bytes :=
  Utf8.encode "<p>Hi I18N_D x=--&gt;&lt;b&gt;!&lt;/b&gt;</p>".toList

/-- The page that is escaped has no bold element, but the localized page has one: the value
was moved into a comment as it stands, and the comment ends where the value says so. -/
theorem localize_escaped :
    let tokens := fun bytes => Token.scan (Encoding.decodeLabeled defaultEncoding bytes)
    (tokens escaped).contains (.opens ['b'] []) = false ∧
      ((localize escaped (.ofList [(['e'], [['a']])])
        ⟨some ['e'], some ['e'], none, none, ⟨[], [], [], [], [], []⟩⟩).toOption.map fun page =>
          (page.encoding, (tokens page.data).contains (.comment " I18N_D x=".toList),
            (tokens page.data).contains (.opens ['b'] [])))
        = some (defaultEncoding, true, true) := by
  decide +kernel

end Webpage

end Polyglot
