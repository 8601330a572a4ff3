import Polyglot.Detection.Detect
import Polyglot.Document.Edit
import Polyglot.Localizer.Reading
import Polyglot.Localizer.Watch

/-!
# Localizers

A localizer keeps a subtree of a document in one language of its catalog.  When
it is attached it localizes all texts below its node; from then on it watches
the subtree and localizes what others write into it, and it can be asked to
change the language.  Its own edits are made while its watch is suspended, so
that it never hears of them.

`localizeText` is the one place where a localizer edits a document.
-/

set_option autoImplicit false

namespace Polyglot

/-- How a pass over a subtree went. -/
structure PassStats where
  visited : Nat
  localized : Nat
  missed : Nat
  ignored : Nat
  failed : Nat
  deriving DecidableEq, Repr, Inhabited

namespace PassStats

/-- The pass that visited nothing. -/
def zero : PassStats := ⟨0, 0, 0, 0, 0⟩

/-- A pass with one more text, of which it is known what became of it. -/
def add (stats : PassStats) : Outcome → PassStats
  | .localized => { stats with visited := stats.visited + 1, localized := stats.localized + 1 }
  | .missed => { stats with visited := stats.visited + 1, missed := stats.missed + 1 }
  | .ignored => { stats with visited := stats.visited + 1, ignored := stats.ignored + 1 }

/-- A pass with one more text that could not be localized. -/
def addFailure (stats : PassStats) : PassStats :=
  { stats with visited := stats.visited + 1, failed := stats.failed + 1 }

end PassStats

/-- What a localizer is made from; what is missing has a default. -/
structure LocalizerOptions where
  /-- The node whose subtree is kept, the body by default. -/
  target? : Option NodeId
  /-- The language that the texts are written in, by default the one that the
  document declares, or else English. -/
  htmlLanguage? : Option Text
  catalog : Catalog
  /-- The language to begin with, by default the one that is detected. -/
  language? : Option Text
  /-- The language for those that the catalog lacks, by default its first one. -/
  fallback? : Option Text
  detection : DetectionOptions
  deriving Repr

/-- What keeps a subtree in one language. -/
structure Localizer where
  watch : Watch
  htmlLanguage : Text
  catalog : Catalog
  fallback? : Option Text
  detection : DetectionOptions
  language : Text
  /-- How often it heard of texts. -/
  textCalls : Nat
  /-- How often it heard of nodes. -/
  nodeCalls : Nat
  /-- How many passes it made. -/
  passes : Nat
  lastPass : PassStats
  deriving Repr

namespace Localizer

/-- The language of a document that says nothing else. -/
def defaultHtmlLanguage : Text := "en".toList

/-! ## Languages -/

/-- The language that is taken when one is asked for: that one if the catalog has
it, otherwise the fallback or the first of the catalog. -/
def resolve (localizer : Localizer) (language : Text) : Text :=
  if localizer.catalog.contains language then language
  else (localizer.fallback?.or localizer.catalog.first?).getD []

/-- A localizer with its language set.  Texts stay as they are. -/
def setLanguage (localizer : Localizer) (language : Text) : Localizer :=
  { localizer with language := localizer.resolve language }

/-- A localizer with its language set, and the host in which that is kept. -/
def keepLanguage (localizer : Localizer) (host : Host) (language : Text) : Localizer × Host :=
  let localizer := localizer.setLanguage language
  (localizer, host.keep localizer.language localizer.detection)

/-! ## Texts -/

/-- The counterpart, in the language of a localizer, of a phrase in another. -/
def counterpart? (localizer : Localizer) (source phrase : Text) : Option Text :=
  localizer.catalog.counterpart? source localizer.language phrase

/-- The comment after a text, if there is a directive in it. -/
def carrier? (forest : Forest) (node : NodeId) : Option NodeId :=
  (forest.nextSibling? node).filter fun sibling =>
    (forest.comment? sibling).any Directive.hasMarker

/-- A document in which the directives of a text have moved into the comment
after it. -/
def placeCarrier (document : Document) (node : NodeId) (carrier? : Option NodeId) (tail : Text) :
    Document :=
  let (document, comment) := document.addNode (.comment tail)
  match carrier? with
  | some previous => (document.replace previous comment).1
  | none => (document.insertAfter node comment).1

/-- A document in which a text written in a source language is localized, and what
became of it.  The text is set only if that changes it. -/
def localizeText (localizer : Localizer) (document : Document) (node : NodeId) (source : Text) :
    Except Problem (Document × Outcome) :=
  match document.forest.text? node with
  | none => .error .notATextNode
  | some text =>
    let carrier? := carrier? document.forest node
    let reading := Reading.of text (carrier?.bind document.forest.comment?)
    let (result, outcome) := reading.localized (localizer.counterpart? source)
    let document := if result = text then document else (document.setText node result).1
    match reading.tail? with
    | none => .ok (document, outcome)
    | some tail => .ok (placeCarrier document node carrier? tail, outcome)

/-! ## Passes -/

/-- A document in which one more text of a pass is localized. -/
def visit (localizer : Localizer) (source : Text) (state : Document × PassStats) (node : NodeId) :
    Document × PassStats :=
  match localizer.localizeText state.1 node source with
  | .ok (document, outcome) => (document, state.2.add outcome)
  | .error _ => (state.1, state.2.addFailure)

/-- A document in which texts are localized in order, and how that went. -/
def visitAll (localizer : Localizer) (source : Text) (document : Document) (nodes : List NodeId) :
    Document × PassStats :=
  nodes.foldl (localizer.visit source) (document, .zero)

/-- A pass: all texts that are below a node when it begins are localized. -/
def localizeTree (localizer : Localizer) (document : Document) (root : NodeId) (source : Text) :
    Localizer × Document × PassStats :=
  let (document, stats) := localizer.visitAll source document (document.forest.textNodes root)
  ({ localizer with passes := localizer.passes + 1, lastPass := stats }, document, stats)

/-- A pass that the localizer does not hear of. -/
def localizeTreeUnheard (localizer : Localizer) (document : Document) (root : NodeId)
    (source : Text) : Localizer × Document × PassStats :=
  let (document, suspension) := localizer.watch.suspend document
  let (localizer, document, stats) := localizer.localizeTree document root source
  (localizer, localizer.watch.resume suspension document, stats)

/-- One text localized without the localizer hearing of it; where it cannot be
localized, the watch has been suspended all the same. -/
def localizeTextUnheard (localizer : Localizer) (document : Document) (node : NodeId)
    (source : Text) : Document × Except Problem Outcome :=
  let (document, suspension) := localizer.watch.suspend document
  match localizer.localizeText document node source with
  | .ok (document, outcome) => (localizer.watch.resume suspension document, .ok outcome)
  | .error problem => (localizer.watch.resume suspension document, .error problem)

/-! ## Hearing of changes -/

/-- Whether a node is in the subtree of a localizer. -/
def covers (localizer : Localizer) (document : Document) (node : NodeId) : Bool :=
  document.forest.isInclusiveAncestor localizer.watch.target node

/-- A document in which a text is localized, if it can be. -/
def localizeIfText (localizer : Localizer) (document : Document) (node : NodeId) : Document :=
  match localizer.localizeText document node localizer.htmlLanguage with
  | .ok (document, _) => document
  | .error _ => document

/-- A document in which a text that was changed is localized anew, unless it has
left the subtree. -/
def hearText (localizer : Localizer) (document : Document) (change : Change) : Document :=
  if change.isText && localizer.covers document change.target then
    localizer.localizeIfText document change.target
  else document

/-- What follows from changes of texts. -/
def hearTexts (localizer : Localizer) (document : Document) (changes : List Change) :
    Localizer × Document :=
  let (document, suspension) := localizer.watch.suspend document
  let document := changes.foldl localizer.hearText document
  ({ localizer with textCalls := localizer.textCalls + 1 },
    localizer.watch.resume suspension document)

/-- What follows from a node that came, unless it has left the subtree. -/
def hearNode (state : Localizer × Document) (node : NodeId) : Localizer × Document :=
  let (localizer, document) := state
  if localizer.covers document node then
    if (document.forest.text? node).isSome then
      (localizer, localizer.localizeIfText document node)
    else
      let (localizer, document, _) := localizer.localizeTree document node localizer.htmlLanguage
      (localizer, document)
  else (localizer, document)

/-- What follows from nodes that came and left. -/
def hearNodes (localizer : Localizer) (document : Document) (changes : List Change) :
    Localizer × Document :=
  let (document, suspension) := localizer.watch.suspend document
  let (localizer, document) := (changes.flatMap Change.added).foldl hearNode (localizer, document)
  ({ localizer with nodeCalls := localizer.nodeCalls + 1 },
    localizer.watch.resume suspension document)

/-! ## Attaching and changing the language -/

/-- The language that the texts of a document are written in. -/
def writtenLanguage (forest : Forest) (given? : Option Text) : Text :=
  ((given?.filter fun language => !language.isEmpty).or forest.declaredLanguage?).getD
    defaultHtmlLanguage

/-- The language to begin with, as it is asked for. -/
def requestedLanguage (forest : Forest) (host : Host) (options : LocalizerOptions) : Text :=
  ((options.language?.filter fun language => !language.isEmpty).or
    (host.detect? forest.declaredLanguage? options.detection)).getD []

/-- A localizer that has done nothing yet, and the document with its observers. -/
def create (document : Document) (host : Host) (options : LocalizerOptions) :
    Localizer × Document :=
  let forest := document.forest
  let (document, watch) := Watch.new document (options.target?.getD forest.body)
  let localizer : Localizer :=
    { watch := watch
      htmlLanguage := writtenLanguage forest options.htmlLanguage?
      catalog := options.catalog
      fallback? := options.fallback?.filter options.catalog.contains
      detection := options.detection
      language := []
      textCalls := 0
      nodeCalls := 0
      passes := 0
      lastPass := .zero }
  (localizer.setLanguage (requestedLanguage forest host options), document)

/-- A localizer that has localized its subtree once and watches it, and the
document after that. -/
def attach (document : Document) (host : Host) (options : LocalizerOptions) :
    Except Problem (Localizer × Document) := do
  options.catalog.validate
  let (localizer, document) := create document host options
  let (localizer, document, _) :=
    localizer.localizeTreeUnheard document localizer.watch.target localizer.htmlLanguage
  return (localizer, localizer.watch.start document)

/-- A localizer after a change of language, with the document and the host after
it and how the pass went.  The texts are in the language that was in use, so that
is what the pass starts from.  If the localizer is asked for the language that is in
use, or is to take it, everything stays the same. -/
def changeLanguage (localizer : Localizer) (document : Document) (host : Host) (language : Text) :
    Localizer × Document × Host × PassStats :=
  let source := localizer.language
  if language = source ∨ localizer.resolve language = source then
    (localizer, document, host, .zero)
  else
    let (localizer, host) := localizer.keepLanguage host language
    let (localizer, document, stats) :=
      localizer.localizeTreeUnheard document localizer.watch.target source
    (localizer, document, host, stats)

theorem resolve_of_contains {localizer : Localizer} {language : Text}
    (known : localizer.catalog.contains language = true) :
    localizer.resolve language = language :=
  if_pos known

/-- A localizer that is in a language of its catalog stays in it just if that is the language that
is taken; that it is asked for this very language is a case of that. -/
theorem stays_iff_of_contains {localizer : Localizer} {language : Text}
    (known : localizer.catalog.contains localizer.language = true) :
    language = localizer.language ∨ localizer.resolve language = localizer.language ↔
      localizer.resolve language = localizer.language :=
  or_iff_right_of_imp fun same => (congrArg localizer.resolve same).trans (resolve_of_contains known)

/-- Whether both observers of a localizer are at work. -/
def isWatching (localizer : Localizer) (document : Document) : Bool :=
  localizer.watch.watchesTexts document && localizer.watch.watchesNodes document

end Localizer

end Polyglot
