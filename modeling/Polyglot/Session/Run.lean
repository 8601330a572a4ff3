import Polyglot.Document.Delivery
import Polyglot.Session.Basic

/-!
# Running a session

`Session.perform` takes one step and answers it.  A delivery calls the observers
of the session, whose scripts are steps again, and the localizers.  The steps of
a script are taken while a delivery is under way, so a delivery asked for by one
of them does nothing; that is why `perform` takes the meaning of a delivery as
an argument and needs no recursion.
-/

set_option autoImplicit false

namespace Polyglot.Session

/-! ## Edits -/

/-- A session with its document exchanged. -/
def withDocument (session : Session) (document : Document) : Session :=
  { session with document := document }

/-- A session after an edit, and whether it was carried out. -/
def edited (session : Session) (result : Document × Bool) : Session × Answer :=
  (session.withDocument result.1, .flag result.2)

/-- A session with one more loose node that has a name. -/
def create (session : Session) (name : Text) (content : Content) : Session × Answer :=
  let (document, node) := session.document.addNode content
  ((session.withDocument document).nameNode name node, .nothing)

/-- Whether a node would come to be below itself if it were put into a parent. -/
def makesCycle (session : Session) (parent node : NodeId) : Bool :=
  session.document.forest.isInclusiveAncestor node parent

/-- Whether a node would come to be below itself if it were put beside another. -/
def makesCycleBeside (session : Session) (sibling node : NodeId) : Bool :=
  (session.document.forest.parent? sibling).any fun parent => session.makesCycle parent node

/-- A session after a node was put into a parent. -/
def appendNode (session : Session) (parent node : NodeId) : Session × Answer :=
  if session.makesCycle parent node then (session, .cycle)
  else (session.withDocument (session.document.append parent node), .nothing)

/-- A session after a node was put behind another. -/
def insertNodeAfter (session : Session) (reference node : NodeId) : Session × Answer :=
  if session.makesCycleBeside reference node then (session, .cycle)
  else session.edited (session.document.insertAfter reference node)

/-- A session after a node was put in the place of another. -/
def replaceNode (session : Session) (old node : NodeId) : Session × Answer :=
  if old != node && session.makesCycleBeside old node then (session, .cycle)
  else session.edited (session.document.replace old node)

/-! ## Questions -/

/-- The answer to a question about a node. -/
def answer (session : Session) (node : NodeId) : Question → Answer
  | .text => .text (session.document.forest.text? node)
  | .comment => .text (session.document.forest.comment? node)
  | .name => .text (session.document.forest.elementName? node)
  | .attributeOf name => .text (session.document.forest.attribute? node name)
  | .charset => .text (session.document.forest.declaredCharset? node)
  | .parent => .label (session.label? (session.document.forest.parent? node))
  | .next => .label (session.label? (session.document.forest.nextSibling? node))
  | .child tag => .label (session.label? (session.document.forest.childNamed? node tag))
  | .index child =>
    match session.node? child with
    | none => .noNode "child".toList
    | some child =>
      match session.document.forest.indexOf? node child with
      | some index => .count index
      | none => .nothing
  | .contains inner =>
    match session.node? inner with
    | none => .noNode "child".toList
    | some inner => .flag (session.document.forest.isInclusiveAncestor node inner)
  | .texts =>
    .labels ((session.document.forest.textNodes node).map fun text => some (session.label text))
  | .tree => .tree (session.treeAt node)
  | .markup encoding => .bytes (session.markup node encoding)

/-! ## Observers -/

/-- A session with one more observer, which is called by a name. -/
def addScripted (session : Session) (name : Text) (scripts : List (Option (List Step))) :
    Session × ObserverId :=
  let (document, id) := session.document.addObserver
  ({ session with
      document := document
      scripted := ⟨id, name, scripts, 0⟩ :: session.scripted }, id)

/-- A session without the observer of a name, and whether there was one. -/
def dropObserver (session : Session) (name : Text) : Session × Bool :=
  match session.observers.lookup name with
  | none => (session, false)
  | some id =>
    ({ session with
        document := session.document.release id
        observers := session.observers.erase name }, true)

/-- A session with a new observer under a name; one that had the name before is
dropped after it is made. -/
def makeObserver (session : Session) (name : Text) (scripts : List (Option (List Step))) :
    Session :=
  let (session, id) := session.addScripted name scripts
  let session := (session.dropObserver name).1
  { session with observers := session.observers.put name id }

/-- The answer of a step on an observer. -/
def onObserver (session : Session) (name : Text)
    (act : ObserverId → Session × Answer) : Session × Answer :=
  match session.observers.lookup name with
  | none => (session, .noObserver)
  | some id => act id

/-- The answer of a step that takes what an observer has yet to hear of. -/
def taking (session : Session) (name : Text) (show_ : List Change → Answer) : Session × Answer :=
  session.onObserver name fun id =>
    let (document, changes) := session.document.takeChanges id
    (session.withDocument document, show_ changes)

/-! ## Watches -/

/-- The observers that are at work after a command. -/
def command (watch : Watch) (document : Document) : WatchCommand → Document
  | .startTexts => watch.startTexts document
  | .stopTexts => watch.stopTexts document
  | .startNodes => watch.startNodes document
  | .stopNodes => watch.stopNodes document
  | .start => watch.start document
  | .stop => watch.stop document
  | .nothing => document

/-- Which observers of a watch are at work. -/
def watchFlags (session : Session) (watch : Watch) : Answer :=
  .flags (watch.watchesTexts session.document) (watch.watchesNodes session.document)

/-- Whether a watch is still held: by its name or by a suspension. -/
def holdsWatch (session : Session) (watch : Watch) : Bool :=
  session.watches.any (·.2 == watch) || session.suspensions.any (·.2.1 == watch)

/-- A session in which a watch is released if it is not held any more. -/
def releaseUnheld (session : Session) (watch : Watch) : Session :=
  if session.holdsWatch watch then session
  else session.withDocument (watch.release session.document)

/-- The name of one of the observers of a watch. -/
def partName (name : Text) (part : String) : Text :=
  name ++ '.' :: part.toList

/-- A session with a new watch under a name. -/
def makeWatch (session : Session) (name : Text) (target : NodeId)
    (texts nodes : List (Option (List Step))) : Session :=
  let (session, textsId) := session.addScripted (partName name "text") texts
  let (session, nodesId) := session.addScripted (partName name "node") nodes
  let former? := session.watches.lookup name
  let session := { session with watches := session.watches.put name ⟨target, textsId, nodesId⟩ }
  match former? with
  | some former => session.releaseUnheld former
  | none => session

/-- A session in which the watch of a suspension is at work again. -/
def resumeHeld (session : Session) (held : Watch × Suspension) : Session :=
  (session.withDocument (held.1.resume held.2 session.document)).releaseUnheld held.1

/-- A session without the suspension of a name, and whether there was one. -/
def resume (session : Session) (name : Text) : Session × Bool :=
  match session.suspensions.lookup name with
  | none => (session, false)
  | some held =>
    ({ session with suspensions := session.suspensions.erase name }.resumeHeld held, true)

/-- A session in which a watch is suspended under a name; a suspension that had the
name before ends after that. -/
def suspend (session : Session) (watch : Watch) (name : Text) : Session :=
  let (document, suspension) := watch.suspend session.document
  let former? := session.suspensions.lookup name
  let session :=
    { session with
      document := document
      suspensions := session.suspensions.put name (watch, suspension) }
  match former? with
  | some former => session.resumeHeld former
  | none => session

/-! ## Localizers -/

/-- The options of detection that a setting gives, the default ones without it. -/
def detectionOf? : Option Setting → Option DetectionOptions
  | none => some .default
  | some setting => DetectionOptions.read? setting

/-- A session without the localizer of a name, and whether there was one. -/
def dropLocalizer (session : Session) (name : Text) : Session × Bool :=
  match session.localizers.lookup name with
  | none => (session, false)
  | some localizer =>
    ({ session with
        document := localizer.watch.release session.document
        localizers := session.localizers.erase name }, true)

/-- A session with a new localizer under a name; one that had the name before is
dropped after that. -/
def attachWith (session : Session) (name : Text) (options : LocalizerOptions) : Session × Answer :=
  match Localizer.attach session.document session.host options with
  | .error problem => (session, .problem problem)
  | .ok (localizer, document) =>
    let session := ((session.withDocument document).dropLocalizer name).1
    let session := { session with localizers := session.localizers.put name localizer }
    (session, .localizer (session.viewLocalizer localizer))

/-- A session after a request for a localizer. -/
def attach (session : Session) (name : Text) (request : LocalizerRequest) : Session × Answer :=
  let attachAt (target? : Option NodeId) : Session × Answer :=
    match request.catalog.read, detectionOf? request.detection? with
    | .error problem, _ => (session, .problem problem)
    | .ok _, none => (session, .badOptions)
    | .ok catalog, some detection =>
      session.attachWith name
        { target? := target?
          htmlLanguage? := request.htmlLanguage?
          catalog := catalog
          language? := request.language?
          fallback? := request.fallback?
          detection := detection }
  match request.target? with
  | none => attachAt none
  | some ref =>
    match session.node? ref with
    | some target => attachAt (some target)
    | none => (session, .noNode "node".toList)

/-- The answer of a step on a localizer. -/
def onLocalizer (session : Session) (name : Text) (act : Localizer → Session × Answer) :
    Session × Answer :=
  match session.localizers.lookup name with
  | none => (session, .noLocalizer)
  | some localizer => act localizer

/-- A session in which a localizer has a new state. -/
def putLocalizer (session : Session) (name : Text) (localizer : Localizer) : Session :=
  { session with localizers := session.localizers.modify name fun _ => localizer }

/-! ## Steps -/

/-- The answer of a step on a node. -/
def onNode (session : Session) (field : String) (ref : Ref) (act : NodeId → Session × Answer) :
    Session × Answer :=
  match session.node? ref with
  | none => (session, .noNode field.toList)
  | some node => act node

/-- The session after a step, and the answer, where a delivery has a given meaning. -/
def performWith (deliver : Session → Session × Nat) (session : Session) : Step → Session × Answer
  | .createText name text => session.create name (.text text)
  | .createComment name text => session.create name (.comment text)
  | .createElement name tag => session.create name (.element ⟨.plain, tag⟩ [])
  | .nameNode name ref =>
    session.onNode "node" ref fun node => (session.nameNode name node, .nothing)
  | .setText ref text =>
    session.onNode "node" ref fun node => session.edited (session.document.setText node text)
  | .append parent ref =>
    session.onNode "parent" parent fun parent =>
      session.onNode "node" ref fun node => session.appendNode parent node
  | .insertAfter reference ref =>
    session.onNode "ref" reference fun reference =>
      session.onNode "node" ref fun node => session.insertNodeAfter reference node
  | .replace old ref =>
    session.onNode "old" old fun old =>
      session.onNode "node" ref fun node => session.replaceNode old node
  | .remove ref =>
    session.onNode "node" ref fun node => session.edited (session.document.remove node)
  | .deliver =>
    let (session, calls) := deliver session
    (session, .count calls)
  | .hasPending => (session, .flag session.document.hasPending)
  | .parts =>
    let forest := session.document.forest
    (session, .parts (session.label? forest.documentElement?) (some (session.label forest.body))
      forest.declaredLanguage?)
  | .ask ref question =>
    session.onNode "node" ref fun node => (session, session.answer node question)
  | .makeObserver name scripts => (session.makeObserver name scripts, .nothing)
  | .observe name ref interest =>
    session.onObserver name fun id =>
      session.onNode "node" ref fun node =>
        let document := session.document.observe id node interest
        (session.withDocument document, .flag (document.isObserving id))
  | .disconnect name =>
    session.onObserver name fun id =>
      let document := session.document.disconnect id
      (session.withDocument document, .flag (document.isObserving id))
  | .isObserving name =>
    session.onObserver name fun id => (session, .flag (session.document.isObserving id))
  | .takeChanges name =>
    session.taking name fun changes => .reports (changes.map session.report)
  | .describeChanges name =>
    session.taking name fun changes => .text (some (describeChanges changes))
  | .describeObserver name =>
    session.onObserver name fun id => (session, .text (some (session.describeObserver id)))
  | .dropObserver name =>
    let (session, found) := session.dropObserver name
    (session, .flag found)
  | .makeWatch name ref texts nodes =>
    session.onNode "node" ref fun node => (session.makeWatch name node texts nodes, .nothing)
  | .commandWatch name act =>
    match session.watches.lookup name with
    | none => (session, .noWatch)
    | some watch =>
      let session := session.withDocument (command watch session.document act)
      (session, session.watchFlags watch)
  | .suspend name suspension =>
    match session.watches.lookup name with
    | none => (session, .noWatch)
    | some watch =>
      let session := session.suspend watch suspension
      (session, session.watchFlags watch)
  | .resume suspension =>
    let (session, found) := session.resume suspension
    (session, .flag found)
  | .attach name request => session.attach name request
  | .changeLanguage name language =>
    session.onLocalizer name fun localizer =>
      let (localizer, document, host, stats) :=
        localizer.changeLanguage session.document session.host language
      ({ session.putLocalizer name localizer with document := document, host := host },
        .stats stats)
  | .setLanguage name language keep =>
    session.onLocalizer name fun localizer =>
      let (localizer, host) :=
        if keep then localizer.keepLanguage session.host language
        else (localizer.setLanguage language, session.host)
      ({ session.putLocalizer name localizer with host := host },
        .text (some localizer.language))
  | .localizeText name ref source =>
    session.onLocalizer name fun localizer =>
      session.onNode "node" ref fun node =>
        let (document, result) := localizer.localizeTextUnheard session.document node source
        (session.withDocument document,
          match result with
          | .ok outcome => .outcome outcome
          | .error problem => .problem problem)
  | .localizeTree name ref source =>
    session.onLocalizer name fun localizer =>
      session.onNode "node" ref fun node =>
        let (localizer, document, stats) :=
          localizer.localizeTreeUnheard session.document node source
        ((session.putLocalizer name localizer).withDocument document, .stats stats)
  | .localizer name =>
    session.onLocalizer name fun localizer => (session, .localizer (session.viewLocalizer localizer))
  | .commandLocalizer name act =>
    session.onLocalizer name fun localizer =>
      let document := command localizer.watch session.document act
      (session.withDocument document, .flag (localizer.isWatching document))
  | .dropLocalizer name =>
    let (session, found) := session.dropLocalizer name
    (session, .flag found)
  | .accessHost access =>
    match session.host.access? access with
    | some (host, answer?) => ({ session with host := host }, .text answer?)
    | none => ({ session with overflowed := true }, .nothing)
  | .host detection? =>
    match detectionOf? detection? with
    | some options => (session, .host (session.host.view options))
    | none => (session, .badOptions)

/-- The session after several steps, and their answers. -/
def performAllWith (deliver : Session → Session × Nat) (session : Session) :
    List Step → Session × List Answer
  | [] => (session, [])
  | step :: rest =>
    let (session, answer) := performWith deliver session step
    let (session, answers) := performAllWith deliver session rest
    (session, answer :: answers)

/-! ## Calls -/

/-- What a delivery means while another one is under way. -/
def deliverNothing (session : Session) : Session × Nat :=
  (session, 0)

/-- A session after one of its observers was called. -/
def callScripted (session : Session) (observer : ScriptedObserver) (changes : List Change) :
    Session :=
  let reports := changes.map session.report
  let counted := { observer with calls := observer.calls + 1 }
  let session :=
    { session with
      scripted := session.scripted.map fun other =>
        if other.id = observer.id then counted else other }
  match (observer.scripts[observer.calls]?).join with
  | none => { session with log := session.log ++ [⟨observer.name, reports, none⟩] }
  | some steps =>
    let (session, answers) := performAllWith deliverNothing session steps
    { session with log := session.log ++ [⟨observer.name, reports, some answers⟩] }

/-- A session after an observer was called: one of its own, or one of a localizer
that is still there. -/
def call (id : ObserverId) (changes : List Change) (session : Session) : Session :=
  match session.scripted.find? (·.id == id) with
  | some observer => session.callScripted observer changes
  | none =>
    match session.localizers.find? (·.2.watch.texts == id) with
    | some (name, localizer) =>
      let (localizer, document) := localizer.hearTexts session.document changes
      (session.putLocalizer name localizer).withDocument document
    | none =>
      match session.localizers.find? (·.2.watch.nodes == id) with
      | some (name, localizer) =>
        let (localizer, document) := localizer.hearNodes session.document changes
        (session.putLocalizer name localizer).withDocument document
      | none => session

/-- A session as a place where observers are called. -/
def stage : Stage Session where
  document := Session.document
  withDocument := withDocument
  call := call
  passOver := fun _ _ session => session

/-- How many rounds a delivery may take. -/
def roundLimit : Nat := 100000

/-- A session in which everything has been delivered, and the number of calls. -/
def deliver (session : Session) : Session × Nat :=
  (stage.deliver? roundLimit session).getD (session, 0)

/-! ## Runs -/

/-- What is seen of a session after a step. -/
structure Entry where
  answer : Answer
  /-- The calls made during the step. -/
  log : List Call
  pending : Bool
  texts : List (Text × Option Text)

/-- The session after a step, and what is seen of it. -/
def perform (session : Session) (step : Step) : Session × Entry :=
  let (session, answer) := performWith deliver { session with log := [] } step
  (session, ⟨answer, session.log, session.document.hasPending, session.texts⟩)

/-- The session after several steps, and what is seen of it after each. -/
def run (session : Session) : List Step → Session × List Entry
  | [] => (session, [])
  | step :: rest =>
    let (session, entry) := session.perform step
    let (session, entries) := run session rest
    (session, entry :: entries)

end Polyglot.Session
