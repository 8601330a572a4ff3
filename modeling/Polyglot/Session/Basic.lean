import Polyglot.Encoding.Encode
import Polyglot.Markup.Writer
import Polyglot.Session.Step
import Polyglot.Text.Literal
import Polyglot.Webpage.Charset

/-!
# The state of a session

A session has a document and a host, and keeps by name what was made in it:
nodes, observers, watches with their suspensions, and localizers.  A name can
pass from one node to another; a node goes on showing the last name that it was
given.  An observer stays in the session for as long as somebody may call it,
even when its name has gone.
-/

set_option autoImplicit false

namespace Polyglot

namespace Session

/-! ## Things by name -/

/-- Things by name. -/
abbrev Named (α : Type) : Type := List (Text × α)

namespace Named

variable {α : Type}

/-- Things without the one of a name. -/
def erase (things : Named α) (name : Text) : Named α :=
  things.filter fun thing => thing.1 != name

/-- Things with the one of a name set. -/
def put (things : Named α) (name : Text) (thing : α) : Named α :=
  (name, thing) :: things.erase name

/-- Things with the one of a name changed. -/
def modify (things : Named α) (name : Text) (change : α → α) : Named α :=
  things.map fun (other, thing) => if other = name then (other, change thing) else (other, thing)

end Named

/-- An observer that was made in the session. -/
structure ScriptedObserver where
  id : ObserverId
  name : Text
  scripts : List (Option (List Step))
  /-- How often it has been called. -/
  calls : Nat

end Session

/-- The state of a session. -/
structure Session where
  document : Document
  host : Host
  /-- The nodes that names stand for. -/
  nodes : Session.Named NodeId
  /-- The names that nodes show. -/
  shown : List (NodeId × Text)
  scripted : List Session.ScriptedObserver
  observers : Session.Named ObserverId
  watches : Session.Named Watch
  suspensions : Session.Named (Watch × Suspension)
  localizers : Session.Named Localizer
  /-- The calls of the observers of the session. -/
  log : List Session.Call
  /-- Whether the calendar did not reach as far as it was asked to. -/
  overflowed : Bool

namespace Session

/-! ## Names of nodes -/

/-- A session in which a node has a name. -/
def nameNode (session : Session) (name : Text) (node : NodeId) : Session :=
  { session with
    nodes := session.nodes.put name node
    shown := (node, name) :: session.shown.filter fun entry => entry.1 != node }

/-- A session in which the nodes of marks have their names. -/
def nameMarked (session : Session) (marks : List (Option Text × NodeId)) : Session :=
  marks.foldl (fun session (name?, node) => match name? with
    | some name => session.nameNode name node
    | none => session) session

/-- The node at the end of a way. -/
def follow? (forest : Forest) (node : NodeId) : List Nat → Option NodeId
  | [] => some node
  | index :: rest =>
    match (forest.children node)[index]? with
    | some child => follow? forest child rest
    | none => none

/-- The node that a step refers to. -/
def node? (session : Session) : Ref → Option NodeId
  | .named name => session.nodes.lookup name
  | .path indexes => follow? session.document.forest Forest.root indexes

/-! ## Showing nodes -/

/-- The label of a node. -/
def label (session : Session) (node : NodeId) : Label :=
  match session.shown.lookup node with
  | some name => .named name
  | none =>
    match session.document.forest.content? node with
    | some (.text text) => .text text
    | some (.comment text) => .comment text
    | some (.element name _) => .element name.tag
    | _ => .other

/-- The label of a node that may not be there. -/
def label? (session : Session) (node? : Option NodeId) : Option Label :=
  node?.map session.label

/-- A change with labels. -/
def report (session : Session) (change : Change) : Report where
  isText := change.isText
  target := some (session.label change.target)
  added := change.added.map fun node => some (session.label node)
  removed := change.removed.map fun node => some (session.label node)
  old? := change.old?

/-- The tree below a node, with the names that its nodes show. -/
def treeAt (session : Session) (node : NodeId) : Tree (Option Text) :=
  session.document.forest.treeAt (fun id => session.shown.lookup id) node

/-- What is below a node, as markup in the encoding of a label. -/
def markup (session : Session) (node : NodeId) (encoding : Text) : Bytes :=
  Encoding.encodeLabeled encoding (Markup.writeChildren (session.treeAt node))

/-- The texts of the document in order, each with the comment directly after it. -/
def texts (session : Session) : List (Text × Option Text) :=
  let forest := session.document.forest
  (forest.textNodes Forest.root).map fun node =>
    ((forest.text? node).getD [], (forest.nextSibling? node).bind forest.comment?)

/-! ## Descriptions -/

/-- A record with its fields, in one line. -/
def describeRecord (name : String) (fields : List (String × Text)) : Text :=
  name.toList ++ ' ' :: '\x7b' :: ' ' ::
    Text.joined [',', ' '] (fields.map fun (field, value) => field.toList ++ ':' :: ' ' :: value)
    ++ [' ', '\x7d']

/-- A change in one line. -/
def describeChange (change : Change) : Text :=
  describeRecord "MutationRecord" [
    ("kind", if change.isText then "CharacterData".toList else "ChildList".toList),
    ("added_nodes", Text.ofNat change.added.length),
    ("removed_nodes", Text.ofNat change.removed.length),
    ("old_value", match change.old? with
      | some old => "Some(".toList ++ Text.literal old ++ [')']
      | none => "None".toList)]

/-- Several changes in one line. -/
def describeChanges (changes : List Change) : Text :=
  '[' :: Text.joined [',', ' '] (changes.map describeChange) ++ [']']

/-- An observer in one line. -/
def describeObserver (session : Session) (id : ObserverId) : Text :=
  describeRecord "MutationObserver" [
    ("id", Text.ofNat id),
    ("pending", Text.ofNat (session.document.queue id).length)]

/-- A localizer as it shows itself. -/
def viewLocalizer (session : Session) (localizer : Localizer) : LocalizerView where
  language := localizer.language
  htmlLanguage := localizer.htmlLanguage
  target := some (session.label localizer.watch.target)
  watching := localizer.isWatching session.document
  languages := localizer.catalog.languages
  caches := localizer.detection.caches
  lastPass := localizer.lastPass
  textCalls := localizer.textCalls
  nodeCalls := localizer.nodeCalls
  passes := localizer.passes

end Session

/-- A host as it shows itself under the keys of some options. -/
def Host.view (host : Host) (options : DetectionOptions) : Session.HostView where
  location := host.location.write
  cookies := host.cookieLine
  localItem? := host.localStorage.get? options.localStorage
  sessionItem? := host.sessionStorage.get? options.sessionStorage

namespace Session

/-! ## Beginning -/

/-- A session with a document of given trees below the document node and further
trees that are loose; marks name their nodes.  The document node, the document
element and the body have names from the start. -/
def ofTrees (trees detached : List (Tree (Option Text))) (host : Host) : Session :=
  let (forest, marks) := Forest.ofTrees trees
  let (forest, marks) := detached.foldl (fun (forest, marks) tree =>
    let (forest, _, more) := forest.graft tree
    (forest, marks ++ more)) (forest, marks)
  let fresh : Session :=
    { document := .ofForest forest
      host := host
      nodes := []
      shown := []
      scripted := []
      observers := []
      watches := []
      suspensions := []
      localizers := []
      log := []
      overflowed := false }
  let session := fresh.nameNode "root".toList Forest.root
  let session := match forest.documentElement? with
    | some element => session.nameNode "html".toList element
    | none => session
  let session :=
    if forest.body = Forest.root then session else session.nameNode "body".toList forest.body
  session.nameMarked marks

end Session

end Polyglot
