import Polyglot.Catalog.Json
import Polyglot.Host.Access
import Polyglot.Localizer.Basic

/-!
# What can be done in a session

A session is worked by steps: on the nodes of its document, on observers and
watches, on localizers, and on its host.  Nodes are referred to by the names
that were given to them or by the way that leads to them from the document node.
An observer that is made in a session carries scripts, one for each time that it
is called: the steps to take on that occasion.
-/

set_option autoImplicit false

namespace Polyglot.Session

/-- A node as a step refers to it. -/
inductive Ref where
  | named (name : Text)
  /-- The place among the children at each level, from the document node down. -/
  | path (indexes : List Nat)
  deriving DecidableEq, Repr

/-- A question about a node. -/
inductive Question where
  | text
  | comment
  | name
  | attributeOf (name : Text)
  | charset
  | parent
  | next
  | child (tag : Text)
  | index (child : Ref)
  | contains (node : Ref)
  | texts
  | tree
  | markup (encoding : Text)
  deriving DecidableEq, Repr

/-- What can be done with the observers of a watch. -/
inductive WatchCommand where
  | startTexts
  | stopTexts
  | startNodes
  | stopNodes
  | start
  | stop
  | nothing
  deriving DecidableEq, Repr

/-- How a catalog is given: language by language, or in JSON. -/
inductive CatalogSource where
  | entries (entries : List (Text × List Text))
  | written (text : Text)
  deriving DecidableEq, Repr

/-- The catalog that is given. -/
def CatalogSource.read : CatalogSource → Except Problem Catalog
  | entries added => .ok (Catalog.ofList added)
  | written text => Catalog.read text

/-- What a localizer is to be made from. -/
structure LocalizerRequest where
  target? : Option Ref
  catalog : CatalogSource
  language? : Option Text
  htmlLanguage? : Option Text
  fallback? : Option Text
  detection? : Option Setting

/-- One thing to be done. -/
inductive Step where
  | createText (name text : Text)
  | createComment (name text : Text)
  | createElement (name tag : Text)
  | nameNode (name : Text) (node : Ref)
  | setText (node : Ref) (text : Text)
  | append (parent node : Ref)
  | insertAfter (reference node : Ref)
  | replace (old node : Ref)
  | remove (node : Ref)
  | deliver
  | hasPending
  | parts
  | ask (node : Ref) (question : Question)
  | makeObserver (name : Text) (scripts : List (Option (List Step)))
  | observe (name : Text) (node : Ref) (interest : Interest)
  | disconnect (name : Text)
  | isObserving (name : Text)
  | takeChanges (name : Text)
  | describeChanges (name : Text)
  | describeObserver (name : Text)
  | dropObserver (name : Text)
  | makeWatch (name : Text) (node : Ref) (texts nodes : List (Option (List Step)))
  | commandWatch (name : Text) (command : WatchCommand)
  | suspend (name suspension : Text)
  | resume (suspension : Text)
  | attach (name : Text) (request : LocalizerRequest)
  | changeLanguage (name language : Text)
  | setLanguage (name language : Text) (keep : Bool)
  | localizeText (name : Text) (node : Ref) (source : Text)
  | localizeTree (name : Text) (node : Ref) (source : Text)
  | localizer (name : Text)
  | commandLocalizer (name : Text) (command : WatchCommand)
  | dropLocalizer (name : Text)
  | accessHost (access : HostAccess)
  | host (detection? : Option Setting)

instance : Inhabited Step := ⟨.parts⟩

/-! ## Answers -/

/-- A node as an answer shows it: by its name, or by what it is. -/
inductive Label where
  | named (name : Text)
  | text (text : Text)
  | comment (text : Text)
  | element (tag : Text)
  | other
  deriving DecidableEq, Repr

/-- A change with labels for its nodes. -/
structure Report where
  isText : Bool
  target : Option Label
  added : List (Option Label)
  removed : List (Option Label)
  old? : Option Text
  deriving DecidableEq, Repr

/-- What a localizer shows of itself. -/
structure LocalizerView where
  language : Text
  htmlLanguage : Text
  target : Option Label
  watching : Bool
  languages : List Text
  caches : List LanguageCache
  lastPass : PassStats
  textCalls : Nat
  nodeCalls : Nat
  passes : Nat
  deriving DecidableEq, Repr

/-- What a host shows of itself, under the keys of some options. -/
structure HostView where
  location : Text
  cookies : Text
  localItem? : Option Text
  sessionItem? : Option Text
  deriving DecidableEq, Repr

/-- What the answer to a step is. -/
inductive Answer where
  | nothing
  | flag (value : Bool)
  | flags (first second : Bool)
  | count (n : Nat)
  | text (text? : Option Text)
  | label (label? : Option Label)
  | labels (labels : List (Option Label))
  | parts (element body : Option Label) (language? : Option Text)
  | tree (tree : Tree (Option Text))
  | bytes (bytes : Bytes)
  | reports (reports : List Report)
  | outcome (outcome : Outcome)
  | stats (stats : PassStats)
  | localizer (view : LocalizerView)
  | host (view : HostView)
  | problem (problem : Problem)
  /-- The options of detection make no sense. -/
  | badOptions
  /-- There is no such node. -/
  | noNode (field : Text)
  | noObserver
  | noWatch
  | noLocalizer
  /-- A node would come to be below itself. -/
  | cycle

/-- One call of an observer of the session: what it was told, and the answers of
the script for this call, if there is one. -/
structure Call where
  observer : Text
  reports : List Report
  answers? : Option (List Answer)

end Polyglot.Session
