import Polyglot.Forest.Tree
import Polyglot.Markup.Token

/-!
# From tokens to a page

A page always has an `html` element with a `head` and a `body` in it, whether
their tags are written or not.  While a page is read it is in one of the stages
in which these come; a token that does not belong to a stage ends it and is
looked at again in the next one.  In the body the elements that are open form a
chain, innermost first; a start tag may end some of them before it opens its
own, and an end tag ends the nearest element of its name and everything inside
it, unless another element on the way keeps it from getting there.

This reads the markup of well-kept pages as a browser does.  It is not all that a
browser does with the rest: what does not belong in a table stays in it, elements
for formatting that end in the wrong order are not opened again, what a
`template` holds are its children, a page with frames has a body, and drawings
and formulas are made of elements of HTML.  A page is therefore localized with
any reader (`Webpage.Toolkit`), of which this is one.
-/

set_option autoImplicit false

namespace Polyglot.Markup

/-- A tree without marks. -/
abbrev PlainTree : Type := Tree Unit

/-- An element of HTML as a tree. -/
def elementTree (tag : Text) (attributes : List (Text × Text)) (children : List PlainTree) :
    PlainTree :=
  .node () (.element ⟨.html, tag⟩ attributes) children

/-- A text as a tree. -/
def textTree (content : Text) : PlainTree :=
  .node () (.text content) []

/-- A comment as a tree. -/
def commentTree (content : Text) : PlainTree :=
  .node () (.comment content) []

/-- Siblings, last first, with one more after them; a text joins a text before it. -/
def addSibling (siblings : List PlainTree) (new : PlainTree) : List PlainTree :=
  match new, siblings with
  | .node _ (.text added) _, .node _ (.text text) _ :: rest => textTree (text ++ added) :: rest
  | _, _ => new :: siblings

/-- Siblings, last first, with a text after them, if there is anything in it. -/
def addText (siblings : List PlainTree) (content : Text) : List PlainTree :=
  if content.isEmpty then siblings else addSibling siblings (textTree content)

/-- Attributes with those of a further tag that have not been given yet. -/
def mergeAttributes (attributes further : List (Text × Text)) : List (Text × Text) :=
  attributes ++ further.filter fun (name, _) => (attributes.lookup name).isNone

/-! ## Open elements -/

/-- An element that is open: its children so far come last first. -/
structure OpenElement where
  tag : Text
  attributes : List (Text × Text)
  children : List PlainTree

namespace OpenElement

/-- An element that is open and has no children yet. -/
def new (tag : Text) (attributes : List (Text × Text)) : OpenElement := ⟨tag, attributes, []⟩

/-- The element when it has ended. -/
def toTree (element : OpenElement) : PlainTree :=
  elementTree element.tag element.attributes element.children.reverse

/-- An element with one more child. -/
def add (element : OpenElement) (child : PlainTree) : OpenElement :=
  { element with children := addSibling element.children child }

/-- An element with more text. -/
def addText (element : OpenElement) (content : Text) : OpenElement :=
  { element with children := Markup.addText element.children content }

end OpenElement

/-- The open elements, of which there is always one. -/
structure OpenChain where
  inner : OpenElement
  /-- The elements around it, innermost first. -/
  outer : List OpenElement

namespace OpenChain

/-- The names of the open elements, innermost first. -/
def tags (chain : OpenChain) : List Text :=
  chain.inner.tag :: chain.outer.map OpenElement.tag

/-- Whether a walk from the innermost element outwards comes upon one that is
looked for before it comes upon one that bounds the search. -/
def reaches (wanted bound : Text → Bool) : List Text → Bool
  | [] => false
  | tag :: rest => wanted tag || (!bound tag && reaches wanted bound rest)

/-- Whether an element that is looked for is in a scope. -/
def has (chain : OpenChain) (wanted bound : Text → Bool) : Bool :=
  reaches wanted bound chain.tags

/-- The chain after all elements have ended up to the first that satisfies the
test, and that one too; the outermost element stays open. -/
def endThroughFrom (test : Text → Bool) (inner : OpenElement) : List OpenElement → OpenChain
  | [] => ⟨inner, []⟩
  | next :: rest =>
    let around := next.add inner.toTree
    if test inner.tag then ⟨around, rest⟩ else endThroughFrom test around rest

/-- The chain after all elements have ended up to the first that satisfies the
test, and that one too. -/
def endThrough (chain : OpenChain) (test : Text → Bool) : OpenChain :=
  endThroughFrom test chain.inner chain.outer

/-- The chain after all elements have ended before the first that satisfies the
test. -/
def endUntilFrom (test : Text → Bool) (inner : OpenElement) : List OpenElement → OpenChain
  | [] => ⟨inner, []⟩
  | next :: rest =>
    if test inner.tag then ⟨inner, next :: rest⟩
    else endUntilFrom test (next.add inner.toTree) rest

/-- The chain after all elements have ended before the first that satisfies the
test. -/
def endUntil (chain : OpenChain) (test : Text → Bool) : OpenChain :=
  endUntilFrom test chain.inner chain.outer

/-- The chain after the end of an element that is looked for in a scope, if it is
there. -/
def endIfReached (chain : OpenChain) (wanted bound : Text → Bool) : OpenChain :=
  if chain.has wanted bound then chain.endThrough wanted else chain

/-- The chain with one more element open. -/
def opening (chain : OpenChain) (tag : Text) (attributes : List (Text × Text)) : OpenChain :=
  ⟨.new tag attributes, chain.inner :: chain.outer⟩

/-- The chain with one more tree in the innermost element. -/
def add (chain : OpenChain) (child : PlainTree) : OpenChain :=
  { chain with inner := chain.inner.add child }

/-- The chain with more text in the innermost element. -/
def addText (chain : OpenChain) (content : Text) : OpenChain :=
  { chain with inner := chain.inner.addText content }

/-- The chain with the outermost element changed. -/
def mapOutermost (chain : OpenChain) (change : OpenElement → OpenElement) : OpenChain :=
  match chain.outer.getLast? with
  | none => { chain with inner := change chain.inner }
  | some outermost => { chain with outer := chain.outer.dropLast ++ [change outermost] }

/-- The outermost element when all have ended. -/
def toTree (chain : OpenChain) : PlainTree :=
  (chain.outer.foldl (fun inner next => next.add inner.toTree) chain.inner).toTree

/-! ## Tags in the body -/

/-- Whether a name is a given one. -/
def named (name : String) (tag : Text) : Bool :=
  name.toList == tag

/-- The chain after the end of an open paragraph. -/
def endParagraph (chain : OpenChain) : OpenChain :=
  chain.endIfReached (named "p") boundsButtonScope

/-- What keeps a list item from ending the one before it. -/
def boundsSiblingItems (tag : Text) : Bool :=
  isSpecial tag && !isOneOf ["address", "div", "p"] tag

/-- The chain after the end of the element that a start tag of the given name
cannot stand in. -/
def makeRoom (chain : OpenChain) (tag : Text) : OpenChain :=
  if named "li" tag then chain.endIfReached (named "li") boundsSiblingItems |>.endParagraph
  else if isOneOf ["dd", "dt"] tag then
    chain.endIfReached (isOneOf ["dd", "dt"]) boundsSiblingItems |>.endParagraph
  else if isHeading tag then
    let chain := chain.endParagraph
    if isHeading chain.inner.tag then chain.endThrough isHeading else chain
  else if endsParagraph tag then chain.endParagraph
  else if named "button" tag then chain.endIfReached (named "button") boundsScope
  else if named "option" tag then
    if named "option" chain.inner.tag then chain.endThrough (named "option") else chain
  else if named "optgroup" tag then chain.endUntil (!isOneOf ["option", "optgroup"] ·)
  else if isOneOf ["rb", "rtc"] tag && chain.has (named "ruby") boundsScope then
    chain.endUntil (!endsByItself ·)
  else if isOneOf ["rp", "rt"] tag && chain.has (named "ruby") boundsScope then
    chain.endUntil fun open_ => named "rtc" open_ || !endsByItself open_
  else chain

/-- The chain in which the innermost element is a group of rows. -/
def openRowGroup (chain : OpenChain) : OpenChain :=
  let chain := chain.endUntil fun tag => named "table" tag || isRowGroup tag
  if isRowGroup chain.inner.tag then chain else chain.opening "tbody".toList []

/-- The chain in which the innermost element is a row. -/
def openRow (chain : OpenChain) : OpenChain :=
  let chain := chain.endUntil fun tag => named "table" tag || isRowGroup tag || named "tr" tag
  if named "tr" chain.inner.tag then chain else chain.openRowGroup.opening "tr".toList []

/-- The chain after a start tag of a part of a table. -/
def openTablePart (chain : OpenChain) (tag : Text) (attributes : List (Text × Text)) : OpenChain :=
  if !chain.has (named "table") boundsTableScope then chain
  else if isCell tag then chain.openRow.opening tag attributes
  else if named "tr" tag then chain.openRowGroup.opening tag attributes
  else if named "col" tag then
    let chain := if named "colgroup" chain.inner.tag then chain
      else (chain.endUntil (named "table")).opening "colgroup".toList []
    chain.add (elementTree tag attributes [])
  else (chain.endUntil (named "table")).opening tag attributes

/-- The chain after a start tag.  In a page without a proper document type a table
may stand in a paragraph. -/
def openTag (chain : OpenChain) (quirky : Bool) (tag : Text) (attributes : List (Text × Text)) :
    OpenChain :=
  if isOneOf ["head", "frame", "frameset"] tag then chain
  else if standsInTable tag || isCell tag || isOneOf ["col", "tr"] tag then
    chain.openTablePart tag attributes
  else
    let tag := if named "image" tag then "img".toList else tag
    let chain := if named "table" tag && !quirky then chain.endParagraph else chain.makeRoom tag
    if isVoid tag then chain.add (elementTree tag attributes []) else chain.opening tag attributes

/-- The chain after an end tag. -/
def closeTag (chain : OpenChain) (tag : Text) : OpenChain :=
  if named "p" tag then
    if chain.has (named "p") boundsButtonScope then chain.endThrough (named "p")
    else chain.add (elementTree tag [] [])
  else if named "br" tag then chain.add (elementTree tag [] [])
  else if named "li" tag then chain.endIfReached (named "li") boundsItemScope
  else if isHeading tag then chain.endIfReached isHeading boundsScope
  else if isBlock tag || isOneOf ["dd", "dt"] tag then chain.endIfReached (· == tag) boundsScope
  else if standsInTable tag || isCell tag || isOneOf ["table", "tr"] tag then
    chain.endIfReached (· == tag) boundsTableScope
  else chain.endIfReached (· == tag) isSpecial

end OpenChain

/-! ## Pages -/

/-- What part of a page comes next. -/
inductive PageStage where
  | initial
  | beforeHtml
  | beforeHead
  | inHead
  | afterHead
  | inBody
  | afterBody
  | afterHtml
  deriving DecidableEq, Repr

/-- A page that is being read.  Lists of children come last first. -/
structure Page where
  stage : PageStage
  /-- Whether the page has no proper document type. -/
  quirky : Bool
  /-- What comes before the document element. -/
  beforeHtml : List PlainTree
  htmlAttributes : List (Text × Text)
  /-- What comes before the head in the document element. -/
  beforeHead : List PlainTree
  head : OpenElement
  /-- What comes between head and body. -/
  afterHead : List PlainTree
  body : OpenChain
  /-- What comes after the body in the document element. -/
  afterBody : List PlainTree
  /-- What comes after the document element. -/
  afterHtml : List PlainTree

namespace Page

/-- The page of which nothing has been read. -/
def blank : Page where
  stage := .initial
  quirky := false
  beforeHtml := []
  htmlAttributes := []
  beforeHead := []
  head := .new "head".toList []
  afterHead := []
  body := ⟨.new "body".toList [], []⟩
  afterBody := []
  afterHtml := []

/-- The page when all has been read. -/
def toTrees (page : Page) : List PlainTree :=
  page.beforeHtml.reverse
    ++ elementTree "html".toList page.htmlAttributes
      (page.beforeHead.reverse ++ [page.head.toTree] ++ page.afterHead.reverse
        ++ [page.body.toTree] ++ page.afterBody.reverse)
    :: page.afterHtml.reverse

/-- A page in another stage. -/
def enter (page : Page) (stage : PageStage) : Page :=
  { page with stage := stage }

/-- A page with the attributes of a further tag of the document element. -/
def mergeHtml (page : Page) (attributes : List (Text × Text)) : Page :=
  { page with htmlAttributes := mergeAttributes page.htmlAttributes attributes }

/-- A page with one more tree in the head. -/
def addToHead (page : Page) (child : PlainTree) : Page :=
  { page with head := page.head.add child }

/-- A page with the body changed. -/
def mapBody (page : Page) (change : OpenChain → OpenChain) : Page :=
  { page with body := change page.body }

/-- An element whose content is a text, as a tree. -/
def wholeTree (tag : Text) (attributes : List (Text × Text)) (content : Text) : PlainTree :=
  elementTree tag attributes (addText [] content)

/-- The end tags that end a stage in which they cannot stand. -/
def endsStage (tag : Text) : Bool :=
  isOneOf ["body", "html", "br"] tag

/-- What is left of a token once the blanks at its beginning have been dealt with. -/
def rest? (text : Text) : Option Token :=
  match text.dropWhile isAsciiBlank with
  | [] => none
  | rest => some (.text rest)

/-- The blanks at the beginning of a text. -/
def blanks (text : Text) : Text :=
  text.takeWhile isAsciiBlank

/-! Each of the following takes a token in one stage and gives it back if it has
to be looked at again in the stage that the page is in then. -/

/-- A token before the document type. -/
def takeInitial (page : Page) : Token → Page × Option Token
  | .comment content =>
    ({ page with beforeHtml := commentTree content :: page.beforeHtml }, none)
  | .doctype name =>
    ({ page with
        stage := .beforeHtml
        quirky := name != "html".toList
        beforeHtml := .node () (.doctype name) [] :: page.beforeHtml }, none)
  | .text content =>
    match rest? content with
    | none => (page, none)
    | some token => ({ page with stage := .beforeHtml, quirky := true }, some token)
  | token => ({ page with stage := .beforeHtml, quirky := true }, some token)

/-- A token before the document element. -/
def takeBeforeHtml (page : Page) : Token → Page × Option Token
  | .comment content =>
    ({ page with beforeHtml := commentTree content :: page.beforeHtml }, none)
  | .doctype _ => (page, none)
  | .text content =>
    match rest? content with
    | none => (page, none)
    | some token => (page.enter .beforeHead, some token)
  | .opens tag attributes =>
    if tag = "html".toList then
      ({ page with stage := .beforeHead, htmlAttributes := attributes }, none)
    else (page.enter .beforeHead, some (.opens tag attributes))
  | .closes tag =>
    if endsStage tag || tag == "head".toList then (page.enter .beforeHead, some (.closes tag))
    else (page, none)
  | token => (page.enter .beforeHead, some token)

/-- A token before the head. -/
def takeBeforeHead (page : Page) : Token → Page × Option Token
  | .comment content =>
    ({ page with beforeHead := commentTree content :: page.beforeHead }, none)
  | .doctype _ => (page, none)
  | .text content =>
    match rest? content with
    | none => (page, none)
    | some token => (page.enter .inHead, some token)
  | .opens tag attributes =>
    if tag = "html".toList then (page.mergeHtml attributes, none)
    else if tag = "head".toList then
      ({ page with stage := .inHead, head := .new tag attributes }, none)
    else (page.enter .inHead, some (.opens tag attributes))
  | .closes tag =>
    if endsStage tag || tag == "head".toList then (page.enter .inHead, some (.closes tag))
    else (page, none)
  | token => (page.enter .inHead, some token)

/-- A token in the head. -/
def takeInHead (page : Page) : Token → Page × Option Token
  | .comment content => (page.addToHead (commentTree content), none)
  | .doctype _ => (page, none)
  | .text content =>
    let page := { page with head := page.head.addText (blanks content) }
    match rest? content with
    | none => (page, none)
    | some token => (page.enter .afterHead, some token)
  | .opens tag attributes =>
    if tag = "html".toList then (page.mergeHtml attributes, none)
    else if tag = "head".toList then (page, none)
    else if belongsToHead tag then (page.addToHead (elementTree tag attributes []), none)
    else (page.enter .afterHead, some (.opens tag attributes))
  | .whole tag attributes content =>
    if belongsToHead tag then (page.addToHead (wholeTree tag attributes content), none)
    else (page.enter .afterHead, some (.whole tag attributes content))
  | .closes tag =>
    if tag = "head".toList then (page.enter .afterHead, none)
    else if endsStage tag then (page.enter .afterHead, some (.closes tag))
    else (page, none)

/-- A token between head and body. -/
def takeAfterHead (page : Page) : Token → Page × Option Token
  | .comment content =>
    ({ page with afterHead := commentTree content :: page.afterHead }, none)
  | .doctype _ => (page, none)
  | .text content =>
    let page := { page with afterHead := addText page.afterHead (blanks content) }
    match rest? content with
    | none => (page, none)
    | some token => (page.enter .inBody, some token)
  | .opens tag attributes =>
    if tag = "html".toList then (page.mergeHtml attributes, none)
    else if tag = "head".toList then (page, none)
    else if tag = "body".toList then
      ({ page with stage := .inBody, body := ⟨.new tag attributes, []⟩ }, none)
    else if returnsToHead tag then (page.addToHead (elementTree tag attributes []), none)
    else (page.enter .inBody, some (.opens tag attributes))
  | .whole tag attributes content =>
    if returnsToHead tag then (page.addToHead (wholeTree tag attributes content), none)
    else (page.enter .inBody, some (.whole tag attributes content))
  | .closes tag =>
    if endsStage tag then (page.enter .inBody, some (.closes tag)) else (page, none)

/-- Whether the body can end where the page is. -/
def canEndBody (page : Page) : Bool :=
  page.body.has (· == "body".toList) boundsScope

/-- A token in the body. -/
def takeInBody (page : Page) : Token → Page × Option Token
  | .comment content => (page.mapBody (·.add (commentTree content)), none)
  | .doctype _ => (page, none)
  | .text content => (page.mapBody (·.addText content), none)
  | .opens tag attributes =>
    if tag = "html".toList then (page.mergeHtml attributes, none)
    else if tag = "body".toList then
      (page.mapBody (·.mapOutermost fun body =>
        { body with attributes := mergeAttributes body.attributes attributes }), none)
    else (page.mapBody (·.openTag page.quirky tag attributes), none)
  | .whole tag attributes content =>
    (page.mapBody fun body => (body.makeRoom tag).add (wholeTree tag attributes content), none)
  | .closes tag =>
    if tag = "body".toList then
      (if page.canEndBody then page.enter .afterBody else page, none)
    else if tag = "html".toList then
      if page.canEndBody then (page.enter .afterBody, some (.closes tag)) else (page, none)
    else (page.mapBody (·.closeTag tag), none)

/-- A token after the body; what comes is still part of the body, comments apart. -/
def takeAfterBody (page : Page) : Token → Page × Option Token
  | .comment content =>
    ({ page with afterBody := commentTree content :: page.afterBody }, none)
  | .doctype _ => (page, none)
  | .text content =>
    let page := page.mapBody (·.addText (blanks content))
    match rest? content with
    | none => (page, none)
    | some token => (page.enter .inBody, some token)
  | .closes tag =>
    if tag = "html".toList then (page.enter .afterHtml, none)
    else (page.enter .inBody, some (.closes tag))
  | token => (page.enter .inBody, some token)

/-- A token after the document element; what comes is still part of the body,
comments apart. -/
def takeAfterHtml (page : Page) : Token → Page × Option Token
  | .comment content =>
    ({ page with afterHtml := commentTree content :: page.afterHtml }, none)
  | .doctype _ => (page, none)
  | .text content =>
    let page := page.mapBody (·.addText (blanks content))
    match rest? content with
    | none => (page, none)
    | some token => (page.enter .inBody, some token)
  | token => (page.enter .inBody, some token)

/-- A token in the stage that the page is in. -/
def take (page : Page) (token : Token) : Page × Option Token :=
  match page.stage with
  | .initial => page.takeInitial token
  | .beforeHtml => page.takeBeforeHtml token
  | .beforeHead => page.takeBeforeHead token
  | .inHead => page.takeInHead token
  | .afterHead => page.takeAfterHead token
  | .inBody => page.takeInBody token
  | .afterBody => page.takeAfterBody token
  | .afterHtml => page.takeAfterHtml token

/-- A page with one more token, which may be looked at in several stages. -/
def addWithin : Nat → Page → Token → Page
  | 0, page, _ => page
  | looks + 1, page, token =>
    match page.take token with
    | (page, none) => page
    | (page, some token) => addWithin looks page token

/-- A page with one more token.  No token is looked at more than once in a stage. -/
def add (page : Page) (token : Token) : Page :=
  addWithin 10 page token

/-- The trees that a markup text writes. -/
def read (text : Text) : List PlainTree :=
  ((Token.scan text).foldl add blank).toTrees

end Page

end Polyglot.Markup
