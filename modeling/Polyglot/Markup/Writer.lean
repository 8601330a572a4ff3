import Polyglot.Forest.Tree
import Polyglot.Markup.Element

/-!
# Writing markup

Texts, comments, document types and elements are written one after the other.
Texts and values of attributes have the characters escaped that mean something
in markup, except for the texts directly in an element whose content is raw.  An
element without an end tag cannot have elements in it: those are left out,
though not the texts and comments that they hold.
-/

set_option autoImplicit false

namespace Polyglot.Markup

/-- A character of a text. -/
def escapedInText (c : Char) : Text :=
  if c = '&' then "&amp;".toList
  else if c = '<' then "&lt;".toList
  else if c = '>' then "&gt;".toList
  else if c = '\u00A0' then "&nbsp;".toList
  else [c]

/-- A character of an attribute's value. -/
def escapedInAttribute (c : Char) : Text :=
  if c = '&' then "&amp;".toList
  else if c = '"' then "&quot;".toList
  else if c = '\u00A0' then "&nbsp;".toList
  else [c]

/-- An attribute inside a tag. -/
def writeAttribute (pair : Text × Text) : Text :=
  ' ' :: pair.1 ++ '=' :: '"' :: pair.2.flatMap escapedInAttribute ++ ['"']

/-- What the surroundings of a node say about how it is written. -/
structure Surroundings where
  /-- Whether texts stand as they are. -/
  raw : Bool
  /-- Whether elements are left out. -/
  skipping : Bool
  deriving DecidableEq, Repr

namespace Surroundings

/-- The surroundings of the topmost nodes. -/
def top : Surroundings := ⟨false, false⟩

/-- The surroundings of the children of an element. -/
def inside (outer : Surroundings) (name : ElementName) : Surroundings where
  raw := name.space == .html && isWrittenRaw name.tag
  skipping := outer.skipping || (name.space == .html && isWrittenVoid name.tag)

/-- Whether an element in these surroundings has an end tag. -/
def hasEndTag (outer : Surroundings) (name : ElementName) : Bool :=
  !(outer.skipping || (name.space == .html && isWrittenVoid name.tag))

end Surroundings

variable {α : Type}

mutual

/-- A tree as markup. -/
def write (around : Surroundings) : Tree α → Text
  | .node _ content children =>
    match content with
    | .document => []
    | .doctype name => "<!DOCTYPE ".toList ++ name ++ ['>']
    | .text text => if around.raw then text else text.flatMap escapedInText
    | .comment text => "<!--".toList ++ text ++ "-->".toList
    | .instruction target data => '<' :: '?' :: target ++ ' ' :: data ++ ['>']
    | .element name attributes =>
      (if around.skipping then []
        else '<' :: name.tag ++ attributes.flatMap writeAttribute ++ ['>'])
      ++ writeAll (around.inside name) children
      ++ (if around.hasEndTag name then '<' :: '/' :: name.tag ++ ['>'] else [])

/-- Trees as markup. -/
def writeAll (around : Surroundings) : List (Tree α) → Text
  | [] => []
  | tree :: rest => write around tree ++ writeAll around rest

end

/-- What is below the topmost node of a tree, as markup. -/
def writeChildren (tree : Tree α) : Text :=
  writeAll Surroundings.top tree.children

end Polyglot.Markup
