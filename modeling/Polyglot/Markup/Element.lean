import Polyglot.Text.Basic

/-!
# Classes of elements

What the names of HTML elements say about how their content is read, where they
end without an end tag, and how they are written.
-/

set_option autoImplicit false

namespace Polyglot.Markup

/-- Whether a name is one of those listed. -/
def isOneOf (names : List String) (tag : Text) : Bool :=
  names.any fun name => name.toList == tag

/-! ## Content -/

/-- How the content of an element is read. -/
inductive ContentModel where
  /-- Markup. -/
  | markup
  /-- Text with character references. -/
  | textOnly
  /-- Text as it stands. -/
  | raw
  /-- Everything up to the end as it stands. -/
  | rest
  deriving DecidableEq, Repr

/-- How the content of an element of a given name is read. -/
def contentModel (tag : Text) : ContentModel :=
  if isOneOf ["title", "textarea"] tag then .textOnly
  else if isOneOf ["script", "style", "xmp", "iframe", "noembed", "noframes", "noscript"] tag then
    .raw
  else if isOneOf ["plaintext"] tag then .rest
  else .markup

/-- The elements whose content is written as it stands. -/
def isWrittenRaw (tag : Text) : Bool :=
  isOneOf ["style", "script", "xmp", "iframe", "noembed", "noframes", "plaintext", "noscript"] tag

/-- The elements that have no end tag and whose elements are not written. -/
def isWrittenVoid (tag : Text) : Bool :=
  isOneOf ["area", "base", "basefont", "bgsound", "br", "col", "embed", "frame", "hr", "img",
    "input", "keygen", "link", "meta", "param", "source", "track", "wbr"] tag

/-- The elements that end where they begin. -/
def isVoid (tag : Text) : Bool :=
  isOneOf ["area", "base", "basefont", "bgsound", "br", "embed", "frame", "hr", "img", "input",
    "keygen", "link", "meta", "param", "source", "track", "wbr"] tag

/-- The elements before which a line feed at the beginning of the content is left out. -/
def dropsFirstLineFeed (tag : Text) : Bool :=
  isOneOf ["pre", "listing", "textarea"] tag

/-! ## Places -/

/-- The elements that belong to the head. -/
def belongsToHead (tag : Text) : Bool :=
  isOneOf ["base", "basefont", "bgsound", "link", "meta", "title", "noframes", "style", "script",
    "noscript"] tag

/-- The elements that belong to the head even when it has ended. -/
def returnsToHead (tag : Text) : Bool :=
  isOneOf ["base", "basefont", "bgsound", "link", "meta", "title", "noframes", "style", "script"] tag

/-- The elements whose start ends an open paragraph. -/
def endsParagraph (tag : Text) : Bool :=
  isOneOf ["address", "article", "aside", "blockquote", "center", "details", "dialog", "dir", "div",
    "dl", "fieldset", "figcaption", "figure", "footer", "form", "header", "hgroup", "hr", "listing",
    "main", "menu", "nav", "ol", "p", "plaintext", "pre", "search", "section", "summary", "ul",
    "xmp"] tag

/-- The elements that an end tag ends together with everything inside them. -/
def isBlock (tag : Text) : Bool :=
  isOneOf ["address", "applet", "article", "aside", "blockquote", "button", "center", "details",
    "dialog", "dir", "div", "dl", "fieldset", "figcaption", "figure", "footer", "form", "header",
    "hgroup", "listing", "main", "marquee", "menu", "nav", "object", "ol", "pre", "search",
    "section", "summary", "ul"] tag

/-- The headings. -/
def isHeading (tag : Text) : Bool :=
  isOneOf ["h1", "h2", "h3", "h4", "h5", "h6"] tag

/-- The elements that end by themselves where something around them ends. -/
def endsByItself (tag : Text) : Bool :=
  isOneOf ["dd", "dt", "li", "optgroup", "option", "p", "rb", "rp", "rt", "rtc"] tag

/-- The groups of rows of a table. -/
def isRowGroup (tag : Text) : Bool :=
  isOneOf ["tbody", "tfoot", "thead"] tag

/-- The cells of a table. -/
def isCell (tag : Text) : Bool :=
  isOneOf ["td", "th"] tag

/-- The elements that stand directly in a table. -/
def standsInTable (tag : Text) : Bool :=
  isOneOf ["caption", "colgroup"] tag || isRowGroup tag

/-- The elements that an unrelated end tag does not reach across. -/
def isSpecial (tag : Text) : Bool :=
  endsParagraph tag || isBlock tag || isHeading tag || isVoid tag || belongsToHead tag
    || standsInTable tag || isCell tag
    || isOneOf ["body", "col", "dd", "dt", "frameset", "head", "html", "iframe", "li", "noembed",
      "select", "table", "template", "textarea", "tr"] tag

/-! ## Scopes -/

/-- The elements that no end tag reaches across. -/
def boundsScope (tag : Text) : Bool :=
  isOneOf ["applet", "caption", "html", "table", "td", "th", "marquee", "object", "template"] tag

/-- The elements that the end of a list item does not reach across. -/
def boundsItemScope (tag : Text) : Bool :=
  boundsScope tag || isOneOf ["ol", "ul"] tag

/-- The elements that the end of a paragraph does not reach across. -/
def boundsButtonScope (tag : Text) : Bool :=
  boundsScope tag || isOneOf ["button"] tag

/-- The elements that the end of a part of a table does not reach across. -/
def boundsTableScope (tag : Text) : Bool :=
  isOneOf ["html", "table", "template"] tag

end Polyglot.Markup
