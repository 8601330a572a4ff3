import Polyglot.Encoding.Decode
import Polyglot.Encoding.Encode
import Polyglot.Localizer.Basic
import Polyglot.Markup.Page
import Polyglot.Markup.Writer
import Polyglot.Webpage.Charset

/-!
# Localizing a page

A page comes as bytes and goes as bytes.  In between it is a document that a
localizer is attached to.  The encoding that is asked for is only the one to
begin with: if the page declares a charset in which texts can be read, that is
the encoding it is read in and written in.

What texts bytes write, what trees a markup stands for and what bytes write a
text is the business of tools from elsewhere, which a page is localized with
(`Webpage.Toolkit`).  The tools at hand, `Toolkit.standard`, do well with the
markup of simple pages and with encodings of one byte or of Unicode; what they
lack is told where they are defined.
-/

set_option autoImplicit false

namespace Polyglot

namespace Webpage

/-- The encoding that is used where none is asked for. -/
def defaultEncoding : Text := "utf-8".toList

/-- How a page is to be localized. -/
structure Options where
  language? : Option Text
  htmlLanguage? : Option Text
  fallback? : Option Text
  encoding? : Option Text
  detection : DetectionOptions
  deriving Repr

/-- A page that has been localized. -/
structure Localized where
  data : Bytes
  language : Text
  /-- The language that the page was written in. -/
  htmlLanguage : Text
  encoding : Text
  stats : PassStats
  deriving Repr

/-- Whether texts can be read in the encoding of a label. -/
def validateEncoding (label : Text) : Except Problem Unit :=
  if (Encoding.ofUsableLabel? label).isSome then .ok () else .error (.unknownEncoding label)

/-- The tools that pages are read and written with. -/
structure Toolkit where
  /-- The text that bytes write in the encoding of a label. -/
  decode : Text → Bytes → Text
  /-- The trees that a markup stands for. -/
  parse : Text → List Markup.PlainTree
  /-- The bytes that write a text in the encoding of a label. -/
  encode : Text → Text → Bytes

namespace Toolkit

/-- The tools at hand. -/
def standard : Toolkit where
  decode := Encoding.decodeLabeled
  parse := Markup.Page.read
  encode := Encoding.encodeLabeled

variable (toolkit : Toolkit)

/-- The forest of a page that is read in the encoding of a label. -/
def read (label : Text) (bytes : Bytes) : Forest :=
  (Forest.ofTrees (toolkit.parse (toolkit.decode label bytes))).1

/-- The bytes of a page that is written in the encoding of a label. -/
def write (label : Text) (forest : Forest) : Bytes :=
  toolkit.encode label (Markup.writeChildren (forest.treeAt (fun _ => ()) Forest.root))

/-- The forest of a page and the label of the encoding that it was read in: the
one that it declares when it is read as asked, or else the one that was asked
for. -/
def readDeclared (label : Text) (bytes : Bytes) : Forest × Text :=
  let forest := toolkit.read label bytes
  match (forest.declaredCharset? Forest.root).bind Encoding.ofUsableLabel? with
  | none => (forest, label)
  | some encoding =>
    if Text.equalsIgnoringCase encoding.name label then (forest, encoding.name)
    else (toolkit.read encoding.name bytes, encoding.name)

/-- A page localized in a host. -/
def localizeIn (host : Host) (bytes : Bytes) (catalog : Catalog) (options : Options) :
    Except Problem Localized := do
  let label := options.encoding?.getD defaultEncoding
  validateEncoding label
  let (forest, encoding) := toolkit.readDeclared label bytes
  let (localizer, document) ← Localizer.attach (.ofForest forest) host
    { target? := none
      htmlLanguage? := options.htmlLanguage?
      catalog := catalog
      language? := options.language?
      fallback? := options.fallback?
      detection := options.detection }
  return {
    data := toolkit.write encoding document.forest
    language := localizer.language
    htmlLanguage := localizer.htmlLanguage
    encoding := encoding
    stats := localizer.lastPass }

/-- A page localized in a host with nothing in it.  Nothing there depends on the
time. -/
def localize (bytes : Bytes) (catalog : Catalog) (options : Options) : Except Problem Localized :=
  toolkit.localizeIn (.new 0) bytes catalog options

end Toolkit

/-! ## With the tools at hand -/

/-- The forest of a page that is read in the encoding of a label. -/
def read : Text → Bytes → Forest := Toolkit.standard.read

theorem read_eq (label : Text) (bytes : Bytes) :
    read label bytes =
      (Forest.ofTrees (Markup.Page.read (Encoding.decodeLabeled label bytes))).1 := rfl

/-- The bytes of a page that is written in the encoding of a label. -/
def write : Text → Forest → Bytes := Toolkit.standard.write

/-- The forest of a page and the label of the encoding that it was read in. -/
def readDeclared : Text → Bytes → Forest × Text := Toolkit.standard.readDeclared

/-- A page localized in a host. -/
def localizeIn : Host → Bytes → Catalog → Options → Except Problem Localized :=
  Toolkit.standard.localizeIn

/-- A page localized in a host with nothing in it. -/
def localize : Bytes → Catalog → Options → Except Problem Localized := Toolkit.standard.localize

/-- A page localized, and the result localized again for each of several languages
in turn.  Each time the page is taken to be written in the language and the
encoding that it was in before. -/
def localizeAgain (catalog : Catalog) (options : Options) (page : Localized) :
    List Text → Except Problem (List Localized)
  | [] => .ok [page]
  | language :: rest => do
    let next ← localize page.data catalog
      { options with
        language? := some language
        htmlLanguage? := some page.language
        encoding? := some page.encoding }
    let others ← localizeAgain catalog options next rest
    return page :: others

end Webpage

end Polyglot
