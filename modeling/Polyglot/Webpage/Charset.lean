import Polyglot.Forest.Walk
import Polyglot.Text.Blank

/-!
# The charset that a document declares

The first `meta` element in the head that says anything about it decides: by an
attribute of its own, or by a parameter of the content type.
-/

set_option autoImplicit false

namespace Polyglot.Forest

/-- The charset among the parameters of a content type. -/
def charsetParameter? (contentType : Text) : Option Text :=
  ((Text.pieces ';' contentType).drop 1).findSome? fun parameter =>
    match Text.cut? '=' parameter with
    | none => none
    | some (name, value) =>
      if Text.equalsIgnoringCase (Text.trim name) "charset".toList then
        some (Text.trimmed (· == '"') (Text.trim value))
      else none

/-- The charset that one node of a head declares. -/
def charsetOf? (forest : Forest) (node : NodeId) : Option Text :=
  if forest.elementName? node != some "meta".toList then none
  else
    match forest.attribute? node "charset".toList with
    | some charset => some (Text.trim charset)
    | none =>
      let equivalent := (forest.attribute? node "http-equiv".toList).getD []
      if Text.equalsIgnoringCase equivalent "content-type".toList then
        charsetParameter? ((forest.attribute? node "content".toList).getD [])
      else none

/-- The charset that the document below a node declares. -/
def declaredCharset? (forest : Forest) (document : NodeId) : Option Text := do
  let html ← forest.childNamed? document "html".toList
  let head ← forest.childNamed? html "head".toList
  (forest.children head).findSome? forest.charsetOf?

end Polyglot.Forest
