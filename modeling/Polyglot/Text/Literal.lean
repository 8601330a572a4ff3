import Polyglot.Text.Unseen
import Polyglot.Text.Basic

/-!
# Texts as literals

A text between quotes, in which everything is escaped that would end it or could
not be seen.
-/

set_option autoImplicit false

namespace Polyglot.Text

/-- A character inside a literal. -/
def literalChar (c : Char) : Text :=
  if c = '"' then ['\\', '"']
  else if c = '\\' then ['\\', '\\']
  else if c = '\x00' then ['\\', '0']
  else if c = '\t' then ['\\', 't']
  else if c = '\n' then ['\\', 'n']
  else if c = '\r' then ['\\', 'r']
  else if isUnseen c then '\\' :: 'u' :: '\x7b' :: Nat.toDigits 16 c.toNat ++ ['\x7d']
  else [c]

/-- A text between quotes. -/
def literal (text : Text) : Text :=
  '"' :: text.flatMap literalChar ++ ['"']

end Polyglot.Text
