/-
Text in quotes, as diagnostics show it: what cannot be seen on a line of its own is written as an escape.

Quote and backslash stand behind a backslash; line feed, carriage return, tabulator and NUL have letters; every other
character that does not print, or would join the one before it, is written `\u` with its hexadecimal code in braces.
-/
import Graft.Text.Hidden

namespace Graft.Text

/-- one character between the quotes -/
def quotedChar (c : Char) : List Char :=
  match c with
  | '"' => ['\\', '"']
  | '\\' => ['\\', '\\']
  | '\n' => ['\\', 'n']
  | '\r' => ['\\', 'r']
  | '\t' => ['\\', 't']
  | '\x00' => ['\\', '0']
  | c => if isHidden c then '\\' :: 'u' :: '\x7b' :: (Nat.toDigits 16 c.toNat ++ ['\x7d']) else [c]

def quoted (s : String) : String := String.ofList ('"' :: (s.toList.flatMap quotedChar ++ ['"']))

end Graft.Text
