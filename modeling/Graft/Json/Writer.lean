/-
From values to text, in two layouts.

The compact layout is the tokens of the value one after the other. The indented layout puts each item and each field on
a line of its own, two blanks deeper than its array or object, and a blank after the colon.

In strings, quote, backslash and the characters below the space are escaped, and nothing else.
-/
import Graft.Json.Basic

namespace Graft.Json

/-- a hexadecimal digit in lower case -/
def hexDigit (n : Nat) : Char := Nat.digitChar n

/-- one character inside a string -/
def escape (c : Char) : List Char :=
  match c with
  | '"' => ['\\', '"']
  | '\\' => ['\\', '\\']
  | '\x08' => ['\\', 'b']
  | '\t' => ['\\', 't']
  | '\n' => ['\\', 'n']
  | '\x0c' => ['\\', 'f']
  | '\r' => ['\\', 'r']
  | c => if c < ' ' then ['\\', 'u', '0', '0', hexDigit (c.toNat / 16), hexDigit (c.toNat % 16)] else [c]

/-- a string; one without content is written as half a surrogate pair -/
def writeContent : Content → List Char
  | some s => '"' :: (s.toList.flatMap escape ++ ['"'])
  | none => "\"\\ud800\"".toList

def writeInt : Int → List Char
  | .ofNat n => Nat.toDigits 10 n
  | .negSucc n => '-' :: Nat.toDigits 10 (n + 1)

def Token.write : Token → List Char
  | .null => "null".toList
  | .bool true => "true".toList
  | .bool false => "false".toList
  | .int n => writeInt n
  | .real r => r.toList
  | .str s => writeContent s
  | .openArr => ['[']
  | .closeArr => [']']
  | .openObj => ['\x7b']
  | .closeObj => ['\x7d']
  | .colon => [':']
  | .comma => [',']

/-! ## Compact -/

mutual

/-- the tokens of a value -/
def tokens : Json → List Token
  | .null => [.null]
  | .bool b => [.bool b]
  | .int n => [.int n]
  | .real r => [.real r]
  | .str s => [.str s]
  | .arr items => .openArr :: itemTokens items ++ [.closeArr]
  | .obj fields => .openObj :: fieldTokens fields ++ [.closeObj]

/-- items with commas between them -/
def itemTokens : List Json → List Token
  | [] => []
  | [v] => v.tokens
  | v :: rest => v.tokens ++ .comma :: itemTokens rest

/-- fields with commas between them -/
def fieldTokens : List (Content × Json) → List Token
  | [] => []
  | [(name, v)] => .str name :: .colon :: v.tokens
  | (name, v) :: rest => .str name :: .colon :: v.tokens ++ .comma :: fieldTokens rest

end

def compact (v : Json) : String := String.ofList (v.tokens.flatMap Token.write)

/-! ## Indented -/

/-- a new line at the given depth -/
def newLine (depth : Nat) : List Char := '\n' :: List.replicate (2 * depth) ' '

mutual

/-- a value whose first line is begun already, at the given depth -/
def indent (depth : Nat) : Json → List Char
  | .null => Token.null.write
  | .bool b => (Token.bool b).write
  | .int n => (Token.int n).write
  | .real r => (Token.real r).write
  | .str s => (Token.str s).write
  | .arr [] => ['[', ']']
  | .arr items => '[' :: indentItems (depth + 1) items ++ newLine depth ++ [']']
  | .obj [] => ['\x7b', '\x7d']
  | .obj fields => '\x7b' :: indentFields (depth + 1) fields ++ newLine depth ++ ['\x7d']

def indentItems (depth : Nat) : List Json → List Char
  | [] => []
  | [v] => newLine depth ++ v.indent depth
  | v :: rest => newLine depth ++ v.indent depth ++ ',' :: indentItems depth rest

def indentFields (depth : Nat) : List (Content × Json) → List Char
  | [] => []
  | [(name, v)] => newLine depth ++ writeContent name ++ ':' :: ' ' :: v.indent depth
  | (name, v) :: rest =>
    newLine depth ++ writeContent name ++ ':' :: ' ' :: v.indent depth ++ ',' :: indentFields depth rest

end

def indented (v : Json) : String := String.ofList (v.indent 0)

end Graft.Json
