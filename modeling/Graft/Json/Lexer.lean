/-
From characters to tokens.

The lexer is an automaton that looks at each character once. Inside a word or a numeral it collects characters until one
comes that cannot belong to it; what was collected is then judged as a whole. Inside a string it collects pieces:
characters, and the 16-bit units of `\u` escapes, which are put together in pairs when the string ends.

White space is space, tabulator, line feed and carriage return.
-/
import Graft.Json.Basic

namespace Graft.Json

/-! ## Numerals -/

/-- at least one digit, and what follows the digits -/
def digits? (cs : List Char) : Option (List Char × List Char) :=
  match cs.takeWhile Char.isDigit with
  | [] => none
  | ds => some (ds, cs.dropWhile Char.isDigit)

/-- whether the characters are an exponent, or none at all -/
def isExponent : List Char → Bool
  | [] => true
  | e :: rest =>
    if e = 'e' ∨ e = 'E' then
      let unsigned := match rest with
        | '+' :: r => r
        | '-' :: r => r
        | r => r
      match digits? unsigned with
      | some (_, []) => true
      | _ => false
    else false

/-- whether the characters are a fraction and an exponent, of which one may be missing -/
def isFraction : List Char → Bool
  | '.' :: rest =>
    match digits? rest with
    | some (_, rest) => isExponent rest
    | none => false
  | rest => isExponent rest

/-- the token of an unsigned numeral: no leading zeros; an integer unless a fraction or exponent follows -/
def unsignedToken (negative : Bool) (spelling : String) (cs : List Char) : Option Token :=
  match digits? cs with
  | none => none
  | some ('0' :: _ :: _, _) => none
  | some (ds, []) =>
    let n := Nat.ofDigitChars 10 ds 0
    if negative then if n = 0 then some (.real spelling) else some (.int (-n)) else some (.int n)
  | some (_, rest) => if isFraction rest then some (.real spelling) else none

def numeralToken (cs : List Char) : Option Token :=
  match cs with
  | '-' :: rest => unsignedToken true (String.ofList cs) rest
  | _ => unsignedToken false (String.ofList cs) cs

/-- characters that can belong to a numeral -/
def isNumeralChar (c : Char) : Bool := c.isDigit || c == '-' || c == '+' || c == '.' || c == 'e' || c == 'E'

/-! ## Words -/

def wordToken (cs : List Char) : Option Token :=
  match String.ofList cs with
  | "null" => some .null
  | "true" => some (.bool true)
  | "false" => some (.bool false)
  | _ => none

/-! ## Strings -/

/-- a part of a string: a character, or a 16-bit unit given by an escape -/
inductive Piece where
  | char (c : Char)
  | unit (value : Nat)
deriving DecidableEq

def isHighHalf (u : Nat) : Bool := 0xD800 ≤ u && u < 0xDC00

def isLowHalf (u : Nat) : Bool := 0xDC00 ≤ u && u < 0xE000

/-- the character of a surrogate pair -/
def pairChar (high low : Nat) : Char := Char.ofNat (0x10000 + (high - 0xD800) * 0x400 + (low - 0xDC00))

/-- the characters of the pieces, unless half a pair stands alone -/
def assemble : List Piece → Option (List Char)
  | [] => some []
  | .char c :: rest => (assemble rest).map (c :: ·)
  | .unit high :: .unit low :: rest =>
    if isHighHalf high then
      if isLowHalf low then (assemble rest).map (pairChar high low :: ·) else none
    else if isLowHalf high then none
    else (assemble (.unit low :: rest)).map (Char.ofNat high :: ·)
  | .unit u :: rest =>
    if isHighHalf u || isLowHalf u then none else (assemble rest).map (Char.ofNat u :: ·)

/-- the character that a letter stands for after a backslash -/
def escaped? : Char → Option Char
  | '"' => some '"'
  | '\\' => some '\\'
  | '/' => some '/'
  | 'b' => some '\x08'
  | 'f' => some '\x0c'
  | 'n' => some '\n'
  | 'r' => some '\r'
  | 't' => some '\t'
  | _ => none

def hexValue? (c : Char) : Option Nat :=
  if c.isDigit then some (c.toNat - '0'.toNat)
  else if 'a' ≤ c ∧ c ≤ 'f' then some (c.toNat - 'a'.toNat + 10)
  else if 'A' ≤ c ∧ c ≤ 'F' then some (c.toNat - 'A'.toNat + 10)
  else none

/-! ## The automaton -/

/-- where the lexer is; characters and pieces collected so far stand in reverse -/
inductive Mode where
  | between
  | word (letters : List Char)
  | numeral (chars : List Char)
  | string (pieces : List Piece)
  | escape (pieces : List Piece)
  /-- inside a `\u` escape: value so far, and how many digits are still to come -/
  | unit (pieces : List Piece) (value left : Nat)
deriving DecidableEq

structure Lexer where
  mode : Mode
  /-- tokens so far, in reverse -/
  tokens : List Token

namespace Lexer

def start : Lexer := ⟨.between, []⟩

/-- a character that does not belong to an unfinished token -/
def fresh (tokens : List Token) (c : Char) : Option Lexer :=
  if c = ' ' ∨ c = '\t' ∨ c = '\n' ∨ c = '\r' then some ⟨.between, tokens⟩
  else if c = '[' then some ⟨.between, .openArr :: tokens⟩
  else if c = ']' then some ⟨.between, .closeArr :: tokens⟩
  else if c = '\x7b' then some ⟨.between, .openObj :: tokens⟩
  else if c = '\x7d' then some ⟨.between, .closeObj :: tokens⟩
  else if c = ':' then some ⟨.between, .colon :: tokens⟩
  else if c = ',' then some ⟨.between, .comma :: tokens⟩
  else if c = '"' then some ⟨.string [], tokens⟩
  else if c.isDigit || c == '-' then some ⟨.numeral [c], tokens⟩
  else if c.isAlpha then some ⟨.word [c], tokens⟩
  else none

def step (l : Lexer) (c : Char) : Option Lexer :=
  match l.mode with
  | .between => fresh l.tokens c
  | .word letters =>
    if c.isAlpha then some ⟨.word (c :: letters), l.tokens⟩
    else do
      let t ← wordToken letters.reverse
      fresh (t :: l.tokens) c
  | .numeral chars =>
    if isNumeralChar c then some ⟨.numeral (c :: chars), l.tokens⟩
    else do
      let t ← numeralToken chars.reverse
      fresh (t :: l.tokens) c
  | .string pieces =>
    if c = '"' then some ⟨.between, .str ((assemble pieces.reverse).map String.ofList) :: l.tokens⟩
    else if c = '\\' then some ⟨.escape pieces, l.tokens⟩
    else if c < ' ' then none
    else some ⟨.string (.char c :: pieces), l.tokens⟩
  | .escape pieces =>
    if c = 'u' then some ⟨.unit pieces 0 4, l.tokens⟩
    else do
      let e ← escaped? c
      return ⟨.string (.char e :: pieces), l.tokens⟩
  | .unit pieces value left => do
    let d ← hexValue? c
    let value := 16 * value + d
    if left ≤ 1 then return ⟨.string (.unit value :: pieces), l.tokens⟩
    else return ⟨.unit pieces value (left - 1), l.tokens⟩

/-- the tokens at the end of the text, in order -/
def finish (l : Lexer) : Option (List Token) :=
  match l.mode with
  | .between => some l.tokens.reverse
  | .word letters => do
    let t ← wordToken letters.reverse
    return (t :: l.tokens).reverse
  | .numeral chars => do
    let t ← numeralToken chars.reverse
    return (t :: l.tokens).reverse
  | _ => none

end Lexer

/-- the tokens of a text -/
def lex (cs : List Char) : Option (List Token) := do
  let l ← cs.foldlM Lexer.step Lexer.start
  l.finish

end Graft.Json
