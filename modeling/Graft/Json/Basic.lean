/-
JSON values, and the tokens their texts are made of.

Numbers that are written as integers are kept exactly, at any size. A number with a fraction, an exponent or the sign of
a zero is kept by its spelling. A string is `none` when it holds half of a surrogate pair: it is well formed, but it is
no text. Objects keep their fields in the order in which they were written, repeated ones too.
-/

namespace Graft

/-- the content of a string, unless it holds half of a surrogate pair -/
abbrev Json.Content := Option String

inductive Json where
  | null
  | bool (value : Bool)
  | int (value : Int)
  | real (spelling : String)
  | str (content : Json.Content)
  | arr (items : List Json)
  | obj (fields : List (Json.Content × Json))

instance : Inhabited Json := ⟨.null⟩

namespace Json

inductive Token where
  | null
  | bool (value : Bool)
  | int (value : Int)
  | real (spelling : String)
  | str (content : Content)
  | openArr
  | closeArr
  | openObj
  | closeObj
  | colon
  | comma
deriving DecidableEq

/-- a string value -/
def text (s : String) : Json := .str (some s)

/-- an object with the given names -/
def record (fields : List (String × Json)) : Json := .obj (fields.map fun f => (some f.1, f.2))

def nat (n : Nat) : Json := .int n

def texts (ss : List String) : Json := .arr (ss.map text)

end Json

end Graft
