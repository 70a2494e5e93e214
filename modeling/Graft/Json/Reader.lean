/-
From tokens to values.

The reader is an automaton that looks at each token once. It keeps the open arrays and objects on a stack, so that
nesting may be as deep as one likes.
-/
import Graft.Json.Lexer

namespace Graft.Json

/-- an open array or object in which a value is awaited; what it holds so far stands in reverse -/
inductive Frame where
  | items (got : List Json)
  | field (got : List (Content × Json)) (key : Content)

/-- what may come next -/
inductive Reader where
  /-- a value -/
  | value (stack : List Frame)
  /-- the first item of an array, or its end -/
  | items (stack : List Frame)
  /-- the first name of an object, or its end -/
  | fields (stack : List Frame)
  /-- a further name of an object -/
  | name (got : List (Content × Json)) (stack : List Frame)
  /-- the colon after a name -/
  | colon (got : List (Content × Json)) (key : Content) (stack : List Frame)
  /-- after an item: a comma, or the end of the array -/
  | afterItem (got : List Json) (stack : List Frame)
  /-- after a field: a comma, or the end of the object -/
  | afterField (got : List (Content × Json)) (stack : List Frame)
  /-- nothing: the value is complete -/
  | complete (v : Json)

namespace Reader

/-- put a complete value where it is awaited -/
def place (v : Json) : List Frame → Reader
  | [] => .complete v
  | .items got :: stack => .afterItem (v :: got) stack
  | .field got key :: stack => .afterField ((key, v) :: got) stack

/-- the first token of a value -/
def beginValue (stack : List Frame) : Token → Option Reader
  | .null => some (place .null stack)
  | .bool b => some (place (.bool b) stack)
  | .int n => some (place (.int n) stack)
  | .real r => some (place (.real r) stack)
  | .str s => some (place (.str s) stack)
  | .openArr => some (.items stack)
  | .openObj => some (.fields stack)
  | _ => none

def step (r : Reader) (t : Token) : Option Reader :=
  match r with
  | .value stack => beginValue stack t
  | .items stack =>
    match t with
    | .closeArr => some (place (.arr []) stack)
    | t => beginValue (.items [] :: stack) t
  | .fields stack =>
    match t with
    | .closeObj => some (place (.obj []) stack)
    | .str s => some (.colon [] s stack)
    | _ => none
  | .name got stack =>
    match t with
    | .str s => some (.colon got s stack)
    | _ => none
  | .colon got key stack =>
    match t with
    | .colon => some (.value (.field got key :: stack))
    | _ => none
  | .afterItem got stack =>
    match t with
    | .comma => some (.value (.items got :: stack))
    | .closeArr => some (place (.arr got.reverse) stack)
    | _ => none
  | .afterField got stack =>
    match t with
    | .comma => some (.name got stack)
    | .closeObj => some (place (.obj got.reverse) stack)
    | _ => none
  | .complete _ => none

end Reader

/-- the value that the tokens spell -/
def ofTokens? (ts : List Token) : Option Json := do
  match ← ts.foldlM Reader.step (.value []) with
  | .complete v => some v
  | _ => none

/-- the value that a text spells -/
def parse? (s : String) : Option Json := do
  let ts ← lex s.toList
  ofTokens? ts

end Graft.Json
