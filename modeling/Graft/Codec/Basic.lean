/-
Reading data types from JSON values.

A record is an object with its fields, or an array of all of them in order. Unknown fields are passed over; a known
field that is repeated is refused. An alternative without data is a string, or an object that gives it the value null;
one with data is an object with that one field.
-/
import Graft.Json.Reader
import Graft.Json.Writer
import Graft.NameMap

namespace Graft.Json

/-! ## Scalars -/

def bool? : Json → Option Bool
  | .bool b => some b
  | _ => none

def text? : Json → Option String
  | .str s => s
  | _ => none

/-- a natural number below a bound -/
def below? (bound : Nat) : Json → Option Nat
  | .int (.ofNat n) => if n < bound then some n else none
  | _ => none

def word16? (j : Json) : Option UInt16 := (j.below? UInt16.size).map .ofNat

def word32? (j : Json) : Option UInt32 := (j.below? UInt32.size).map .ofNat

def word64? (j : Json) : Option UInt64 := (j.below? UInt64.size).map .ofNat

def int64? : Json → Option Int64
  | .int n => if Int64.minValue.toInt ≤ n ∧ n ≤ Int64.maxValue.toInt then some (.ofInt n) else none
  | _ => none

def word (n : UInt64) : Json := .nat n.toNat

def int64 (n : Int64) : Json := .int n.toInt

/-! ## Lists and maps -/

def list? {α : Type} (item : Json → Option α) : Json → Option (List α)
  | .arr items => items.mapM item
  | _ => none

/-- a map: of a repeated key the last value counts -/
def map? {α : Type} (value : Json → Option α) : Json → Option (NameMap α)
  | .obj fields => do
    let entries ← fields.mapM fun (key, v) => do
      let key ← key
      let v ← value v
      return (key, v)
    return NameMap.ofList entries
  | _ => none

def ofMap {α : Type} (value : α → Json) (m : NameMap α) : Json := .record (m.entries.map fun e => (e.1, value e.2))

/-! ## Records and alternatives -/

/-- the value of a field, `some none` if it is missing; refused if it is repeated -/
def field? (name : String) (fields : List (Content × Json)) : Option (Option Json) :=
  match fields.filter (·.1 == some name) with
  | [] => some none
  | [(_, v)] => some (some v)
  | _ => none

/-- the fields of a record in the order of `names`, `none` for a missing one -/
def fields? (names : List String) : Json → Option (List (Option Json))
  | .arr items => if items.length = names.length then some (items.map some) else none
  | .obj fields => if fields.all (·.1.isSome) then names.mapM fun n => field? n fields else none
  | _ => none

/-- the name of an alternative, and its data if any were given -/
def alternative? : Json → Option (String × Option Json)
  | .str (some name) => some (name, none)
  | .obj [(some name, v)] => some (name, some v)
  | _ => none

/-- whether an alternative was given no data -/
def isBare : Option Json → Bool
  | none | some .null => true
  | _ => false

/-- an alternative with one datum -/
def alternative (name : String) (data : Json) : Json := .record [(name, data)]

end Graft.Json
