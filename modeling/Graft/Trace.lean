/-
The log as part of the answer: a traced value comes with the events that led to it, in order.

Events never influence values: `value_bind` says that the value of a composition is the composition of the values, so a
statement about values can leave the log aside.
-/

namespace Graft

/-- severity of an event, the most severe first -/
inductive Level where
  | warn
  | info
  | debug
  | trace
deriving DecidableEq

def Level.name : Level → String
  | .warn => "WARN"
  | .info => "INFO"
  | .debug => "DEBUG"
  | .trace => "TRACE"

/-- number of the level, smaller for the more severe -/
def Level.rank : Level → Nat
  | .warn => 0
  | .info => 1
  | .debug => 2
  | .trace => 3

/-- one line of the log -/
structure Event where
  level : Level
  text : String
deriving DecidableEq

def Event.line (e : Event) : String := e.level.name ++ " " ++ e.text

/-- whether the event belongs to a log of the given level -/
def Event.within (e : Event) (limit : Level) : Bool := e.level.rank ≤ limit.rank

structure Traced (α : Type) where
  value : α
  events : List Event := []

namespace Traced

variable {α β : Type}

instance : Monad Traced where
  pure a := ⟨a, []⟩
  bind x f :=
    let y := f x.value
    ⟨y.value, x.events ++ y.events⟩

@[simp] theorem value_pure (a : α) : (pure a : Traced α).value = a := rfl

@[simp] theorem value_bind (x : Traced α) (f : α → Traced β) : (x >>= f).value = (f x.value).value := rfl

/-- one event -/
def note (level : Level) (text : String) : Traced Unit := ⟨(), [⟨level, text⟩]⟩

@[simp] theorem value_note (level : Level) (text : String) : (note level text).value = () := rfl

end Traced

end Graft
