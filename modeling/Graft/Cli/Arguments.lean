/-
The arguments of the command line.

  nlc [options] compile FILE [options]
  nlc [options] demo [options]
  nlc [options] help [COMMAND]

Options are read from left to right, before and after the command; of an option that is given on both sides the one
after the command counts, and giving it twice on one side is refused. Values stand in the next argument or behind an
equals sign. Letters of short options may be joined, and a value may follow its letter at once.
-/

namespace Graft.Cli

/-- what ends the reading of arguments before there is something to do -/
inductive Stop where
  | usage
  | version
  | help
deriving DecidableEq

/-- one argument by its form -/
inductive Arg where
  /-- `--`: all that follows is plain -/
  | escape
  /-- `--name` or `--name=value` -/
  | long (name : String) (value? : Option String)
  /-- `-abc` -/
  | short (letters : List Char)
  | plain (text : String)
deriving DecidableEq

def Arg.ofString (s : String) : Arg :=
  match s.toList with
  | ['-', '-'] => .escape
  | '-' :: '-' :: rest =>
    let name := String.ofList (rest.takeWhile (· ≠ '='))
    match rest.dropWhile (· ≠ '=') with
    | [] => .long name none
    | _ :: value => .long name (some (String.ofList value))
  | '-' :: c :: rest => .short (c :: rest)
  | _ => .plain s

/-- options as they are given on one side of the command -/
structure Options where
  verbose : Bool := false
  adopt? : Option Bool := none
  lowerOnly? : Option Bool := none
  emit : Bool := false
  values : List Int64 := []
  input? : Option String := none

/-! ## Values -/

/-- exactly `true` or `false` -/
def switch? : String → Option Bool
  | "true" => some true
  | "false" => some false
  | _ => none

/-- decimal digits, at least one -/
def decimal? (cs : List Char) : Option Nat :=
  if cs.isEmpty || !cs.all Char.isDigit then none else some (Nat.ofDigitChars 10 cs 0)

/-- a word in decimal, with an optional sign -/
def word? (cs : List Char) : Option Int64 := do
  let n : Int ← match cs with
    | '-' :: ds => (decimal? ds).map fun n => -(n : Int)
    | '+' :: ds => (decimal? ds).map fun n => (n : Int)
    | ds => (decimal? ds).map fun n => (n : Int)
  if Int64.minValue.toInt ≤ n ∧ n ≤ Int64.maxValue.toInt then some (.ofInt n) else none

/-- words with commas between them -/
def words? (s : String) : Option (List Int64) := (s.toList.splitOnP (· == ',')).mapM word?

namespace Options

/-- a value that was understood; refused otherwise -/
def need {α : Type} : Option α → Except Stop α
  | some a => .ok a
  | none => .error .usage

def giveVerbose (o : Options) : Except Stop Options :=
  if o.verbose then .error .usage else .ok { o with verbose := true }

def giveAdopt (o : Options) (value : String) : Except Stop Options := do
  let b ← need (switch? value)
  if o.adopt?.isSome then .error .usage else .ok { o with adopt? := some b }

def giveLowerOnly (o : Options) (value : String) : Except Stop Options := do
  let b ← need (switch? value)
  if o.lowerOnly?.isSome then .error .usage else .ok { o with lowerOnly? := some b }

def giveEmit (o : Options) : Except Stop Options :=
  if o.emit then .error .usage else .ok { o with emit := true }

/-- values of several lists are joined -/
def giveValues (o : Options) (list : String) : Except Stop Options := do
  let values ← need (words? list)
  return { o with values := o.values ++ values }

/-- a plain argument: the file, when there is none yet -/
def giveInput (o : Options) (path : String) : Except Stop Options :=
  if path = "" ∨ o.input?.isSome then .error .usage else .ok { o with input? := some path }

end Options

/-! ## Before the command -/

/-- joined letters before the command -/
def readLetters (o : Options) : List Char → Except Stop Options
  | [] => .ok o
  | 'v' :: rest => do readLetters (← o.giveVerbose) rest
  | 'V' :: _ => .error .version
  | 'h' :: _ => .error .help
  | _ => .error .usage

/-- options up to the command, the command, and what follows it -/
def readHead (o : Options) : List String → Except Stop (Options × String × List String)
  | [] => .error .usage
  | a :: rest =>
    match Arg.ofString a with
    | .plain command => .ok (o, command, rest)
    | .escape => .error .usage
    | .long "verbose" none => do readHead (← o.giveVerbose) rest
    | .long "use-mlir" (some value) => do readHead (← o.giveAdopt value) rest
    | .long "use-mlir" none =>
      match rest with
      | value :: rest => do readHead (← o.giveAdopt value) rest
      | [] => .error .usage
    | .long "version" none => .error .version
    | .long "help" none => .error .help
    | .long _ _ => .error .usage
    | .short letters => do readHead (← readLetters o letters) rest

/-! ## After the command -/

/-- what a command takes -/
inductive Shape where
  | compile
  | demo
deriving DecidableEq

/-- plain arguments -/
def readPlain (shape : Shape) (o : Options) : List String → Except Stop Options
  | [] => .ok o
  | a :: rest =>
    match shape with
    | .compile => do readPlain shape (← o.giveInput a) rest
    | .demo => .error .usage

/-- joined letters after the command; says whether the last one awaits its value -/
def readTailLetters (shape : Shape) (o : Options) : List Char → Except Stop (Options × Bool)
  | [] => .ok (o, false)
  | 'v' :: rest => do readTailLetters shape (← o.giveVerbose) rest
  | 'h' :: _ => .error .help
  | 'a' :: rest =>
    match shape, rest with
    | .demo, _ => .error .usage
    | .compile, [] => .ok (o, true)
    | .compile, '=' :: list => do return (← o.giveValues (String.ofList list), false)
    | .compile, list => do return (← o.giveValues (String.ofList list), false)
  | _ => .error .usage

/-- options and plain arguments after the command -/
def readTail (shape : Shape) (o : Options) : List String → Except Stop Options
  | [] => .ok o
  | a :: rest =>
    match Arg.ofString a, shape with
    | .escape, _ => readPlain shape o rest
    | .plain path, .compile => do readTail shape (← o.giveInput path) rest
    | .plain _, .demo => .error .usage
    | .long "verbose" none, _ => do readTail shape (← o.giveVerbose) rest
    | .long "use-mlir" (some value), _ => do readTail shape (← o.giveAdopt value) rest
    | .long "use-mlir" none, _ =>
      match rest with
      | value :: rest => do readTail shape (← o.giveAdopt value) rest
      | [] => .error .usage
    | .long "help" none, _ => .error .help
    | .long "args" (some list), .compile => do readTail shape (← o.giveValues list) rest
    | .long "args" none, .compile =>
      match rest with
      | list :: rest => do readTail shape (← o.giveValues list) rest
      | [] => .error .usage
    | .long "no-compile" (some value), .compile => do readTail shape (← o.giveLowerOnly value) rest
    | .long "no-compile" none, .compile =>
      -- the value may be left out, so only a plain argument is one
      match rest with
      | [] => o.giveLowerOnly "true"
      | next :: rest =>
        match Arg.ofString next with
        | .plain value => do readTail shape (← o.giveLowerOnly value) rest
        | _ => do readTail shape (← o.giveLowerOnly "true") (next :: rest)
    | .long "emit" none, .compile => do readTail shape (← o.giveEmit) rest
    | .long _ _, _ => .error .usage
    | .short letters, _ => do
      let (o, awaits) ← readTailLetters shape o letters
      if awaits then
        match rest with
        | list :: rest => do readTail shape (← o.giveValues list) rest
        | [] => .error .usage
      else readTail shape o rest

/-! ## The whole line -/

/-- names that stand for a command -/
def commandNames : List String := ["compile", "demo", "help"]

/-- the answer to `help`: it takes the name of one command at most, and no options -/
def readHelp : List String → Stop
  | [] => .help
  | [name] => if name ∈ commandNames then .help else .usage
  | _ => .usage

/-- one compilation as the command line asks for it -/
structure Job where
  input : String
  values : List Int64
  lowerOnly? : Option Bool
  emit : Bool

inductive Command where
  | compile (job : Job)
  | demo

structure Invocation where
  verbose : Bool
  adopt? : Option Bool
  command : Command

def Invocation.parse (args : List String) : Except Stop Invocation := do
  let (head, command, rest) ← readHead {} args
  match command with
  | "compile" =>
    let tail ← readTail .compile {} rest
    let input ← Options.need tail.input?
    return ⟨head.verbose || tail.verbose, tail.adopt?.or head.adopt?,
      .compile ⟨input, tail.values, tail.lowerOnly?, tail.emit⟩⟩
  | "demo" =>
    let tail ← readTail .demo {} rest
    return ⟨head.verbose || tail.verbose, tail.adopt?.or head.adopt?, .demo⟩
  | "help" => .error (readHelp rest)
  | _ => .error .usage

end Graft.Cli
