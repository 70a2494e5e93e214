/-
What the command line does.

`run` reads the arguments, then the environment, then the file, and answers with what is to be printed. It works in any
monad that can look up variables and read files; the rest is an action on a console, which holds the lines printed so
far and the symbol table that all compilations of the run share. Lines printed before a failure stay printed.
-/
import Graft.Builtin
import Graft.Cli.Arguments
import Graft.Codec.Request

namespace Graft.Cli

/-- why a run failed -/
inductive Failure where
  | badEnvironment (e : Error)
  | unreadable (path reason : String)
  | malformed (path : String)
  | valuesWithoutEntry
  | disagreement (function : String)
  | error (e : Error)
  | crash

def Failure.message : Failure → String
  | .badEnvironment e => "invalid environment configuration: " ++ e.message
  | .unreadable path reason => s!"failed to read {path}: {reason}"
  | .malformed path => s!"failed to parse {path}"
  | .valuesWithoutEntry => "--args cannot be used with --no-compile"
  | .disagreement function => s!"backends disagree on '{function}'"
  | .error e => e.message
  | .crash => "native code crashed"

def Failure.ofFault : Fault → Failure
  | .error e => .error e
  | .crash => .crash

structure Console where
  lines : List String
  symbols : SymbolTable

abbrev Script := Action Failure Console

namespace Script

def print (line : String) : Script Unit := Action.update fun c => { c with lines := c.lines ++ [line] }

/-- compile a function with the kernels that come with the program -/
def compile (settings : Settings) (f : Routine) : Script Compiled :=
  let compiler : Compiler := { settings, provider? := some Builtin.precompiled.provider }
  ((compiler.compile f NameMap.empty).mapError Failure.ofFault).focus (·.symbols) fun c t => { c with symbols := t }

def call (c : Compiled) (args : List Int64) : Script Int64 :=
  (Action.ofTraced (c.call Builtin.image args)).mapError Failure.ofFault

/-- say how a function was compiled -/
def report (c : Compiled) : Script Unit :=
  let how := match c.result.entry with
    | some e => e.origin
    | none => "not compiled"
  print <| s!"  {c.route.name} pipeline: '{c.state.routine.shownName}' -> {how}" ++
    s!" ({c.result.library.instructionCount} instructions)"

/-- arguments as they stand between the parentheses of a call -/
def argumentList (args : List Int64) : String := ", ".intercalate (args.map fun a => toString a.toInt)

/-- compile the function in a file, and call it unless it is to be lowered only -/
def compileFile (job : Job) (settings : Settings) (content : Except String String) : Script Unit := do
  match content with
  | .error reason => Action.stop (.unreadable job.input reason)
  | .ok text =>
    match Routine.parse? text with
    | none => Action.stop (.malformed job.input)
    | some f =>
      let f := f.qualified
      print s!"Compiling '{f.shownName}' (use_mlir = {settings.adoptArtifacts})"
      let c ← compile settings f
      report c
      if job.emit then print c.result.library.dump
      if settings.lowerOnly then
        if job.values.isEmpty then return () else Action.stop .valuesWithoutEntry
      else
        let v ← call c job.values
        print s!"{f.name}({argumentList job.values}) = {v.toInt}"

/-- compile a function both ways, and compare the values -/
def demonstrate (settings : Settings) (f : Routine) (args : List Int64) : Script Unit := do
  let native ← compile { settings with adoptArtifacts := true } f
  let host ← compile { settings with adoptArtifacts := false } f
  report native
  report host
  let x ← call native args
  let y ← call host args
  print s!"  {f.name}({argumentList args}) = {x.toInt} / {y.toInt}"
  if x ≠ y then Action.stop (.disagreement f.name)

def demonstrateAll (settings : Settings) : List (Routine × List Int64) → Script Unit
  | [] => return ()
  | (f, args) :: rest => do
    demonstrate settings f args
    demonstrateAll settings rest

end Script

/-- what the program leaves behind -/
structure Response where
  exit : Nat
  out : String
  failure? : Option Failure := none
  events : List Event := []

/-- the line for the error channel -/
def Response.err (r : Response) : String :=
  match r.failure? with
  | some f => "Error: " ++ f.message ++ "\n"
  | none => ""

def Response.failed (f : Failure) : Response := { exit := 1, out := "", failure? := some f }

/-- the response of a script on a new console -/
def Response.ofScript (x : Script Unit) : Response :=
  let r := x ⟨[], NameMap.empty⟩
  let out := String.join (r.value.2.lines.map (· ++ "\n"))
  match r.value.1 with
  | .ok _ => { exit := 0, out, events := r.events }
  | .error f => { exit := 1, out, failure? := some f, events := r.events }

def usageText : String :=
  "Usage: nlc [-v] [--use-mlir B] compile FILE [-a LIST] [--no-compile [B]] [--emit]\n" ++
  "       nlc [-v] [--use-mlir B] demo\n"

def Response.ofStop : Stop → Response
  | .usage => { exit := 2, out := "" }
  | .version => { exit := 0, out := "nlc 0.1.0\n" }
  | .help => { exit := 0, out := usageText }

/-- access to the surroundings -/
structure Host (m : Type → Type) where
  lookup : String → m (Option String)
  /-- the content of a file, or the reason why there is none -/
  contentOf : String → m (Except String String)

/-- settings with the switches that the command line gives in the place of those of the environment -/
def Invocation.settings (i : Invocation) (env : Settings) : Settings :=
  let lowerOnly? := match i.command with
    | .compile job => job.lowerOnly?
    | .demo => none
  ⟨i.adopt?.getD env.adoptArtifacts, lowerOnly?.getD env.lowerOnly⟩

def run {m : Type → Type} [Monad m] (host : Host m) (args : List String) : m Response := do
  match Invocation.parse args with
  | .error stop => return Response.ofStop stop
  | .ok i =>
    let adopt? ← host.lookup Settings.adoptVariable
    let only? ← host.lookup Settings.lowerOnlyVariable
    let env (name : String) : Option String :=
      if name = Settings.adoptVariable then adopt?
      else if name = Settings.lowerOnlyVariable then only?
      else none
    match Settings.ofEnvironment env with
    | .error e => return Response.failed (.badEnvironment e)
    | .ok env =>
      let settings := i.settings env
      match i.command with
      | .compile job =>
        let content ← host.contentOf job.input
        return Response.ofScript (Script.compileFile job settings content)
      | .demo => return Response.ofScript (Script.demonstrateAll settings Builtin.demos)

end Graft.Cli
