/-
The program: the command line on the real surroundings.
-/
import Graft.Cli.Run

open Graft

/-- what the system says of a file that cannot be read -/
def reasonText : IO.Error → String
  | .noFileOrDirectory .. => "No such file or directory (os error 2)"
  | .permissionDenied .. => "Permission denied (os error 13)"
  | e => toString e

/-- variables and files of the process -/
def processHost : Cli.Host IO where
  lookup name := IO.getEnv name
  contentOf path := do
    try
      let text ← IO.FS.readFile path
      return .ok text
    catch e => return .error (reasonText e)

def main (args : List String) : IO UInt32 := do
  let verbose := match Cli.Invocation.parse args with
    | .ok i => i.verbose
    | .error _ => false
  let r ← Cli.run processHost args
  let limit : Level := if verbose then .debug else .warn
  for e in r.events do
    if e.within limit then IO.eprintln s!"[{e.line}]"
  IO.print r.out
  if r.exit = 2 then IO.eprint Cli.usageText
  IO.eprint r.err
  return r.exit.toUInt32
