/-
Errors: what can go wrong, by cause. `Error.message` has all the wording.

Each kind of error that several stages raise has its own type of causes. The cause `told` carries the words of whoever
raised the error outside this library (a pass of somebody else, an operating system).

`Fault` adds the one way to stop that is no error: a crash.
-/
import Graft.Metadata.Value
import Graft.StackOp
import Graft.Instr

namespace Graft

/-- what is wrong with the stack code at an offset -/
inductive BodyFault where
  | emptyBody
  | noArgument (index : UInt16)
  | argumentBeyondArity (index : UInt16) (arity : UInt64)
  | tooFewOperands (op : StackOp) (depth : Nat)
  | stackUnderflow
  | noReturn
  | told (message : String)
deriving DecidableEq

/-- why code cannot be linked -/
inductive CodegenFault where
  | nullSymbol (symbol : String)
  | moduleAfterFinalization (module library : String)
  | undefinedSymbols (library : String) (symbols : List String)
  | unresolvedSymbol (symbol library : String)
  | told (message : String)
deriving DecidableEq

/-- why a call gives no value -/
inductive ExecutionFault where
  | argumentCount (symbol : String) (takes : UInt64) (got : Nat)
  | undefinedTemp (symbol : String) (temp : Temp)
  | noArgument (index : UInt16)
  | undefinedResult (op : Operator) (symbol : String)
  | noReturn (symbol : String)
  | nullAddress (symbol : String)
  | tooManyArguments (symbol : String)
  | nothingToCall (function : String)
  | told (message : String)
deriving DecidableEq

/-- why the configuration is refused -/
inductive ConfigFault where
  | notABoolean (value name : String)
  | told (message : String)
deriving DecidableEq

/-- contracts between stages that were broken -/
inductive InternalFault where
  | notAPointer (key : String) (held : Metadata.Value)
  | notAString (key : String) (held : Metadata.Value)
  | noModule (function : String)
  | moduleHandedOver (function : String)
  | noEnvironment (function : String)
  | analysisMutated (pass : String)
  | noResult (pipeline function : String)
  | told (message : String)
deriving DecidableEq

inductive Error where
  /-- the metadata lacks a part of the artifact that should be adopted -/
  | missingArtifact (function key : String)
  /-- the provider has no artifact for the function -/
  | providerDeclined (function provider : String)
  | invalidBytecode (function : String) (offset : Nat) (fault : BodyFault)
  | codegen (fault : CodegenFault)
  | execution (fault : ExecutionFault)
  | config (fault : ConfigFault)
  | io (message : String)
  | internal (fault : InternalFault)
deriving DecidableEq

/-- the most arguments a native call can pass -/
def maxNativeArity : Nat := 4

def BodyFault.message : BodyFault → String
  | .emptyBody => "empty function body"
  | .noArgument i => s!"argument {i.toNat} out of range"
  | .argumentBeyondArity i n => s!"argument {i.toNat} out of range for arity {n.toNat}"
  | .tooFewOperands op depth => s!"{op.text} needs {op.pops} operands, stack holds {depth}"
  | .stackUnderflow => "operand stack underflow"
  | .noReturn => "function does not end with RETURN"
  | .told message => message

def CodegenFault.message : CodegenFault → String
  | .nullSymbol symbol => s!"refusing to register null pointer for symbol '{symbol}'"
  | .moduleAfterFinalization module library => s!"cannot add module '{module}' to finalized library '{library}'"
  | .undefinedSymbols library symbols =>
    s!"library '{library}' declares symbols it never defines: " ++ ", ".intercalate symbols
  | .unresolvedSymbol symbol library =>
    s!"symbol '{symbol}' is neither defined in library '{library}' nor registered as a native symbol"
  | .told message => message

def ExecutionFault.message : ExecutionFault → String
  | .argumentCount symbol takes got => s!"'{symbol}' takes {takes.toNat} arguments, got {got}"
  | .undefinedTemp symbol temp => s!"'{symbol}' reads undefined temporary %{temp.toNat}"
  | .noArgument i => s!"argument {i.toNat} out of range"
  | .undefinedResult op symbol => s!"{op.name} by zero in '{symbol}'"
  | .noReturn symbol => s!"'{symbol}' fell off the end without returning"
  | .nullAddress symbol => s!"'{symbol}' resolved to a null pointer"
  | .tooManyArguments symbol => s!"'{symbol}': native calls support at most {maxNativeArity} arguments"
  | .nothingToCall function => s!"'{function}' was lowered with no_compile, nothing to call"
  | .told message => message

def ConfigFault.message : ConfigFault → String
  | .notABoolean value name => s!"invalid value '{value}' for {name}, expected a boolean"
  | .told message => message

def InternalFault.message : InternalFault → String
  | .notAPointer key held => s!"metadata key '{key}' holds {held.text}, expected a pointer"
  | .notAString key held => s!"metadata key '{key}' holds {held.text}, expected a string"
  | .noModule function => s!"'{function}': no code module, environment object was never emitted"
  | .moduleHandedOver function => s!"'{function}': module already handed to the library"
  | .noEnvironment function => s!"'{function}' lowered without an environment object"
  | .analysisMutated pass => s!"analysis-only pass '{pass}' reported a mutation"
  | .noResult pipeline function => s!"pipeline '{pipeline}' finished without a lowering result for '{function}'"
  | .told message => message

def Error.message : Error → String
  | .missingArtifact function key =>
    s!"Missing native artifact for '{function}': metadata key '{key}' not present"
  | .providerDeclined function provider => s!"Native function provider '{provider}' has no artifact for '{function}'"
  | .invalidBytecode function offset fault =>
    s!"Invalid bytecode in '{function}' at offset {offset}: {fault.message}"
  | .codegen fault => "Code generation error: " ++ fault.message
  | .execution fault => "Execution error: " ++ fault.message
  | .config fault => "Configuration error: " ++ fault.message
  | .io message => "IO error: " ++ message
  | .internal fault => "Internal compiler error: " ++ fault.message

/-- whether another pipeline may be tried after this error -/
def Error.allowsFallback : Error → Bool
  | .providerDeclined .. => true
  | _ => false

/-- how work in progress can stop: with an error, or with a crash (a pass that gives up without one, a jump to an
address where no function of that arity is) -/
inductive Fault where
  | error (e : Error)
  | crash
deriving DecidableEq

end Graft
