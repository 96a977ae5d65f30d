import ShieldedLedger.Command.Arguments
import ShieldedLedger.Command.Render
import ShieldedLedger.EnvFile

/-!
# The program

The program reads its arguments, an environment file and possibly a saved bundle, and prints text.
It is a function of the environment and of the files it can read.

## Main definitions

* `FileFault`: why a file cannot be read
* `Outcome`: what the program does in the end
* `resolveParams`: the effective parameters, and where they come from
* `Invocation.run`, `runProgram`
-/

namespace ShieldedLedger

/-- Why a file cannot be read. -/
inductive FileFault where
  /-- There is no file of that name. -/
  | absent
  /-- The file is a directory. -/
  | isDirectory
  /-- A part of the path is not a directory. -/
  | notDirectory
  /-- The file may not be read. -/
  | denied
  /-- A part of the path, or the whole, is longer than names can be. -/
  | nameTooLong
  /-- The path has a character that names cannot have. -/
  | badName
  /-- The content is not text. -/
  | notText
  /-- Anything else, in words. -/
  | other (reason : String)
  deriving DecidableEq, Repr

/-- Why a file cannot be read, in words; with its number if the operating system says so. -/
def FileFault.message : FileFault → String
  | absent => "No such file or directory (os error 2)"
  | denied => "Permission denied (os error 13)"
  | notDirectory => "Not a directory (os error 20)"
  | isDirectory => "Is a directory (os error 21)"
  | nameTooLong => "File name too long (os error 36)"
  | badName => "file name contained an unexpected NUL byte"
  | notText => "stream did not contain valid UTF-8"
  | other reason => reason

/-- What a failure goes back to. -/
inductive Cause where
  | file (fault : FileFault)
  | json (error : ReadError)
  | ledger (error : LedgerError)
  deriving DecidableEq, Repr

/-- The cause in words. -/
def Cause.message : Cause → String
  | file fault => fault.message
  | json error => error.message?.getD "invalid JSON"
  | ledger error => error.message

/-- A failure of the program: what it was doing, and why that failed. -/
structure Failure where
  /-- What the program was doing. -/
  context : String
  /-- Why that failed. -/
  cause : Cause
  deriving DecidableEq, Repr

/-- The failure as it is reported; further lines of the cause are set in like the first. -/
def Failure.report (f : Failure) : String :=
  let indented := f.cause.message.toList.flatMap fun c =>
    if c = '\n' then "\n    ".toList else [c]
  "Error: " ++ f.context ++ "\n\nCaused by:\n    " ++ String.ofList indented ++ "\n"

/-- What the program does in the end. -/
inductive Outcome where
  /-- It prints a text. -/
  | printed (text : String)
  /-- It explains its usage. -/
  | help
  /-- It cannot understand its arguments. -/
  | misused (error : UsageError)
  /-- It fails. -/
  | failed (failure : Failure)
  deriving DecidableEq, Repr

/-- Says what the program was doing when an error of the ledger arose. -/
def during {α : Type} (context : String) (r : Except LedgerError α) : Except Failure α :=
  r.mapError fun e => ⟨context, .ledger e⟩

/-- The effective parameters: those of the network that is asked for, with the overrides of the
environment, else those of the bundle, else those of the environment. -/
def resolveParams (env : Environment) (network? : Option Network) (saved? : Option Params) :
    Except Failure (Params × ParamsSource) :=
  match network?, saved? with
  | some network, _ => do
    let p ← during "invalid parameter override in environment"
      ((Params.forNetwork network).withOverrides env)
    return (p, .flag)
  | none, some saved => do
    during "bundle carries invalid parameters" saved.validate
    return (saved, .bundle)
  | none, none => do
    let p ← during "failed to load parameters" (Params.ofEnvironment env)
    return (p, .environment)

/-- Reads a saved bundle. -/
def loadBundle (readFile : String → Except FileFault String) (path : String) :
    Except Failure Bundle := do
  let text ← (readFile path).mapError fun fault => ⟨"failed to read " ++ path, .file fault⟩
  (Bundle.ofJson.ofText text).mapError fun e => ⟨"failed to parse " ++ path, .json e⟩

namespace Invocation

/-- Carries out a command and gives the text to print; `none` stands for the help text. -/
def run (env : Environment) (readFile : String → Except FileFault String) :
    Invocation → Except Failure (Option String)
  | report path network? json => do
    let bundle ← loadBundle readFile path
    let (p, _) ← resolveParams env network? bundle.params?
    let r ← during "wallet snapshot is inconsistent" (bundle.report p)
    return some (if json then r.json else r.table)
  | params network? json => do
    let (p, source) ← resolveParams env network? none
    return some (if json then p.summaryJson source else p.summary source)
  | help => return none

end Invocation

/-- The environment after the environment file, if there is one, was read. -/
def loadEnvironment (env : Environment) (readFile : String → Except FileFault String) :
    Environment :=
  match readFile ".env" with
  | .ok text => EnvFile.load text env
  | .error _ => env

/-- The whole program. -/
def runProgram (env : Environment) (readFile : String → Except FileFault String)
    (args : List String) : Outcome :=
  match Invocation.parse args with
  | .error e => .misused e
  | .ok invocation =>
    match invocation.run (loadEnvironment env readFile) readFile with
    | .ok (some text) => .printed text
    | .ok none => .help
    | .error failure => .failed failure

end ShieldedLedger
