import ShieldedLedger.Command.Run

/-!
# The command line

The outer layer: it reads files and the environment, and prints.

## Main definitions

* `main`
-/

namespace ShieldedLedger

/-- How the program is used. -/
def usageText : String :=
  "Inspect wallet ledger records and their confirmation status\n\nUsage:\n"
    ++ "  report --bundle <BUNDLE> [--network main|test|regtest] [--json]\n"
    ++ "  params [--network main|test|regtest] [--json]\n"

/-- What is wrong with the arguments, in words. -/
def UsageError.message : UsageError → String
  | noCommand => "a command is required"
  | unknownCommand => "unrecognized subcommand"
  | unknownArgument => "unexpected argument found"
  | repeatedOption => "an option cannot be used multiple times"
  | badValue => "a value is missing or not possible"
  | missingOption => "required arguments were not provided"
  | unwantedValue => "unexpected value for an option that takes none"

/-- Why a file could not be read. -/
def FileFault.ofError : IO.Error → FileFault
  | .noFileOrDirectory .. => .absent
  | .permissionDenied .. => .denied
  | .inappropriateType _ code _ => if code = 21 then .isDirectory else .notDirectory
  | .invalidArgument _ code _ => if code = 22 then .badName else .nameTooLong
  | .userError _ => .notText
  | e => .other e.toString

/-- Reads a file. -/
def readFile (path : String) : IO (Except FileFault String) := do
  try
    return .ok (← IO.FS.readFile path)
  catch e =>
    return .error (.ofError e)

/-- The environment variables that the program asks for. -/
def environmentNames : List String :=
  networkVariable :: [ParamsField.lockTimeThreshold, .coinbaseMaturity, .recommendedConfirmations,
    .staleWindow, .operationFee].map ParamsField.envName

/-- The values that the environment of the process has for some names. -/
def readEnvironment (names : List String) : IO Environment := do
  let values ← names.mapM fun name => return (name, ← IO.getEnv name)
  return fun name => (values.lookup name).join

/-- The files that a command may read. -/
def pathsOf : Except UsageError Invocation → List String
  | .ok (.report path _ _) => [".env", path]
  | _ => [".env"]

end ShieldedLedger

open ShieldedLedger in
/-- Runs the program on its arguments. -/
def main (args : List String) : IO UInt32 := do
  let files ← (pathsOf (Invocation.parse args)).mapM fun path => return (path, ← readFile path)
  let read (path : String) : Except FileFault String := (files.lookup path).getD (.error .absent)
  let mentioned :=
    match read ".env" with
    | .ok text => EnvFile.mentioned text
    | .error _ => []
  let env ← readEnvironment (environmentNames ++ mentioned)
  match runProgram env read args with
  | .printed text => IO.print text; return 0
  | .help => IO.print usageText; return 0
  | .misused e => IO.eprint ("error: " ++ e.message ++ "\n\n" ++ usageText); return 2
  | .failed failure => IO.eprint failure.report; return 1
