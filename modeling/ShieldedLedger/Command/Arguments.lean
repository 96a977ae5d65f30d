import ShieldedLedger.Params

/-!
# Command-line arguments

There are two commands. Options are spelled out with two dashes; a value follows as the next
argument or after an equals sign. An option's value is checked when the next option is reached, so
an argument that cannot be understood at all is reported first.

## Main definitions

* `Invocation`: what the program is asked to do
* `UsageError`: why the arguments cannot be understood
* `Invocation.parse`
-/

namespace ShieldedLedger

/-- What the program is asked to do. -/
inductive Invocation where
  /-- Print the ledger of a saved bundle. -/
  | report (bundle : String) (network? : Option Network) (json : Bool)
  /-- Print the effective parameters. -/
  | params (network? : Option Network) (json : Bool)
  /-- Explain how the program is used. -/
  | help
  deriving DecidableEq, Repr

/-- Why the arguments cannot be understood. -/
inductive UsageError where
  /-- There is no command. -/
  | noCommand
  /-- The command is unknown. -/
  | unknownCommand
  /-- An argument is unknown, or one too many. -/
  | unknownArgument
  /-- An option is given twice. -/
  | repeatedOption
  /-- An option has no value, or one that it cannot have. -/
  | badValue
  /-- An option that must be given is not. -/
  | missingOption
  /-- A value is given to an option that has none. -/
  | unwantedValue
  deriving DecidableEq, Repr

/-- The commands that have options. -/
inductive CommandName where
  | report
  | params
  deriving DecidableEq, Repr

/-- The options that have a value. -/
inductive OptionName where
  | bundle
  | network
  deriving DecidableEq, Repr

namespace Arguments

/-- What an argument looks like. -/
inductive Form where
  /-- Two dashes alone. -/
  | endOfOptions
  /-- An option, with the value after its equals sign. -/
  | long (name : String) (value? : Option String)
  /-- One dash and at least one letter. -/
  | short (letter : Char)
  /-- Anything else. -/
  | plain
  deriving DecidableEq, Repr

/-- The form of an argument. -/
def formOf (arg : String) : Form :=
  match arg.toList with
  | ['-', '-'] => .endOfOptions
  | '-' :: '-' :: cs =>
    let name := cs.takeWhile (· != '=')
    .long (String.ofList name)
      (match cs.dropWhile (· != '=') with
      | _ :: value => some (String.ofList value)
      | [] => none)
  | '-' :: letter :: _ => .short letter
  | _ => .plain

/-! ### The options of a command -/

/-- The options read so far. -/
structure State where
  /-- The path of the bundle. -/
  bundle? : Option String := none
  /-- The network. -/
  network? : Option Network := none
  /-- Whether JSON is wanted. -/
  json : Bool := false
  /-- The last option, with its value once that is read. -/
  pending? : Option (OptionName × Option String) := none
  deriving DecidableEq, Repr

namespace State

/-- Takes the value of an option. -/
def store (s : State) (name : OptionName) (value : String) : Except UsageError State :=
  match name with
  | .bundle =>
    if s.bundle?.isSome then .error .repeatedOption
    else if value = "" then .error .badValue
    else .ok { s with bundle? := some value }
  | .network =>
    if s.network?.isSome then .error .repeatedOption
    else match [Network.main, .test, .regtest].find? fun n => n.name == value with
      | some n => .ok { s with network? := some n }
      | none => .error .badValue

/-- Takes the value of the last option. -/
def settle (s : State) : Except UsageError State :=
  match s.pending? with
  | none => .ok s
  | some (name, some value) => { s with pending? := none }.store name value
  | some (_, none) => .error .badValue

end State

/-- The option of a name, if the command has it. -/
def option? (command : CommandName) (name : String) : Option OptionName :=
  if name = "network" then some .network
  else if name = "bundle" ∧ command = .report then some .bundle
  else none

/-- What an option of the command line does; `none` asks for help. -/
def readLong (command : CommandName) (s : State) (name : String) (value? : Option String) :
    Except UsageError (Option State) :=
  if name = "help" then
    if value?.isSome then .error .unwantedValue else do
      let _ ← s.settle
      return none
  else if name = "json" then
    if value?.isSome then .error .unwantedValue else do
      let s ← s.settle
      if s.json then .error .repeatedOption else return some { s with json := true }
  else match option? command name with
    | some option => do
      let s ← s.settle
      match value? with
      | some value => return some (← s.store option value)
      | none => return some { s with pending? := some (option, none) }
    | none => .error .unknownArgument

/-- Reads the arguments of a command; `none` asks for help. -/
def readOptions (command : CommandName) (s : State) :
    List String → Except UsageError (Option State)
  | [] => some <$> s.settle
  | arg :: rest =>
    match formOf arg with
    | .endOfOptions => if rest.isEmpty then some <$> s.settle else .error .unknownArgument
    | .long name value? => do
      match ← readLong command s name value? with
      | some s => readOptions command s rest
      | none => return none
    | .short letter =>
      if letter = 'h' then do
        let _ ← s.settle
        return none
      else .error .unknownArgument
    | .plain =>
      match s.pending? with
      | some (name, none) =>
        readOptions command { s with pending? := some (name, some arg) } rest
      | _ => .error .unknownArgument

end Arguments

namespace Invocation

open Arguments

/-- Reads the arguments after a command. -/
def ofOptions (command : CommandName) (args : List String) : Except UsageError Invocation := do
  match ← readOptions command {} args with
  | none => return help
  | some s =>
    match command with
    | .params => return params s.network? s.json
    | .report =>
      match s.bundle? with
      | some bundle => return report bundle s.network? s.json
      | none => .error .missingOption

/-- Reads the arguments after `help`: at most one command. -/
def ofHelp : List String → Except UsageError Invocation
  | [] => .ok help
  | [name] => if name ∈ ["report", "params", "help"] then .ok help else .error .unknownCommand
  | _ => .error .unknownCommand

/-- Reads the arguments of the program. -/
def parse : List String → Except UsageError Invocation
  | [] => .error .noCommand
  | arg :: rest =>
    if arg = "report" then ofOptions .report rest
    else if arg = "params" then ofOptions .params rest
    else if arg = "help" then ofHelp rest
    else match formOf arg with
      | .endOfOptions =>
        match rest with
        | [] => .error .noCommand
        | next :: _ =>
          .error (if next ∈ ["report", "params", "help"] then .unknownArgument else .unknownCommand)
      | .long name value? =>
        if name = "help" then
          if value?.isSome then .error .unwantedValue else .ok help
        else .error .unknownArgument
      | .short letter => if letter = 'h' then .ok help else .error .unknownArgument
      | .plain => .error .unknownCommand

end Invocation

end ShieldedLedger
