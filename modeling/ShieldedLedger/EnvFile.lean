import ShieldedLedger.Environment
import ShieldedLedger.Text.Alphanumeric

/-!
# Environment files

An environment file assigns values to variables, one to a line. A value may be quoted, may continue
on the next line inside quotes, and may name other variables, whose values take their place. What
is already set is kept, and nothing after the first bad line counts.

## Main definitions

* `EnvFile.logicalLines`: lines, where quotes may hide a line break
* `EnvFile.expand`: the value of a right-hand side
* `EnvFile.sides?`: the name and the right-hand side of a line
* `EnvFile.load`: an environment with the assignments of a file
* `EnvFile.mentioned`: the variables whose values a file may ask for
-/

namespace ShieldedLedger.EnvFile

/-! ### Lines -/

/-- Where the end of a physical line leaves the reader. -/
inductive LineState where
  /-- Outside of quotes. -/
  | complete
  /-- After a blank outside of quotes. -/
  | afterBlank
  /-- After a backslash outside of quotes. -/
  | escape
  /-- Inside single quotes. -/
  | strong
  /-- After a backslash inside single quotes. -/
  | strongEscape
  /-- Inside double quotes. -/
  | weak
  /-- After a backslash inside double quotes. -/
  | weakEscape
  deriving DecidableEq, Repr

/-- What a character outside of quotes begins. -/
def LineState.afterPlain : Char → LineState
  | '\\' => escape
  | '"' => weak
  | '\'' => strong
  | _ => complete

/-- The state after one more character. -/
def LineState.next (c : Char) : LineState → LineState
  | complete =>
    if Text.isBlank c && c != '\n' && c != '\r' then afterBlank else afterPlain c
  | afterBlank => afterPlain c
  | escape => complete
  | weak => if c == '\\' then weakEscape else if c == '"' then complete else weak
  | weakEscape => weak
  | strong => if c == '\\' then strongEscape else if c == '\'' then complete else strong
  | strongEscape => strong

/-- Reads a physical line from a state. The result is the state at its end, or, if a comment begins
on the line, the characters before it. -/
def scan (state : LineState) (before : List Char) : List Char → LineState ⊕ List Char
  | [] => .inl state
  | c :: rest =>
    if state = .afterBlank ∧ c = '#' then .inr before.reverse
    else scan (state.next c) (c :: before) rest

/-- The physical lines of a text, each with its line break. -/
def physicalLines (line : List Char) : List Char → List (List Char)
  | [] => if line.isEmpty then [] else [line.reverse]
  | '\n' :: rest => ('\n' :: line).reverse :: physicalLines [] rest
  | c :: rest => physicalLines (c :: line) rest

/-- A line without its line break. -/
def chomp (line : List Char) : List Char :=
  match line.reverse with
  | '\n' :: '\r' :: rest => rest.reverse
  | '\n' :: rest => rest.reverse
  | _ => line

/-- The logical lines of some physical ones, after the beginning of one that is not complete. A text
that ends within a line has no such line, which is marked by `none`. -/
def joinLines (begun : List Char) (state : LineState) :
    List (List Char) → List (Option (List Char))
  | [] => if state = .complete then [] else [none]
  | line :: rest =>
    let whole := begun ++ line
    if (whole.dropWhile Text.isBlank).head? = some '#' then
      some [] :: joinLines [] .complete rest
    else
      match scan state [] line with
      | .inr beforeComment => some (begun ++ beforeComment) :: joinLines [] .complete rest
      | .inl .complete => some (chomp whole) :: joinLines [] .complete rest
      | .inl open_ => joinLines whole open_ rest

/-- The logical lines of a text, without a byte order mark. -/
def logicalLines (text : List Char) : List (Option (List Char)) :=
  let text := if text.head? = some '\uFEFF' then text.tail else text
  joinLines [] .complete (physicalLines [] text)

/-! ### Values -/

/-- What the next character of a value means. -/
inductive ValueMode where
  /-- Itself. -/
  | text
  /-- The second half of an escape. -/
  | escaped
  /-- Part of a text in single quotes. -/
  | strong
  /-- Part of the name of a variable, so far in reverse. -/
  | variableName (name : List Char)
  /-- Part of a name in braces, so far in reverse. -/
  | bracedName (name : List Char)
  /-- Nothing: the value has ended. -/
  | ended
  deriving DecidableEq, Repr

/-- How far a value has been read. -/
structure ValueState where
  /-- What the next character means. -/
  mode : ValueMode := .text
  /-- Whether double quotes are open. -/
  weak : Bool := false
  /-- The value so far, in reverse. -/
  value : List Char := []
  deriving DecidableEq, Repr

namespace ValueState

/-- Adds a character to the value. -/
def push (s : ValueState) (c : Char) : ValueState := { s with mode := .text, value := c :: s.value }

/-- Adds the value of a variable whose name is given in reverse. -/
def substitute (s : ValueState) (lookup : String → String) (name : List Char) : ValueState :=
  { s with
    mode := .text
    value := (lookup (String.ofList name.reverse)).toList.reverse ++ s.value }

/-- Continues in another mode. -/
def into (s : ValueState) (mode : ValueMode) : ValueState := { s with mode }

/-- The second half of an escape. -/
def unescape (s : ValueState) (c : Char) : Option ValueState :=
  if c = 'n' then some (s.push '\n')
  else if c ∈ ['\\', '\'', '"', '$', ' '] then some (s.push c)
  else none

/-- A character that stands for itself unless it is special. -/
def plain (s : ValueState) (c : Char) : ValueState :=
  if c = '$' then s.into (.variableName [])
  else if c = '\\' then s.into .escaped
  else if c = '"' then { s with weak := !s.weak }
  else if s.weak then s.push c
  else if c = '\'' then s.into .strong
  else if c = ' ' ∨ c = '\t' then s.into .ended
  else s.push c

end ValueState

/-- Reads a value to its end. A bare variable name is as long as there are letters and digits, of any
script; the first character after it stands for itself, whatever it is. -/
def readValue (lookup : String → String) (s : ValueState) : List Char → Option ValueState
  | [] => some s
  | c :: rest =>
    match s.mode with
    | .text => readValue lookup (s.plain c) rest
    | .escaped => (s.unescape c).bind fun s => readValue lookup s rest
    | .strong => readValue lookup (if c = '\'' then s.into .text else (s.push c).into .strong) rest
    | .variableName name =>
      if Text.isAlphanumeric c then readValue lookup (s.into (.variableName (c :: name))) rest
      else if c = '{' ∧ name = [] then readValue lookup (s.into (.bracedName [])) rest
      else
        let s := s.substitute lookup name
        readValue lookup (if c = '$' then s.into (.variableName []) else s.push c) rest
    | .bracedName name =>
      if c = '}' then readValue lookup (s.substitute lookup name) rest
      else readValue lookup (s.into (.bracedName (c :: name))) rest
    | .ended =>
      if c = ' ' ∨ c = '\t' then readValue lookup s rest
      else if c = '#' then some s
      else none

/-- The value of a right-hand side; quotes and braces must be closed. -/
def expand (lookup : String → String) (cs : List Char) : Option String := do
  let s ← readValue lookup {} cs
  let s ←
    match s.mode with
    | .variableName name => some (s.substitute lookup name)
    | .strong | .bracedName _ => none
    | _ => some s
  if s.weak then none else some (String.ofList s.value.reverse)

/-! ### Assignments -/

/-- A variable's name, and what follows it. -/
def key? (cs : List Char) : Option (List Char × List Char) :=
  match cs with
  | c :: _ =>
    if c.isAlpha || c == '_' then
      some (cs.span fun c => c.isAlphanum || c == '_' || c == '.')
    else none
  | [] => none

/-- What follows an equals sign, without blanks around the sign. -/
def afterEquals? (cs : List Char) : Option (List Char) :=
  match cs.dropWhile Text.isBlank with
  | '=' :: rest => some (rest.dropWhile Text.isBlank)
  | _ => none

/-- The name and the right-hand side of a line. The word `export` before the name is skipped; alone
before an equals sign it is a name. -/
def sides? (cs : List Char) : Option (List Char × List Char) := do
  let (name, rest) ← key? cs
  match afterEquals? rest with
  | some value => return (name, value)
  | none =>
    if name = "export".toList then
      let (name, rest) ← key? (rest.dropWhile Text.isBlank)
      return (name, ← afterEquals? rest)
    else none

/-- The value that stands for a variable; one that is not set stands for the empty text. -/
def valueOf (env : Environment) (name : String) : String := (env name).getD ""

/-- The environment with one more variable; a variable that is set keeps its value. -/
def define (env : Environment) (name value : String) : Environment := fun other =>
  if other = name then some ((env name).getD value) else env other

/-- Carries out a line, if it can be read. A blank line or a comment does nothing. -/
def run (env : Environment) (line : List Char) : Option Environment :=
  match Text.trimChars line with
  | [] | '#' :: _ => some env
  | cs => do
    let (name, value) ← sides? cs
    let value ←
      match value with
      | [] | '#' :: _ => some ""
      | value => expand (valueOf env) value
    return define env (String.ofList name) value

/-- Carries out lines up to the first that cannot be read. -/
def runAll (env : Environment) : List (Option (List Char)) → Environment
  | some line :: rest =>
    match run env line with
    | some env => runAll env rest
    | none => env
  | _ => env

/-- The names after the dollar signs of a text. -/
def namesAfterDollar : List Char → List String
  | [] => []
  | '$' :: '{' :: rest =>
    String.ofList (rest.takeWhile (· != '\x7d')) :: namesAfterDollar rest
  | '$' :: rest => String.ofList (rest.takeWhile Text.isAlphanumeric) :: namesAfterDollar rest
  | _ :: rest => namesAfterDollar rest

/-- The names of all variables whose values a file may ask for. -/
def mentioned (text : String) : List String := namesAfterDollar text.toList

/-- The environment with the assignments of a file. -/
def load (text : String) (env : Environment) : Environment := runAll env (logicalLines text.toList)

end ShieldedLedger.EnvFile
