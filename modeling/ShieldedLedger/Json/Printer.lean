import ShieldedLedger.Json.Basic
import ShieldedLedger.Text.Basic

/-!
# Writing JSON text

A value is written on one line without blanks, or over several lines with two spaces for each level
of nesting. Characters outside ASCII are written as they are.

## Main definitions

* `Json.compact`: on one line
* `Json.pretty`: over several lines
-/

namespace ShieldedLedger.Json

/-- A control character by its number, with four lower-case digits. -/
def controlEscape (c : Char) : List Char :=
  ['\\', 'u'] ++ (Nat.toDigits 16 c.toNat).leftpad 4 '0'

/-- A character as it stands in a string. -/
def escapeChar (c : Char) : List Char :=
  if c = '"' then ['\\', '"']
  else if c = '\\' then ['\\', '\\']
  else if c = '\n' then ['\\', 'n']
  else if c = '\r' then ['\\', 'r']
  else if c = '\t' then ['\\', 't']
  else if c = '\x08' then ['\\', 'b']
  else if c = '\x0c' then ['\\', 'f']
  else if c.toNat < 0x20 then controlEscape c
  else [c]

/-- A string between quotes. -/
def quote (s : String) : String :=
  "\"" ++ String.ofList (s.toList.flatMap escapeChar) ++ "\""

/-! ### On one line -/

mutual

/-- The value on one line; what has no content is written as `null`. -/
def compact : Json → String
  | null | unreadable => "null"
  | bool b => if b then "true" else "false"
  | int z => Decimal.ofInt z
  | real literal => literal
  | string s => quote s
  | array elements => "[" ++ compactElements elements ++ "]"
  | object members => "\x7b" ++ compactMembers members ++ "\x7d"

/-- The elements, with commas between them. -/
def compactElements : List Json → String
  | [] => ""
  | [j] => compact j
  | j :: rest => compact j ++ "," ++ compactElements rest

/-- The members, with commas between them. -/
def compactMembers : List (String × Json) → String
  | [] => ""
  | [(name, j)] => quote name ++ ":" ++ compact j
  | (name, j) :: rest => quote name ++ ":" ++ compact j ++ "," ++ compactMembers rest

end

/-! ### Over several lines -/

/-- A new line at a level of nesting. -/
def newline (level : Nat) : String := String.ofList ('\n' :: List.replicate (2 * level) ' ')

mutual

/-- The value over several lines, inside `level` containers. -/
def prettyAt (level : Nat) : Json → String
  | null | unreadable => "null"
  | bool b => if b then "true" else "false"
  | int z => Decimal.ofInt z
  | real literal => literal
  | string s => quote s
  | array [] => "[]"
  | array elements => "[" ++ prettyElements (level + 1) elements ++ newline level ++ "]"
  | object [] => "\x7b\x7d"
  | object members => "\x7b" ++ prettyMembers (level + 1) members ++ newline level ++ "\x7d"

/-- The elements, each on lines of its own. -/
def prettyElements (level : Nat) : List Json → String
  | [] => ""
  | [j] => newline level ++ prettyAt level j
  | j :: rest => newline level ++ prettyAt level j ++ "," ++ prettyElements level rest

/-- The members, each on lines of its own. -/
def prettyMembers (level : Nat) : List (String × Json) → String
  | [] => ""
  | [(name, j)] => newline level ++ quote name ++ ": " ++ prettyAt level j
  | (name, j) :: rest =>
    newline level ++ quote name ++ ": " ++ prettyAt level j ++ "," ++ prettyMembers level rest

end

/-- The value over several lines. -/
def pretty (j : Json) : String := prettyAt 0 j

end ShieldedLedger.Json
