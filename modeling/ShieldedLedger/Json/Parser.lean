import ShieldedLedger.Json.Basic
import ShieldedLedger.Json.Double

/-!
# Reading JSON text

The text is one value between blanks. The grammar is the strict one: no comments, no trailing
commas, no leading zeros, no control characters in strings.

## Main definitions

* `Json.parse?`: the value of a text

The functions work on lists of characters and return what follows. Recursion is bounded by the
length of the text: every call that does not end consumes a character after at most one more call.
-/

namespace ShieldedLedger.Json

/-- The four blanks of JSON text. -/
def isBlank (c : Char) : Bool := c == ' ' || c == '\t' || c == '\n' || c == '\r'

/-- The text after blanks. -/
def skipBlanks (cs : List Char) : List Char := cs.dropWhile isBlank

/-! ### Strings -/

/-- One element of a string: a character, or a unit given by its number. -/
inductive Piece where
  | char (c : Char)
  | unit (n : Nat)
  deriving DecidableEq, Repr

/-- The value of a hexadecimal digit. -/
def hexValue? (c : Char) : Option Nat :=
  if '0' ≤ c ∧ c ≤ '9' then some (c.toNat - 48)
  else if 'a' ≤ c ∧ c ≤ 'f' then some (c.toNat - 87)
  else if 'A' ≤ c ∧ c ≤ 'F' then some (c.toNat - 55)
  else none

/-- The number of four hexadecimal digits. -/
def unit? (a b c d : Char) : Option Nat := do
  return (((← hexValue? a) * 16 + (← hexValue? b)) * 16 + (← hexValue? c)) * 16 + (← hexValue? d)

/-- The character of an escape of one letter. -/
def escape? : Char → Option Char
  | '"' => some '"'
  | '\\' => some '\\'
  | '/' => some '/'
  | 'b' => some '\x08'
  | 'f' => some '\x0c'
  | 'n' => some '\n'
  | 'r' => some '\r'
  | 't' => some '\t'
  | _ => none

/-- The elements of a string up to its closing quote, after those already read in reverse. -/
def pieces (before : List Piece) : List Char → Option (List Piece × List Char)
  | [] => none
  | '"' :: rest => some (before.reverse, rest)
  | '\\' :: 'u' :: a :: b :: c :: d :: rest =>
    match unit? a b c d with
    | some n => pieces (.unit n :: before) rest
    | none => none
  | '\\' :: e :: rest =>
    match escape? e with
    | some c => pieces (.char c :: before) rest
    | none => none
  | c :: rest => if c.toNat < 0x20 then none else pieces (.char c :: before) rest

/-- The first unit of a surrogate pair. -/
def isHighSurrogate (n : Nat) : Bool := 0xD800 ≤ n && n < 0xDC00

/-- The second unit of a surrogate pair. -/
def isLowSurrogate (n : Nat) : Bool := 0xDC00 ≤ n && n < 0xE000

/-- The characters of a string, unless half of a surrogate pair stands alone. -/
def assemble (before : List Char) : List Piece → Option (List Char)
  | [] => some before.reverse
  | .char c :: rest => assemble (c :: before) rest
  | .unit n :: rest =>
    if isLowSurrogate n then none
    else if isHighSurrogate n then
      match rest with
      | .unit m :: rest' =>
        if isLowSurrogate m then
          assemble (Char.ofNat (0x10000 + (n - 0xD800) * 0x400 + (m - 0xDC00)) :: before) rest'
        else none
      | _ => none
    else assemble (Char.ofNat n :: before) rest

/-- The string after an opening quote; the first part is `none` if it has no content. -/
def stringBody (cs : List Char) : Option (Option String × List Char) :=
  (pieces [] cs).map fun (ps, rest) => ((assemble [] ps).map String.ofList, rest)

/-! ### Numbers -/

/-- The number of some digits. -/
def digitsValue (cs : List Char) : Nat := cs.foldl (fun n c => 10 * n + (c.toNat - 48)) 0

/-- One or more digits, and what follows. -/
def digits1? (cs : List Char) : Option (List Char × List Char) :=
  let ds := cs.takeWhile Char.isDigit
  if ds.isEmpty then none else some (ds, cs.dropWhile Char.isDigit)

/-- The digits before the point: a lone zero, or digits that do not start with one. -/
def wholePart? : List Char → Option (List Char × List Char)
  | '0' :: rest => some (['0'], rest)
  | cs => digits1? cs

/-- The digits after a point, if there is one. -/
def fraction? : List Char → Option (Option (List Char) × List Char)
  | '.' :: rest => (digits1? rest).map fun (ds, rest) => (some ds, rest)
  | cs => some (none, cs)

/-- The text of an exponent, if there is one, with its value. -/
def exponent? : List Char → Option (Option (List Char × Int) × List Char)
  | e :: rest =>
    if e == 'e' || e == 'E' then
      match rest with
      | '-' :: rest =>
        (digits1? rest).map fun (ds, rest) => (some (e :: '-' :: ds, -(digitsValue ds)), rest)
      | '+' :: rest =>
        (digits1? rest).map fun (ds, rest) => (some (e :: '+' :: ds, digitsValue ds), rest)
      | _ => (digits1? rest).map fun (ds, rest) => (some (e :: ds, digitsValue ds), rest)
    else some (none, e :: rest)
  | [] => some (none, [])

/-- A number without its sign. -/
def unsignedNumber? (negative : Bool) (cs : List Char) : Option (Json × List Char) := do
  let (whole, rest) ← wholePart? cs
  let (fraction, rest) ← fraction? rest
  let (power, rest) ← exponent? rest
  let scaled := Double.Scaled.ofDigits whole (fraction.getD []) ((power.map Prod.snd).getD 0)
  let value : Json :=
    if scaled.isTooLarge then unreadable
    else if fraction.isSome || power.isSome || (negative && digitsValue whole == 0) then
      let sign := if negative then ['-'] else []
      let point := (fraction.map ('.' :: ·)).getD []
      real (String.ofList (sign ++ whole ++ point ++ (power.map Prod.fst).getD []))
    else if negative then int (-(digitsValue whole))
    else int (digitsValue whole)
  return (value, rest)

/-- A number. -/
def number? : List Char → Option (Json × List Char)
  | '-' :: cs => unsignedNumber? true cs
  | cs => unsignedNumber? false cs

/-! ### Values -/

/-- How deeply containers may be nested before their content is no longer read. -/
def maxNesting : Nat := 127

/-- A container's value, unless it stands too deep. -/
def nested (level : Nat) (j : Json) : Json := if level < maxNesting then j else unreadable

/-- The object of some members, unless one of the names has no content. -/
def objectOf (members : List (Option String × Json)) : Json :=
  match members.mapM fun m => m.1.map (·, m.2) with
  | some named => object named
  | none => unreadable

mutual

/-- A value inside `level` containers. -/
def value? : (fuel level : Nat) → List Char → Option (Json × List Char)
  | 0, _, _ => none
  | fuel + 1, level, cs =>
    match skipBlanks cs with
    | 'n' :: 'u' :: 'l' :: 'l' :: rest => some (null, rest)
    | 't' :: 'r' :: 'u' :: 'e' :: rest => some (bool true, rest)
    | 'f' :: 'a' :: 'l' :: 's' :: 'e' :: rest => some (bool false, rest)
    | '"' :: rest => (stringBody rest).map fun (s, rest) => ((s.map string).getD unreadable, rest)
    | '[' :: rest =>
      match skipBlanks rest with
      | ']' :: rest => some (nested level (array []), rest)
      | rest => (elements? fuel level [] rest).map fun (js, rest) => (nested level (array js), rest)
    | '{' :: rest =>
      match skipBlanks rest with
      | '}' :: rest => some (nested level (object []), rest)
      | rest => (members? fuel level [] rest).map fun (ms, rest) => (nested level (objectOf ms), rest)
    | rest => number? rest

/-- The elements up to the end of an array, after those already read in reverse. -/
def elements? : (fuel level : Nat) → List Json → List Char → Option (List Json × List Char)
  | 0, _, _, _ => none
  | fuel + 1, level, before, cs =>
    match value? fuel (level + 1) cs with
    | none => none
    | some (j, rest) =>
      match skipBlanks rest with
      | ',' :: rest => elements? fuel level (j :: before) rest
      | ']' :: rest => some ((j :: before).reverse, rest)
      | _ => none

/-- The members up to the end of an object, after those already read in reverse. -/
def members? : (fuel level : Nat) → List (Option String × Json) → List Char →
    Option (List (Option String × Json) × List Char)
  | 0, _, _, _ => none
  | fuel + 1, level, before, cs =>
    match skipBlanks cs with
    | '"' :: rest =>
      match stringBody rest with
      | some (name, rest) =>
        match skipBlanks rest with
        | ':' :: rest =>
          match value? fuel (level + 1) rest with
          | none => none
          | some (j, rest) =>
            match skipBlanks rest with
            | ',' :: rest => members? fuel level ((name, j) :: before) rest
            | '}' :: rest => some (((name, j) :: before).reverse, rest)
            | _ => none
        | _ => none
      | _ => none
    | _ => none

end

/-- The value of a text. -/
def parse? (text : String) : Option Json :=
  let cs := text.toList
  match value? (2 * cs.length + 2) 0 cs with
  | some (j, rest) => if (skipBlanks rest).isEmpty then some j else none
  | none => none

end ShieldedLedger.Json
