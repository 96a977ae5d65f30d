import ShieldedLedger.Error
import ShieldedLedger.Json.Basic

/-!
# Reading typed values from JSON

A reader turns a JSON value into a value of some type or says why that is impossible. Records may
be written as objects, in any order and with unknown members, or as arrays of their fields in order;
fields at the end of an array may be missing if they have a default.

## Main definitions

* `ReadError`: the causes of failure
* `Json.Reader`, with readers for single values, lists, maps and choices
* `Json.Fields`: access to the fields of a record
-/

namespace ShieldedLedger

/-- Why a JSON value is not of the wanted type. -/
inductive ReadError where
  /-- A field without a default is absent. -/
  | missingField (name : String)
  /-- A field is given twice. -/
  | duplicateField (name : String)
  /-- A choice has no alternative of this name. -/
  | unknownVariant (name : String) (known : List String)
  /-- A text is no transaction hash. -/
  | badHash (fault : HashFault)
  /-- The value is of another type, is out of range or is no JSON at all. -/
  | mismatch
  deriving DecidableEq, Repr

namespace ReadError

/-- A name between back quotes. -/
def ticked (name : String) : String := "`" ++ name ++ "`"

/-- The alternatives of a choice, in words. -/
def alternatives : List String → String
  | [a] => ticked a
  | [a, b] => ticked a ++ " or " ++ ticked b
  | names => "one of " ++ ", ".intercalate (names.map ticked)

/-- The error in words, where its wording is fixed. -/
def message? : ReadError → Option String
  | missingField name => some ("missing field " ++ ticked name)
  | duplicateField name => some ("duplicate field " ++ ticked name)
  | unknownVariant name known =>
    some ("unknown variant " ++ ticked name ++ ", expected " ++ alternatives known)
  | badHash fault => some (LedgerError.invalidHash fault).message
  | mismatch => none

end ReadError

namespace Json

/-- A reader of values of some type. -/
abbrev Reader (α : Type) := Json → Except ReadError α

namespace Reader

variable {α κ : Type}

/-! ### Single values -/

/-- A truth value. -/
def bool : Reader Bool
  | .bool b => .ok b
  | _ => .error .mismatch

/-- A text. -/
def string : Reader String
  | .string s => .ok s
  | _ => .error .mismatch

/-- An integer between two bounds. -/
def intIn (low high : Int) : Reader Int
  | .int z => if low ≤ z ∧ z ≤ high then .ok z else .error .mismatch
  | _ => .error .mismatch

/-- A signed integer of 32 bits. -/
def int32 : Reader Int := intIn (-2147483648) 2147483647

/-- A signed integer of 64 bits. -/
def int64 : Reader Int := intIn (-9223372036854775808) 9223372036854775807

/-- A natural number below a bound. -/
def natBelow (bound : Nat) : Reader Nat
  | .int (.ofNat n) => if n < bound then .ok n else .error .mismatch
  | _ => .error .mismatch

/-- A word of 32 bits. -/
def uint32 : Reader UInt32 := fun j => return UInt32.ofNat (← natBelow UInt32.size j)

/-- A byte. -/
def uint8 : Reader UInt8 := fun j => return UInt8.ofNat (← natBelow UInt8.size j)

/-! ### Composite values -/

/-- A value, or `null`. -/
def nullable (r : Reader α) : Reader (Option α)
  | .null => .ok none
  | j => some <$> r j

/-- A list. -/
def list (r : Reader α) : Reader (List α)
  | .array elements => elements.mapM r
  | _ => .error .mismatch

/-- A list of bytes. -/
def bytes : Reader (List UInt8) := list uint8

/-- A set of texts. -/
def textSet : Reader (SortedSet String) := fun j => return SortedSet.ofMembers (← list string j)

section Maps

variable [LT κ] [DecidableEq κ] [DecidableLT κ] [LE κ] [Std.IsLinearOrder κ] [Std.LawfulOrderLT κ]

/-- An object whose names are keys; of two members with one key the later one counts. -/
def map (key : String → Except ReadError κ) (r : Reader α) : Reader (SortedMap κ α)
  | .object members =>
    return SortedMap.ofList (← members.mapM fun m => return (← key m.1, ← r m.2))
  | _ => .error .mismatch

end Maps

/-- A map with texts as keys. -/
def textMap (r : Reader α) : Reader (SortedMap String α) := map .ok r

/-- The alternative of a name. -/
def alternative (all : List α) (name : α → String) (s : String) : Except ReadError α :=
  match all.find? fun a => name a == s with
  | some a => .ok a
  | none => .error (.unknownVariant s (all.map name))

/-- One of some named alternatives, as its name. -/
def plainChoice (all : List α) (name : α → String) : Reader α
  | .string s => alternative all name s
  | _ => .error .mismatch

/-- One of some named alternatives, as its name or as an object that gives nothing to the name. -/
def choice (all : List α) (name : α → String) : Reader α
  | .object [(s, .null)] => alternative all name s
  | .object ((s, _) :: _) => do
    let _ ← alternative all name s
    .error .mismatch
  | j => plainChoice all name j

end Reader

/-! ### Records -/

/-- The fields of a record, and the error that reports an absent one. -/
structure Fields where
  /-- The value of a field. -/
  value? : String → Option Json
  /-- The error for an absent field. -/
  absent : String → ReadError

/-- The first of some names that a list of members gives for the second time, if it was not seen
before the list. -/
def firstRepeated? (names seen : List String) : List (String × Json) → Option String
  | [] => none
  | (name, _) :: rest =>
    if !names.contains name then firstRepeated? names seen rest
    else if seen.contains name then some name
    else firstRepeated? names (name :: seen) rest

namespace Fields

variable {α : Type}

/-- The fields of a record with these names, in order. -/
def of (names : List String) : Json → Except ReadError Fields
  | .object members =>
    match firstRepeated? names [] members with
    | some name => .error (.duplicateField name)
    | none => .ok ⟨(members.lookup ·), .missingField⟩
  | .array elements =>
    if names.length < elements.length then .error .mismatch
    else .ok ⟨((names.zip elements).lookup ·), fun _ => .mismatch⟩
  | _ => .error .mismatch

/-- Reads a field if it is there. -/
def get? (fs : Fields) (name : String) (r : Reader α) : Except ReadError (Option α) :=
  match fs.value? name with
  | some j => some <$> r j
  | none => .ok none

/-- The value of a field that has no default. -/
def require (fs : Fields) (name : String) : Option α → Except ReadError α
  | some a => .ok a
  | none => .error (fs.absent name)

end Fields

end Json

end ShieldedLedger
