/-!
# JSON values

A JSON value keeps what a strict reader must tell apart: the order and repetition of members, and
whether a number was written as an integer. A value that is well formed but has no content that
could be read may still stand where it is skipped.

## Main definitions

* `Json`
* `Json.member?`: the first member of a name
* `Json.isReadable`: nothing in the value is unreadable
-/

namespace ShieldedLedger

/-- A JSON value. -/
inductive Json where
  | null
  | bool (value : Bool)
  /-- A number written as an integer, other than `-0`. -/
  | int (value : Int)
  /-- Any other number, as it was written. -/
  | real (literal : String)
  | string (value : String)
  | array (elements : List Json)
  | object (members : List (String × Json))
  /-- A well-formed value without content: a text with half of a surrogate pair, an object with such
  a text as a name, a number too large for double precision, or containers nested too deeply. -/
  | unreadable
  deriving Repr, Inhabited

namespace Json

/-- The first member of a name, if the value is an object. -/
def member? (j : Json) (name : String) : Option Json :=
  match j with
  | object members => members.lookup name
  | _ => none

mutual

/-- Whether nothing in the value is unreadable. -/
def isReadable : Json → Bool
  | unreadable => false
  | array elements => areReadable elements
  | object members => membersReadable members
  | _ => true

/-- Whether nothing in a list of values is unreadable. -/
def areReadable : List Json → Bool
  | [] => true
  | j :: rest => isReadable j && areReadable rest

/-- Whether nothing in a list of members is unreadable. -/
def membersReadable : List (String × Json) → Bool
  | [] => true
  | (_, j) :: rest => isReadable j && membersReadable rest

end

end Json

end ShieldedLedger
