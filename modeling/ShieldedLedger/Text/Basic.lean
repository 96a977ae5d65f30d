/-!
# Texts

How integers, bytes and the cells of a table are shown as text, and what is taken off a text before
it is read.

Integers are written in base ten without leading zeros, or padded with zeros to a least width that
counts the minus sign. They are read in a wider form: an optional sign and any number of digits.
White space around a text is what Unicode calls by that name. A single byte of a text is shown as
the Latin-1 character of that number between single quotes, and what could not be told apart on
paper is escaped. A cell of a table is filled with spaces up to the width of its column; a longer
text is kept whole.

## Main definitions

* `Decimal.ofNat`, `Decimal.ofInt`: the shortest text of an integer
* `Decimal.padded`: the text padded with zeros after the sign
* `Decimal.read`: an optional sign and at least one digit; `Decimal.readIn` within a range
* `Text.isBlank`, `Text.trim`: white space, and a text without it at its ends
* `Latin.quoted`: a byte as a quoted, escaped character
* `Column.left`, `Column.right`: a cell set to the left or to the right
-/

/-! ### Integers -/

namespace ShieldedLedger.Decimal

/-- The digits of a natural number. -/
def digits (n : Nat) : List Char := Nat.toDigits 10 n

/-- The shortest text of a natural number. -/
def ofNat (n : Nat) : String := String.ofList (digits n)

/-- The characters of an integer whose digits are padded with zeros so that, with the sign, there
are at least `width` of them. -/
def paddedChars (width : Nat) (z : Int) : List Char :=
  if z < 0 then '-' :: (digits z.natAbs).leftpad (width - 1) '0'
  else (digits z.natAbs).leftpad width '0'

/-- The text of `paddedChars`. -/
def padded (width : Nat) (z : Int) : String := String.ofList (paddedChars width z)

/-- The shortest text of an integer. -/
def ofInt (z : Int) : String := padded 0 z

/-- Whether a number may be written with a minus sign. -/
inductive Signedness where
  | signed
  | unsigned
  deriving DecidableEq, Repr

/-- The value of a non-empty list of digits. -/
def readDigits (cs : List Char) : Option Nat :=
  if cs.isEmpty || !cs.all Char.isDigit then none
  else some (cs.foldl (fun n c => 10 * n + (c.toNat - 48)) 0)

/-- Reads an optional sign and one or more digits. A plus sign is always allowed, a minus sign only
where negative numbers are. -/
def readChars (sign : Signedness) : List Char → Option Int
  | '+' :: cs => (readDigits cs).map Int.ofNat
  | '-' :: cs => if sign = .signed then (readDigits cs).map fun n => -Int.ofNat n else none
  | cs => (readDigits cs).map Int.ofNat

/-- Reads an integer from text. -/
def read (sign : Signedness) (s : String) : Option Int := readChars sign s.toList

/-- Reads an integer between two bounds; only a range that reaches below zero allows a minus
sign. -/
def readIn (low high : Int) (s : String) : Option Int :=
  (read (if low < 0 then .signed else .unsigned) s).filter fun z => low ≤ z && z ≤ high

end ShieldedLedger.Decimal

/-! ### White space -/

namespace ShieldedLedger.Text

/-- The property `White_Space` of a character. -/
def isBlank (c : Char) : Bool :=
  let n := c.toNat
  (9 ≤ n && n ≤ 13) || n == 32 || n == 0x85 || n == 0xA0 || n == 0x1680
    || (0x2000 ≤ n && n ≤ 0x200A) || n == 0x2028 || n == 0x2029 || n == 0x202F || n == 0x205F
    || n == 0x3000

/-- The characters that remain when blanks are taken from both ends. -/
def trimChars (cs : List Char) : List Char :=
  ((cs.dropWhile isBlank).reverse.dropWhile isBlank).reverse

/-- The text without blanks at its ends. -/
def trim (s : String) : String := String.ofList (trimChars s.toList)

theorem isBlank_of_isWhitespace {c : Char} (h : c.isWhitespace = true) : isBlank c = true := by
  simp only [Char.isWhitespace, Bool.or_eq_true, decide_eq_true_eq] at h
  rcases h with ((rfl | rfl) | rfl) | rfl <;> rfl

end ShieldedLedger.Text

/-! ### Bytes -/

namespace ShieldedLedger.Latin

/-- Whether the Latin-1 character has a visible form: neither a control, nor the no-break space,
nor the soft hyphen. -/
def isVisible (b : UInt8) : Bool :=
  (0x20 ≤ b && b ≤ 0x7E) || (0xA1 ≤ b && b != 0xAD)

/-- The escaped form of a byte. -/
def escaped (b : UInt8) : String :=
  if b = 0 then "\\0"
  else if b = 9 then "\\t"
  else if b = 10 then "\\n"
  else if b = 13 then "\\r"
  else if b = 39 then "\\'"
  else if b = 92 then "\\\\"
  else if isVisible b then String.singleton (Char.ofNat b.toNat)
  else "\\u\x7b" ++ String.ofList (Nat.toDigits 16 b.toNat) ++ "\x7d"

/-- The byte between single quotes. -/
def quoted (b : UInt8) : String := "'" ++ escaped b ++ "'"

end ShieldedLedger.Latin

/-! ### Columns of a table -/

namespace ShieldedLedger.Column

/-- The text followed by spaces. -/
def left (width : Nat) (s : String) : String :=
  String.ofList (s.toList.rightpad width ' ')

/-- The text after spaces. -/
def right (width : Nat) (s : String) : String :=
  String.ofList (s.toList.leftpad width ' ')

end ShieldedLedger.Column
