import ShieldedLedger.Text.Hex

/-!
# Transaction hashes

A transaction is named by a hash of thirty-two bytes. Hashes are ordered by their bytes, which is
the order in which maps keyed by them are written.

## Main definitions

* `TxHash`: thirty-two bytes
* `TxHash.toHex`: sixty-four lower-case digits
* `TxHash.parse`: reading such text, with an optional leading `0x` and digits of either case
-/

namespace ShieldedLedger

/-- A content hash that identifies a transaction. -/
structure TxHash where
  /-- The bytes, most significant first. -/
  bytes : List UInt8
  /-- There are exactly thirty-two of them. -/
  length_eq : bytes.length = 32
  deriving DecidableEq, Repr

/-- Why a text is no transaction hash. -/
inductive HashFault where
  /-- The text, less a leading `0x`, does not have sixty-four bytes. -/
  | wrongLength (length : Nat)
  /-- A byte of the text is no hexadecimal digit. -/
  | badDigit (fault : Hex.BadDigit)
  deriving DecidableEq, Repr

namespace TxHash

/-- The hash as sixty-four lower-case digits. -/
def toHex (h : TxHash) : String := Hex.encode h.bytes

/-- Removes one leading `0x`; a second one would be part of the digits. -/
def dropMark : List UInt8 → List UInt8
  | 48 :: 120 :: rest => rest
  | text => text

/-- Reads a hash from the bytes of its text. The length is checked before the digits. -/
def parseBytes (text : List UInt8) : Except HashFault TxHash :=
  let digits := dropMark text
  if hlen : digits.length = 64 then
    match h : Hex.decode 0 digits with
    | .ok bytes => .ok ⟨bytes, by rw [Hex.length_decode h, hlen]⟩
    | .error fault => .error (.badDigit fault)
  else .error (.wrongLength digits.length)

/-- Reads a hash from text. -/
def parse (text : String) : Except HashFault TxHash :=
  parseBytes text.toUTF8.data.toList

/-! ### Order -/

instance : LT TxHash := ⟨fun a b => a.bytes < b.bytes⟩

instance : LE TxHash := ⟨fun a b => a.bytes ≤ b.bytes⟩

instance : DecidableLT TxHash := fun a b => inferInstanceAs (Decidable (a.bytes < b.bytes))

theorem ext_bytes {a b : TxHash} (h : a.bytes = b.bytes) : a = b := by
  cases a; cases b; simp_all

instance : Std.IsLinearOrder TxHash where
  le_refl a := Std.le_refl a.bytes
  le_trans _ _ _ h h' := Std.le_trans (α := List UInt8) h h'
  le_antisymm _ _ h h' := ext_bytes (Std.le_antisymm (α := List UInt8) h h')
  le_total a b := Std.le_total (a := a.bytes) (b := b.bytes)

instance : Std.LawfulOrderLT TxHash where
  lt_iff a b := Std.LawfulOrderLT.lt_iff a.bytes b.bytes

end TxHash

end ShieldedLedger
