/-!
# Hexadecimal text of bytes

Every byte is written as two digits, high half first and in lower case. Reading accepts digits of
either case and works on the bytes of the text, so that a fault can be named by the byte that
caused it and its position.

## Main definitions

* `Hex.encode`: the digits of a list of bytes
* `Hex.decode`: the bytes of a list of digits, or the first byte that is no digit

## Main results

* `Hex.length_decode`: two digits are read as one byte
-/

namespace ShieldedLedger.Hex

/-- The lower-case digit of a value below sixteen. -/
def digit (n : Nat) : Char :=
  if n < 10 then Char.ofNat (48 + n) else Char.ofNat (87 + n)

/-- The two digits of a byte. -/
def digitsOf (b : UInt8) : List Char :=
  [digit (b.toNat / 16), digit (b.toNat % 16)]

/-- The text of a list of bytes. -/
def encode (bytes : List UInt8) : String :=
  String.ofList (bytes.flatMap digitsOf)

/-- The value of a digit of either case, given as the byte that spells it. -/
def value? (b : UInt8) : Option Nat :=
  let n := b.toNat
  if 48 ≤ n ∧ n ≤ 57 then some (n - 48)
  else if 97 ≤ n ∧ n ≤ 102 then some (n - 87)
  else if 65 ≤ n ∧ n ≤ 70 then some (n - 55)
  else none

/-- A byte that is no hexadecimal digit, and where it stands. -/
structure BadDigit where
  /-- The byte itself. -/
  byte : UInt8
  /-- Its position, counted in bytes from the start of the digits. -/
  position : Nat
  deriving DecidableEq, Repr

/-- The value of the digit at a position. -/
def readDigit (position : Nat) (b : UInt8) : Except BadDigit Nat :=
  match value? b with
  | some v => .ok v
  | none => .error ⟨b, position⟩

/-- Reads pairs of digits from left to right. The fault of the first bad digit is reported; a last
digit without a partner is not read. -/
def decode (position : Nat) : List UInt8 → Except BadDigit (List UInt8)
  | high :: low :: rest => do
    let h ← readDigit position high
    let l ← readDigit (position + 1) low
    let bytes ← decode (position + 2) rest
    return UInt8.ofNat (16 * h + l) :: bytes
  | _ => return []

theorem length_decode {position : Nat} {digits bytes : List UInt8}
    (h : decode position digits = .ok bytes) : bytes.length = digits.length / 2 := by
  fun_induction decode position digits generalizing bytes with
  | case1 position high low rest ih =>
    cases hh : readDigit position high with
    | error e => simp [hh, bind, Except.bind] at h
    | ok x =>
      cases hl : readDigit (position + 1) low with
      | error e => simp [hh, hl, bind, Except.bind] at h
      | ok y =>
        cases hr : decode (position + 2) rest with
        | error e => simp [hh, hl, hr, bind, Except.bind] at h
        | ok tail =>
          simp only [hh, hl, hr, bind, Except.bind, pure, Except.pure, Except.ok.injEq] at h
          subst h
          have := ih hr
          simp only [List.length_cons]
          omega
  | case2 digits position hne =>
    match digits, hne with
    | [], _ => simp [pure, Except.pure] at h; simp [h]
    | [_], _ => simp [pure, Except.pure] at h; simp [h]
    | a :: b :: rest, hne => exact absurd rfl (hne a b rest)

end ShieldedLedger.Hex
