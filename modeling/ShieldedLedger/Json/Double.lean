/-!
# Numbers too large for double precision

A decimal number is read in three steps. Its digits fill a significand of 64 bits, the significand
is rounded to double precision, and the result is multiplied by a power of ten that is itself
rounded to double precision. A number is too large if the last step leaves the range. Since each
step rounds, two spellings of one number near the limit may differ in this.

## Main definitions

* `Double.nearest`: a natural number rounded to double precision
* `Double.Scaled`: a significand with an exponent of ten
* `Double.Scaled.ofDigits`: how digits fill a significand
* `Double.Scaled.isTooLarge`

Division by a power of ten only makes a number smaller, so it needs no rounding here.
-/

namespace ShieldedLedger.Json.Double

/-! ### Rounding -/

/-- A quotient rounded to the nearest integer, and to the even one of two. -/
def divToEven (n d : Nat) : Nat :=
  let q := n / d
  let r := n % d
  if 2 * r < d || (2 * r == d && q % 2 == 0) then q else q + 1

/-- The nearest number with at most 53 significant bits, and the even one of two. -/
def nearest (n : Nat) : Nat :=
  let unit := Nat.pow 2 (n.log2 - 52)
  divToEven n unit * unit

/-- The least number that is rounded out of the range: half a unit above the greatest one in it. -/
def overflowThreshold : Nat := Nat.pow 2 1024 - Nat.pow 2 970

theorem divToEven_one (n : Nat) : divToEven n 1 = n := by
  simp [divToEven, Nat.mod_one]

theorem nearest_eq_self {n : Nat} (h : n < Nat.pow 2 53) : nearest n = n := by
  have hlog : n.log2 - 52 = 0 := by
    rcases Nat.eq_zero_or_pos n with rfl | hpos
    · rfl
    · have := (Nat.log2_lt (Nat.ne_of_gt hpos)).2 h
      omega
  have hunit : Nat.pow 2 0 = 1 := rfl
  simp only [nearest, hlog, hunit, divToEven_one, Nat.mul_one]

/-! ### Digits -/

/-- A significand times a power of ten. -/
structure Scaled where
  /-- The digits of the number, below 64 bits. -/
  significand : Nat
  /-- The exponent of ten. -/
  exponent : Int
  deriving DecidableEq, Repr

/-- Appends digits to a significand up to the first one that no longer fits in 64 bits. The second
part is what is left over. -/
def fill (significand : Nat) : List Char → Nat × List Char
  | [] => (significand, [])
  | c :: rest =>
    let longer := 10 * significand + (c.toNat - 48)
    if longer < UInt64.size then fill longer rest else (significand, c :: rest)

namespace Scaled

/-- The number with these digits before and after the point, times a power of ten. Digits before
the point that do not fit count as places; the ones after it are dropped. -/
def ofDigits (whole fraction : List Char) (power : Int) : Scaled :=
  let (filled, places) := fill 0 whole
  let (significand, dropped) := fill filled fraction
  ⟨significand, power + places.length - ((fraction.length : Int) - dropped.length)⟩

/-- Whether the number leaves the range of double precision. The greatest power of ten in the range
is the one with the exponent 308. -/
def isTooLarge (x : Scaled) : Bool :=
  x.significand != 0 && 0 ≤ x.exponent &&
    (308 < x.exponent ||
      overflowThreshold ≤ nearest x.significand * nearest (Nat.pow 10 x.exponent.toNat))

end Scaled

end ShieldedLedger.Json.Double
