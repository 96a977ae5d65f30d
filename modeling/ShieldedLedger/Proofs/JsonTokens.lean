import Mathlib.Tactic.IntervalCases
import ShieldedLedger.Json.Parser
import ShieldedLedger.Json.Printer

/-!
# Strings and integers of JSON text

A string that was written is read character by character: each character stands as one element, a
control character by its number, and the elements are put together again. An integer that was
written has no leading zeros, and a reader stops behind its last digit if what follows could not
continue a number. Integers below 64 bits are never too large for double precision, so none of them
loses its content.

## Main definitions

* `Piece.of` — the element by which a character stands in a string
* `Ends` — nothing that could continue a number follows

## Main results

* `stringBody_escaped` — a string is read back
* `number?_ofInt` — an integer is read back
-/

namespace ShieldedLedger.Json

/-! ### Strings -/

/-- The element by which a character stands in a string: a control character without a letter of its
own stands by its number. -/
def Piece.of (c : Char) : Piece :=
  if c.toNat < 0x20 ∧ c ∉ ['\n', '\r', '\t', '\x08', '\x0c'] then .unit c.toNat else .char c

/-- A control character is escaped, and read by its escape. -/
theorem pieces_escapeChar_control (before : List Piece) (rest : List Char) :
    ∀ n < 0x20, pieces before (escapeChar (Char.ofNat n) ++ rest) =
      pieces (Piece.of (Char.ofNat n) :: before) rest := by
  intro n hn
  interval_cases n <;> rfl

theorem pieces_cons {c : Char} (hquote : c ≠ '"') (hslash : c ≠ '\\') (hcontrol : ¬c.toNat < 0x20)
    (before : List Piece) (rest : List Char) :
    pieces before (c :: rest) = pieces (.char c :: before) rest := by
  rw [pieces.eq_def]
  split <;> simp_all

theorem pieces_escapeChar (before : List Piece) (c : Char) (rest : List Char) :
    pieces before (escapeChar c ++ rest) = pieces (Piece.of c :: before) rest := by
  by_cases hcontrol : c.toNat < 0x20
  · have h := pieces_escapeChar_control before rest c.toNat hcontrol
    rwa [Char.ofNat_toNat] at h
  · have hne : ∀ d : Char, d.toNat < 0x20 → c ≠ d := fun d hd h => hcontrol (h ▸ hd)
    by_cases hquote : c = '"'
    · subst hquote
      rfl
    by_cases hslash : c = '\\'
    · subst hslash
      rfl
    have hplain : escapeChar c = [c] := by
      simp [escapeChar, hquote, hslash, hcontrol, hne '\n', hne '\r', hne '\t', hne '\x08',
        hne '\x0c']
    have hpiece : Piece.of c = .char c := if_neg fun h => hcontrol h.1
    rw [hplain, hpiece, List.singleton_append, pieces_cons hquote hslash hcontrol]

theorem assemble_of (before : List Char) (c : Char) (ps : List Piece) :
    assemble before (Piece.of c :: ps) = assemble (c :: before) ps := by
  rw [Piece.of]
  split
  · next h =>
    have hlow : isLowSurrogate c.toNat = false := by simp [isLowSurrogate]; omega
    have hhigh : isHighSurrogate c.toNat = false := by simp [isHighSurrogate]; omega
    rw [assemble.eq_def]
    simp only [hlow, hhigh, Char.ofNat_toNat]
    rfl
  · rfl

theorem pieces_escaped (before : List Piece) (cs rest : List Char) :
    pieces before (cs.flatMap escapeChar ++ '"' :: rest) =
      some (before.reverse ++ cs.map Piece.of, rest) := by
  induction cs generalizing before with
  | nil => simp [pieces]
  | cons c cs ih =>
    rw [List.flatMap_cons, List.append_assoc, pieces_escapeChar, ih, List.reverse_cons,
      List.append_assoc, List.map_cons, List.singleton_append]

theorem assemble_map_of (before cs : List Char) :
    assemble before (cs.map Piece.of) = some (before.reverse ++ cs) := by
  induction cs generalizing before with
  | nil => simp [assemble]
  | cons c cs ih =>
    rw [List.map_cons, assemble_of, ih, List.reverse_cons, List.append_assoc,
      List.singleton_append]

/-- **A string that was written is read back.** -/
theorem stringBody_escaped (s : String) (rest : List Char) :
    stringBody (s.toList.flatMap escapeChar ++ '"' :: rest) = some (some s, rest) := by
  rw [stringBody, pieces_escaped]
  simp only [Option.map_some, List.reverse_nil, List.nil_append, assemble_map_of,
    String.ofList_toList]

/-! ### Integers -/

/-- Nothing follows that could continue a number. -/
def Ends (rest : List Char) : Prop :=
  ∀ c ∈ rest.head?, c.isDigit = false ∧ c ≠ '.' ∧ c ≠ 'e' ∧ c ≠ 'E'

theorem digitsValue_digits (n : Nat) : digitsValue (Decimal.digits n) = n := by
  rw [digitsValue, Decimal.digits]
  exact (Nat.ofDigitChars_eq_foldl ..).symm.trans (Nat.ofDigitChars_ten_toDigits ..)

theorem isDigit_of_mem_digits {n : Nat} {c : Char} (hc : c ∈ Decimal.digits n) : c.isDigit :=
  Nat.isDigit_of_mem_toDigits (by decide) (by decide) hc

/-- Every number starts with a digit. -/
theorem exists_digit_cons (n : Nat) : ∃ c cs, Decimal.digits n = c :: cs ∧ c.isDigit := by
  cases hdigits : Decimal.digits n with
  | nil => exact absurd hdigits Nat.toDigits_ne_nil
  | cons c cs => exact ⟨c, cs, rfl, isDigit_of_mem_digits (hdigits ▸ List.mem_cons_self)⟩

/-- A positive number has no leading zero. -/
theorem exists_digits_eq_cons {n : Nat} (hn : 0 < n) :
    ∃ c cs, Decimal.digits n = c :: cs ∧ c ≠ '0' := by
  induction n using Nat.strongRecOn with
  | ind n ih =>
    rw [Decimal.digits, Nat.toDigits_eq_if (by decide)]
    split
    · next hlt =>
      refine ⟨_, _, rfl, ?_⟩
      interval_cases n <;> decide
    · next hge =>
      obtain ⟨c, cs, hcs, hc⟩ := ih (n / 10) (by omega) (by omega)
      rw [Decimal.digits] at hcs
      rw [hcs]
      exact ⟨c, _, rfl, hc⟩

theorem digits1?_append {ds rest : List Char} (hne : ds ≠ []) (hds : ∀ c ∈ ds, c.isDigit)
    (hrest : Ends rest) : digits1? (ds ++ rest) = some (ds, rest) := by
  have hnone : rest.takeWhile Char.isDigit = [] ∧ rest.dropWhile Char.isDigit = rest := by
    cases rest with
    | nil => exact ⟨rfl, rfl⟩
    | cons c rest =>
      have hc : c.isDigit = false := (hrest c rfl).1
      simp [hc]
  simp only [digits1?, List.takeWhile_append_of_pos hds, List.dropWhile_append_of_pos hds, hnone,
    List.append_nil, List.isEmpty_iff, hne, if_false]

theorem wholePart?_digits (n : Nat) {rest : List Char} (hrest : Ends rest) :
    wholePart? (Decimal.digits n ++ rest) = some (Decimal.digits n, rest) := by
  rcases Nat.eq_zero_or_pos n with rfl | hn
  · rfl
  · obtain ⟨c, cs, hcs, hc⟩ := exists_digits_eq_cons hn
    have hplain : wholePart? (c :: cs ++ rest) = digits1? (c :: cs ++ rest) := by
      rw [wholePart?.eq_def]
      split <;> simp_all
    have hdigits : ∀ d ∈ c :: cs, d.isDigit := fun d hd => isDigit_of_mem_digits (hcs ▸ hd)
    rw [hcs, hplain, digits1?_append (List.cons_ne_nil c cs) hdigits hrest]

theorem fraction?_of_ends {rest : List Char} (hrest : Ends rest) :
    fraction? rest = some (none, rest) := by
  rw [fraction?.eq_def]
  split
  · exact absurd rfl (hrest '.' rfl).2.1
  · rfl

theorem exponent?_of_ends {rest : List Char} (hrest : Ends rest) :
    exponent? rest = some (none, rest) := by
  cases rest with
  | nil => rfl
  | cons c rest =>
    obtain ⟨-, -, he, hE⟩ := hrest c rfl
    rw [exponent?.eq_def]
    simp [he, hE]

/-! ### Sizes -/

theorem le_foldl_digits (n : Nat) (cs : List Char) :
    n ≤ cs.foldl (fun n c => 10 * n + (c.toNat - 48)) n := by
  induction cs generalizing n with
  | nil => exact Nat.le_refl n
  | cons c cs ih =>
    have hstep : n ≤ 10 * n + (c.toNat - 48) := by omega
    exact Nat.le_trans hstep (ih _)

/-- The digits of a number below 64 bits all fit. -/
theorem fill_eq_of_lt {n : Nat} {cs : List Char}
    (h : cs.foldl (fun n c => 10 * n + (c.toNat - 48)) n < UInt64.size) :
    Double.fill n cs = (cs.foldl (fun n c => 10 * n + (c.toNat - 48)) n, []) := by
  induction cs generalizing n with
  | nil => rfl
  | cons c cs ih =>
    rw [List.foldl_cons] at h
    have hfits := Nat.lt_of_le_of_lt (le_foldl_digits _ cs) h
    rw [Double.fill, if_pos hfits, ih h, List.foldl_cons]

theorem Double.nearest_le (n : Nat) : Double.nearest n ≤ 2 * n := by
  rcases Nat.eq_zero_or_pos n with rfl | hn
  · decide
  have hunit : 2 ^ (n.log2 - 52) ≤ n :=
    Nat.le_trans (Nat.pow_le_pow_right (by decide) (Nat.sub_le _ _))
      (Nat.log2_self_le (Nat.ne_of_gt hn))
  have hround : ∀ d, Double.divToEven n d ≤ n / d + 1 := fun d => by
    simp only [Double.divToEven]
    split <;> omega
  calc Double.nearest n ≤ (n / 2 ^ (n.log2 - 52) + 1) * 2 ^ (n.log2 - 52) :=
        Nat.mul_le_mul_right _ (hround _)
    _ = n / 2 ^ (n.log2 - 52) * 2 ^ (n.log2 - 52) + 2 ^ (n.log2 - 52) := Nat.succ_mul _ _
    _ ≤ n + n := Nat.add_le_add (Nat.div_mul_le_self _ _) hunit
    _ = 2 * n := (Nat.two_mul n).symm

/-- No integer below 64 bits is too large for double precision. -/
theorem isTooLarge_ofDigits {n : Nat} (hn : n < UInt64.size) :
    (Double.Scaled.ofDigits (Decimal.digits n) [] 0).isTooLarge = false := by
  have hfill : Double.fill 0 (Decimal.digits n) = (n, []) := by
    have hvalue : (Decimal.digits n).foldl (fun n c => 10 * n + (c.toNat - 48)) 0 = n :=
      digitsValue_digits n
    rw [fill_eq_of_lt (by rwa [hvalue]), hvalue]
  have hsmall : Double.nearest n < Double.overflowThreshold := by
    have hthreshold : 2 * UInt64.size < Double.overflowThreshold := by decide +kernel
    have hle := Double.nearest_le n
    omega
  have hone : Double.nearest 1 = 1 := Double.nearest_eq_self (by decide)
  simp only [Double.Scaled.ofDigits, hfill, Double.fill, Double.Scaled.isTooLarge]
  simp [hone, hsmall]

theorem unsignedNumber?_digits (negative : Bool) {n : Nat} (hn : n < UInt64.size)
    (hnegative : negative → 0 < n) {rest : List Char} (hrest : Ends rest) :
    unsignedNumber? negative (Decimal.digits n ++ rest) =
      some (.int (if negative then -n else n), rest) := by
  have hzero : (negative && n == 0) = false := by
    cases negative with
    | false => rfl
    | true => exact beq_false_of_ne (Nat.ne_of_gt (hnegative rfl))
  rw [unsignedNumber?, wholePart?_digits n hrest]
  simp only [Option.bind_eq_bind, Option.bind_some, fraction?_of_ends hrest,
    exponent?_of_ends hrest, Option.getD_none, Option.map_none, isTooLarge_ofDigits hn,
    digitsValue_digits, hzero]
  cases negative <;> rfl

theorem toList_ofInt (z : Int) :
    (Decimal.ofInt z).toList =
      if z < 0 then '-' :: Decimal.digits z.natAbs else Decimal.digits z.natAbs := by
  rw [Decimal.ofInt, Decimal.padded, String.toList_ofList, Decimal.paddedChars]
  split <;> simp [List.leftpad]

/-- **An integer that was written is read back.** -/
theorem number?_ofInt {z : Int} (hz : z.natAbs < UInt64.size) {rest : List Char}
    (hrest : Ends rest) : number? ((Decimal.ofInt z).toList ++ rest) = some (.int z, rest) := by
  rw [toList_ofInt]
  split
  · next hneg =>
    have hnumber : number? ('-' :: Decimal.digits z.natAbs ++ rest) =
        unsignedNumber? true (Decimal.digits z.natAbs ++ rest) := rfl
    rw [hnumber, unsignedNumber?_digits true hz (fun _ => by omega) hrest, if_pos rfl,
      Int.ofNat_natAbs_of_nonpos (Int.le_of_lt hneg), Int.neg_neg]
  · next hpos =>
    have hnumber : number? (Decimal.digits z.natAbs ++ rest) =
        unsignedNumber? false (Decimal.digits z.natAbs ++ rest) := by
      obtain ⟨c, cs, hcs, hc⟩ := exists_digit_cons z.natAbs
      have hminus : c ≠ '-' := fun h => absurd (h ▸ hc) (by decide)
      rw [hcs, List.cons_append, number?.eq_def]
      split <;> simp_all
    rw [hnumber, unsignedNumber?_digits false hz (absurd · Bool.false_ne_true) hrest,
      if_neg Bool.false_ne_true, Int.natAbs_of_nonneg (Int.not_lt.mp hpos)]

end ShieldedLedger.Json
