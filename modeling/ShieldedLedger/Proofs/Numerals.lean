import Mathlib.Data.List.TakeWhile
import ShieldedLedger.Proofs.KeyText
import ShieldedLedger.Text.Basic

/-!
# What is read as a number

A number is read from a text that may have blanks around it. This file says which texts those are,
as a grammar: blanks, a sign if there is one, digits, blanks. A reader that trims the text first and
then looks at its first character accepts exactly these, and gives the number that the digits stand
for.

The text of a number is not unique. Any blanks, a plus sign and any leading zeros are accepted; a
minus sign is accepted where the range of the number reaches below zero, and nowhere else, not even
in front of a zero.

## Main definitions

* `Decimal.Numeral` — a sign, if there is one, and one or more digits
* `Decimal.Denotes` — a numeral between blanks, and the number it stands for

## Main results

* `Decimal.readChars_eq_some_iff` — numerals are what is read
* `Decimal.read_trim_eq_some_iff` — with blanks around them
* `Decimal.denotes_ofInt` — the decimal text of a number stands for it
-/

namespace ShieldedLedger

/-! ### Blanks -/

namespace Text

variable {before core after : List Char}

/-- A blank at the front is dropped, anything else stops that. -/
theorem dropWhile_append (hbefore : ∀ c ∈ before, isBlank c) (hcore : ∀ c ∈ core, ¬isBlank c)
    (hne : core ≠ []) : (before ++ core ++ after).dropWhile isBlank = core ++ after := by
  obtain ⟨c, cs, rfl⟩ := List.exists_cons_of_ne_nil hne
  rw [List.append_assoc, List.dropWhile_append_of_pos hbefore, List.cons_append,
    List.dropWhile_cons_of_neg (hcore c List.mem_cons_self)]

/-- Blanks are taken from both ends. -/
theorem trimChars_append (hbefore : ∀ c ∈ before, isBlank c) (hafter : ∀ c ∈ after, isBlank c)
    (hcore : ∀ c ∈ core, ¬isBlank c) (hne : core ≠ []) :
    trimChars (before ++ core ++ after) = core := by
  have hback : (after.reverse ++ core.reverse ++ []).dropWhile isBlank = core.reverse ++ [] :=
    dropWhile_append (fun c hc => hafter c (List.mem_reverse.mp hc))
      (fun c hc => hcore c (List.mem_reverse.mp hc)) (mt List.reverse_eq_nil_iff.mp hne)
  rw [List.append_nil, List.append_nil] at hback
  rw [trimChars, dropWhile_append hbefore hcore hne, List.reverse_append, hback,
    List.reverse_reverse]

/-- What is taken from the ends are blanks. -/
theorem exists_append_trimChars (cs : List Char) : ∃ before after,
    cs = before ++ trimChars cs ++ after ∧ (∀ c ∈ before, isBlank c) ∧ ∀ c ∈ after, isBlank c := by
  refine ⟨cs.takeWhile isBlank, ((cs.dropWhile isBlank).reverse.takeWhile isBlank).reverse, ?_,
    fun c hc => List.mem_takeWhile_imp hc, fun c hc => ?_⟩
  · rw [List.append_assoc, trimChars, ← List.reverse_append, List.takeWhile_append_dropWhile,
      List.reverse_reverse, List.takeWhile_append_dropWhile]
  · exact List.mem_takeWhile_imp (List.mem_reverse.mp hc)

end Text

namespace Decimal

/-- A numeral is a number of digits, one at least, with or without a sign. A minus sign is possible
only if the number may be negative. -/
inductive Numeral (sign : Signedness) : List Char → Int → Prop
  | plain {ds : List Char} : ds ≠ [] → (∀ d ∈ ds, d.isDigit) →
      Numeral sign ds (Nat.ofDigitChars 10 ds 0)
  | plus {ds : List Char} : ds ≠ [] → (∀ d ∈ ds, d.isDigit) →
      Numeral sign ('+' :: ds) (Nat.ofDigitChars 10 ds 0)
  | minus {ds : List Char} : sign = .signed → ds ≠ [] → (∀ d ∈ ds, d.isDigit) →
      Numeral sign ('-' :: ds) (-Nat.ofDigitChars 10 ds 0)

variable {sign : Signedness} {cs : List Char}

theorem readDigits_eq_some_iff {n : Nat} :
    readDigits cs = some n ↔ cs ≠ [] ∧ (∀ c ∈ cs, c.isDigit) ∧ Nat.ofDigitChars 10 cs 0 = n := by
  have hvalue : cs.foldl (fun n c => 10 * n + (c.toNat - 48)) 0 = Nat.ofDigitChars 10 cs 0 :=
    (Nat.ofDigitChars_eq_foldl ..).symm
  have hguard : (cs.isEmpty || !cs.all Char.isDigit) = true ↔
      ¬(cs ≠ [] ∧ ∀ c ∈ cs, c.isDigit) := by
    rw [Bool.or_eq_true, List.isEmpty_iff, Bool.not_eq_true', ← Bool.not_eq_true,
      List.all_eq_true, not_and_or, ne_eq, not_not]
  rw [readDigits, hvalue]
  split
  · next h => exact iff_of_false nofun fun hcs => hguard.mp h ⟨hcs.1, hcs.2.1⟩
  · next h =>
    obtain ⟨hne, hdigits⟩ := not_not.mp (mt hguard.mpr h)
    rw [Option.some.injEq]
    exact ⟨fun hn => ⟨hne, hdigits, hn⟩, fun hcs => hcs.2.2⟩

theorem map_readDigits_eq_some_iff {f : Nat → Int} {z : Int} :
    (readDigits cs).map f = some z ↔
      cs ≠ [] ∧ (∀ c ∈ cs, c.isDigit) ∧ f (Nat.ofDigitChars 10 cs 0) = z := by
  rw [Option.map_eq_some_iff]
  constructor
  · rintro ⟨n, hn, rfl⟩
    obtain ⟨hne, hdigits, rfl⟩ := readDigits_eq_some_iff.mp hn
    exact ⟨hne, hdigits, rfl⟩
  · rintro ⟨hne, hdigits, rfl⟩
    exact ⟨_, readDigits_eq_some_iff.mpr ⟨hne, hdigits, rfl⟩, rfl⟩

/-- **Numerals are what is read.** -/
theorem readChars_eq_some_iff {z : Int} : readChars sign cs = some z ↔ Numeral sign cs z := by
  constructor
  · intro h
    rw [readChars.eq_def] at h
    split at h
    · obtain ⟨hne, hdigits, rfl⟩ := map_readDigits_eq_some_iff.mp h
      exact .plus hne hdigits
    · split at h
      · next hsign =>
        obtain ⟨hne, hdigits, rfl⟩ := map_readDigits_eq_some_iff.mp h
        exact .minus hsign hne hdigits
      · cases h
    · obtain ⟨hne, hdigits, rfl⟩ := map_readDigits_eq_some_iff.mp h
      exact .plain hne hdigits
  · rintro (⟨hne, hdigits⟩ | ⟨hne, hdigits⟩ | ⟨hsign, hne, hdigits⟩)
    · rw [readChars.eq_def]
      split
      · exact absurd (hdigits '+' List.mem_cons_self) (by decide)
      · exact absurd (hdigits '-' List.mem_cons_self) (by decide)
      · exact map_readDigits_eq_some_iff.mpr ⟨hne, hdigits, rfl⟩
    · exact map_readDigits_eq_some_iff.mpr ⟨hne, hdigits, rfl⟩
    · rw [readChars, if_pos hsign]
      exact map_readDigits_eq_some_iff.mpr ⟨hne, hdigits, rfl⟩

theorem Numeral.ne_nil {z : Int} (h : Numeral sign cs z) : cs ≠ [] := by
  cases h with
  | plain hne _ => exact hne
  | plus | minus => exact List.cons_ne_nil _ _

theorem not_isBlank_of_isDigit {c : Char} (h : c.isDigit) : ¬Text.isBlank c := by
  obtain ⟨hlow, hhigh⟩ := Char.isDigit_iff_toNat.mp h
  have hlow : 48 ≤ c.toNat := hlow
  have hhigh : c.toNat ≤ 57 := hhigh
  simp only [Text.isBlank, Bool.or_eq_true, Bool.and_eq_true, decide_eq_true_eq, beq_iff_eq]
  omega

/-- No character of a numeral is a blank. -/
theorem Numeral.not_isBlank {z : Int} (h : Numeral sign cs z) : ∀ c ∈ cs, ¬Text.isBlank c := by
  cases h with
  | plain _ hdigits => exact fun c hc => not_isBlank_of_isDigit (hdigits c hc)
  | plus _ hdigits =>
    exact List.forall_mem_cons.mpr ⟨by decide, fun c hc => not_isBlank_of_isDigit (hdigits c hc)⟩
  | minus _ _ hdigits =>
    exact List.forall_mem_cons.mpr ⟨by decide, fun c hc => not_isBlank_of_isDigit (hdigits c hc)⟩

/-- A numeral that may have blanks around it, and the number it stands for. -/
def Denotes (sign : Signedness) (text : String) (z : Int) : Prop :=
  ∃ before numeral after : List Char, text.toList = before ++ numeral ++ after ∧
    (∀ c ∈ before, Text.isBlank c) ∧ (∀ c ∈ after, Text.isBlank c) ∧ Numeral sign numeral z

/-- **A trimmed text is read if and only if it is a numeral between blanks.** -/
theorem read_trim_eq_some_iff {text : String} {z : Int} :
    read sign (Text.trim text) = some z ↔ Denotes sign text z := by
  rw [read, Text.trim, String.toList_ofList, readChars_eq_some_iff]
  constructor
  · intro h
    obtain ⟨before, after, htext, hbefore, hafter⟩ := Text.exists_append_trimChars text.toList
    exact ⟨before, _, after, htext, hbefore, hafter, h⟩
  · rintro ⟨before, numeral, after, htext, hbefore, hafter, h⟩
    rwa [htext, Text.trimChars_append hbefore hafter h.not_isBlank h.ne_nil]

/-- The text of a number is a numeral for it, also when it is padded with zeros. -/
theorem numeral_paddedChars {width : Nat} {z : Int} (h : 0 ≤ z ∨ sign = .signed) :
    Numeral sign (paddedChars width z) z := by
  have hne : ∀ width n, column width n ≠ [] := fun width n hnil =>
    Nat.toDigits_ne_nil (List.append_eq_nil_iff.mp hnil).2
  have hdigits : ∀ width n, ∀ c ∈ column width n, c.isDigit := fun _ _ _ hc =>
    isDigit_of_mem_column hc
  by_cases hz : z < 0
  · have hvalue : -(Nat.ofDigitChars 10 (column (width - 1) z.natAbs) 0 : Int) = z := by
      rw [ofDigitChars_column]
      omega
    have hsigned : sign = .signed := h.resolve_left (Int.not_le.mpr hz)
    have hnumeral := Numeral.minus hsigned (hne (width - 1) z.natAbs) (hdigits _ _)
    rwa [hvalue, ← paddedChars_of_neg hz] at hnumeral
  · have hvalue : (Nat.ofDigitChars 10 (column width z.natAbs) 0 : Int) = z := by
      rw [ofDigitChars_column]
      omega
    have hnumeral : Numeral sign (column width z.natAbs) _ :=
      .plain (hne width z.natAbs) (hdigits _ _)
    rwa [hvalue, ← paddedChars_of_nonneg (Int.not_lt.mp hz)] at hnumeral

/-- **The text of a number stands for it, whatever blanks are put around it.** -/
theorem denotes_ofInt {before after : List Char} {z : Int} (hbefore : ∀ c ∈ before, Text.isBlank c)
    (hafter : ∀ c ∈ after, Text.isBlank c) (h : 0 ≤ z ∨ sign = .signed) :
    Denotes sign (String.ofList before ++ ofInt z ++ String.ofList after) z := by
  refine ⟨before, paddedChars 0 z, after, ?_, hbefore, hafter, numeral_paddedChars h⟩
  rw [String.toList_append, String.toList_append, ofInt, padded, String.toList_ofList,
    String.toList_ofList, String.toList_ofList]

end Decimal

end ShieldedLedger
