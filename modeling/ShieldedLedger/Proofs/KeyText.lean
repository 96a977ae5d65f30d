import Mathlib.Algebra.Group.Nat.Defs
import Mathlib.Data.List.Basic
import ShieldedLedger.Proofs.TextBytes
import ShieldedLedger.State

/-!
# Printed sort keys

A sort key is printed field by field, in the order in which the fields are compared, and numbers are
filled up with zeros to the width of a column. So printed keys can be sorted as texts, as long as
the numbers fit their columns: texts of equal length are compared digit by digit, and so are
numbers.

A negative height does not fit, because of its sign, and neither does an index of four digits. The
text still tells which key it is. The dash that stands between the columns is no digit, so the
columns can be told apart whatever their width, and a dash in the first place can only be a sign.

## Main definitions

* `Decimal.column` — a number in a column
* `SortKey.cmp` — the comparison field by field
* `SortKey.FitsColumns` — the numbers fit their columns

## Main results

* `Decimal.compare_column` — in a column, texts compare like numbers
* `SortKey.isLE_cmp` — the comparison field by field is the one by which records are sorted
* `SortKey.text_faithful` — printed keys compare like keys, and are never confused
-/

namespace ShieldedLedger

/-! ### Columns -/

namespace Decimal

/-- The digits of a number in a column of some width. A number that does not fit takes more room. -/
def column (width n : Nat) : List Char := (digits n).leftpad width '0'

variable {width : Nat}

theorem paddedChars_of_nonneg {z : Int} (h : 0 ≤ z) :
    paddedChars width z = column width z.natAbs :=
  if_neg (Int.not_lt.mpr h)

theorem paddedChars_of_neg {z : Int} (h : z < 0) :
    paddedChars width z = '-' :: column (width - 1) z.natAbs :=
  if_pos h

theorem paddedChars_natCast (n : Nat) : paddedChars width n = column width n :=
  paddedChars_of_nonneg (Int.natCast_nonneg n)

theorem isDigit_of_mem_column {n : Nat} {c : Char} (hc : c ∈ column width n) : c.isDigit := by
  rw [column, List.leftpad, List.mem_append] at hc
  rcases hc with hc | hc
  · rw [List.eq_of_mem_replicate hc]
    rfl
  · exact Nat.isDigit_of_mem_toDigits (by decide) (by decide) hc

theorem eq_dash_or_isDigit_of_mem_paddedChars {z : Int} {c : Char}
    (hc : c ∈ paddedChars width z) : c = '-' ∨ c.isDigit := by
  by_cases hz : z < 0
  · rw [paddedChars_of_neg hz, List.mem_cons] at hc
    exact hc.imp_right isDigit_of_mem_column
  · rw [paddedChars_of_nonneg (Int.not_lt.mp hz)] at hc
    exact .inr (isDigit_of_mem_column hc)

theorem dash_notMem_column (n : Nat) : '-' ∉ column width n := fun h =>
  absurd (isDigit_of_mem_column h) (by decide)

/-- The zeros in front do not count. -/
theorem ofDigitChars_column (n : Nat) : Nat.ofDigitChars 10 (column width n) 0 = n := by
  have hzeros : ∀ k, Nat.ofDigitChars 10 (List.replicate k '0') 0 = 0 := by
    intro k
    induction k with
    | zero => rfl
    | succ k ih => rwa [List.replicate_succ, Nat.ofDigitChars_cons]
  rw [column, List.leftpad, Nat.ofDigitChars_append, hzeros]
  exact Nat.ofDigitChars_ten_toDigits

theorem column_injective {width' m n : Nat} (h : column width m = column width' n) : m = n :=
  calc m = Nat.ofDigitChars 10 (column width m) 0 := (ofDigitChars_column m).symm
    _ = Nat.ofDigitChars 10 (column width' n) 0 := by rw [h]
    _ = n := ofDigitChars_column n

/-- A number that fits fills its column. -/
theorem length_column {n : Nat} (hwidth : 0 < width) (h : n < 10 ^ width) :
    (column width n).length = width := by
  rw [column, List.length_leftpad]
  exact Nat.max_eq_left ((Nat.length_toDigits_le_iff (by decide) hwidth).mpr h)

/-! ### Telling columns apart -/

/-- Two lists without a dash, each followed by one, end at the same place. -/
theorem eq_of_append_dash_eq {cs ds us vs : List Char} (hcs : '-' ∉ cs) (hds : '-' ∉ ds)
    (h : cs ++ '-' :: us = ds ++ '-' :: vs) : cs = ds ∧ us = vs := by
  induction cs generalizing ds with
  | nil =>
    cases ds with
    | nil => exact ⟨rfl, (List.cons.inj h).2⟩
    | cons d ds => exact absurd ((List.cons.inj h).1 ▸ List.mem_cons_self) hds
  | cons c cs ih =>
    cases ds with
    | nil => exact absurd ((List.cons.inj h).1 ▸ List.mem_cons_self) hcs
    | cons d ds =>
      obtain ⟨rfl, htail⟩ := List.cons.inj h
      obtain ⟨rfl, rfl⟩ := ih (fun hc => hcs (List.mem_cons_of_mem _ hc))
        (fun hd => hds (List.mem_cons_of_mem _ hd)) htail
      exact ⟨rfl, rfl⟩

/-- A column ends at the first dash. -/
theorem eq_of_column_append_dash_eq {width' m n : Nat} {us vs : List Char}
    (h : column width m ++ '-' :: us = column width' n ++ '-' :: vs) : m = n ∧ us = vs := by
  obtain ⟨hcolumn, hrest⟩ :=
    eq_of_append_dash_eq (dash_notMem_column m) (dash_notMem_column n) h
  exact ⟨column_injective hcolumn, hrest⟩

/-- A dash in the first place is no part of a column. -/
theorem dash_cons_ne_column_append (cs : List Char) (n : Nat) (us : List Char) :
    '-' :: cs ≠ column width n ++ us := by
  intro h
  cases hcolumn : column width n with
  | nil => exact Nat.toDigits_ne_nil (List.append_eq_nil_iff.mp hcolumn).2
  | cons d ds =>
    rw [hcolumn, List.cons_append] at h
    have hdash : '-' ∈ column width n := by
      rw [hcolumn, (List.cons.inj h).1]
      exact List.mem_cons_self
    exact dash_notMem_column n hdash

/-- A number with its sign ends at the first dash that is no sign. -/
theorem eq_of_paddedChars_append_dash_eq {y z : Int} {us vs : List Char}
    (h : paddedChars width y ++ '-' :: us = paddedChars width z ++ '-' :: vs) :
    y = z ∧ us = vs := by
  by_cases hy : y < 0 <;> by_cases hz : z < 0
  · rw [paddedChars_of_neg hy, paddedChars_of_neg hz] at h
    obtain ⟨hcolumn, hrest⟩ := eq_of_column_append_dash_eq (List.cons.inj h).2
    exact ⟨by omega, hrest⟩
  · rw [paddedChars_of_neg hy, paddedChars_of_nonneg (Int.not_lt.mp hz)] at h
    exact absurd h (dash_cons_ne_column_append _ _ _)
  · rw [paddedChars_of_nonneg (Int.not_lt.mp hy), paddedChars_of_neg hz] at h
    exact absurd h.symm (dash_cons_ne_column_append _ _ _)
  · rw [paddedChars_of_nonneg (Int.not_lt.mp hy), paddedChars_of_nonneg (Int.not_lt.mp hz)] at h
    obtain ⟨hcolumn, hrest⟩ := eq_of_column_append_dash_eq h
    exact ⟨by omega, hrest⟩

/-! ### Comparing columns -/

/-- Lists that start with parts of equal length are compared part by part. -/
theorem compare_append {xs ys : List UInt8} (h : xs.length = ys.length) (us vs : List UInt8) :
    compare (xs ++ us) (ys ++ vs) = (compare xs ys).then (compare us vs) := by
  induction xs generalizing ys with
  | nil =>
    obtain rfl : ys = [] := List.eq_nil_of_length_eq_zero h.symm
    rfl
  | cons x xs ih =>
    cases ys with
    | nil => cases h
    | cons y ys =>
      rw [List.cons_append, List.cons_append, List.compare_cons_cons, List.compare_cons_cons,
        ih (Nat.succ.inj h), Ordering.then_assoc]

theorem compare_add_left (m d e : Nat) : compare (m + d) (m + e) = compare d e := by
  change compareOfLessAndEq (m + d) (m + e) = compareOfLessAndEq d e
  simp only [compareOfLessAndEq, Nat.add_lt_add_iff_left, Nat.add_left_cancel_iff]

/-- Two numbers with one more digit compare like the numbers, and then like the digits. -/
theorem compare_ten_mul_add {m n d e : Nat} (hd : d < 10) (he : e < 10) :
    compare (10 * m + d) (10 * n + e) = (compare m n).then (compare d e) := by
  rcases Nat.lt_trichotomy m n with h | rfl | h
  · rw [Nat.compare_eq_lt.mpr h, Nat.compare_eq_lt.mpr (by omega)]
    rfl
  · rw [Std.compare_self, Ordering.eq_then, compare_add_left]
  · rw [Nat.compare_eq_gt.mpr h, Nat.compare_eq_gt.mpr (by omega)]
    rfl

/-- The value of a digit, in its byte. -/
theorem toNat_toUInt8 {c : Char} (hc : c.isDigit) :
    c.toUInt8.toNat = 48 + (c.toNat - 48) ∧ c.toNat - 48 < 10 := by
  obtain ⟨hlow, hhigh⟩ := Char.isDigit_iff_toNat.mp hc
  have hlow : 48 ≤ c.toNat := hlow
  have hhigh : c.toNat ≤ 57 := hhigh
  have hbyte : c.toUInt8.toNat = c.toNat :=
    UInt8.toNat_ofNat_of_lt' (Nat.lt_of_le_of_lt hhigh (by decide))
  omega

/-- As many digits compare like the numbers that they continue, and then like texts. -/
theorem compare_ofDigitChars {cs ds : List Char} (h : cs.length = ds.length)
    (hcs : ∀ c ∈ cs, c.isDigit) (hds : ∀ d ∈ ds, d.isDigit) (m n : Nat) :
    compare (Nat.ofDigitChars 10 cs m) (Nat.ofDigitChars 10 ds n) =
      (compare m n).then (compare (cs.map Char.toUInt8) (ds.map Char.toUInt8)) := by
  induction cs generalizing ds m n with
  | nil =>
    obtain rfl : ds = [] := List.eq_nil_of_length_eq_zero h.symm
    exact Ordering.then_eq.symm
  | cons c cs ih =>
    cases ds with
    | nil => cases h
    | cons d ds =>
      obtain ⟨hc, hcs⟩ := List.forall_mem_cons.mp hcs
      obtain ⟨hd, hds⟩ := List.forall_mem_cons.mp hds
      obtain ⟨hbyte, hlt⟩ := toNat_toUInt8 hc
      obtain ⟨hbyte', hlt'⟩ := toNat_toUInt8 hd
      have hhead : compare c.toUInt8 d.toUInt8 = compare (c.toNat - 48) (d.toNat - 48) := by
        rw [UInt8.compare_eq_toNat_compare_toNat, hbyte, hbyte', compare_add_left]
      rw [Nat.ofDigitChars_cons, Nat.ofDigitChars_cons, ih (Nat.succ.inj h) hcs hds, List.map_cons,
        List.map_cons, List.compare_cons_cons, ← Ordering.then_assoc, hhead]
      exact congrArg (Ordering.then · _) (compare_ten_mul_add hlt hlt')

/-- **In a column, texts compare like numbers.** -/
theorem compare_column {m n : Nat} (hwidth : 0 < width) (hm : m < 10 ^ width)
    (hn : n < 10 ^ width) :
    compare ((column width m).map Char.toUInt8) ((column width n).map Char.toUInt8) =
      compare m n := by
  have hlength : (column width m).length = (column width n).length := by
    rw [length_column hwidth hm, length_column hwidth hn]
  have h := compare_ofDigitChars hlength (fun _ => isDigit_of_mem_column)
    (fun _ => isDigit_of_mem_column) 0 0
  rw [ofDigitChars_column, ofDigitChars_column] at h
  exact h.symm

theorem compare_column_append {m n : Nat} (hwidth : 0 < width) (hm : m < 10 ^ width)
    (hn : n < 10 ^ width) (us vs : List UInt8) :
    compare ((column width m).map Char.toUInt8 ++ us) ((column width n).map Char.toUInt8 ++ vs) =
      (compare m n).then (compare us vs) := by
  rw [compare_append, compare_column hwidth hm hn]
  rw [List.length_map, List.length_map, length_column hwidth hm, length_column hwidth hn]

end Decimal

namespace SortKey

/-! ### The order of keys -/

/-- The comparison of two keys, field by field. -/
def cmp (a b : SortKey) : Ordering :=
  (compare a.height b.height).then <| (compare a.coinbase b.coinbase).then <|
    (compare a.timeReceived b.timeReceived).then <| compare a.index b.index

/-- It is the comparison by which records are sorted. -/
theorem isLE_cmp (a b : SortKey) : (a.cmp b).isLE = a.ble b := by
  have hlt : compare a.coinbase b.coinbase = .lt ↔ a.coinbase.toNat < b.coinbase.toNat := by
    cases a.coinbase <;> cases b.coinbase <;> decide
  have heq : compare a.coinbase b.coinbase = .eq ↔ a.coinbase.toNat = b.coinbase.toNat := by
    cases a.coinbase <;> cases b.coinbase <;> decide
  rw [Bool.eq_iff_iff, ble_iff, cmp, UInt32.compare_eq_toNat_compare_toNat]
  simp only [Ordering.isLE_then_iff_or, Int.compare_eq_lt, Int.compare_eq_eq, Nat.compare_eq_lt,
    Nat.compare_eq_eq, Nat.isLE_compare, hlt, heq]

/-! ### The columns of a key -/

/-- The digit that tells whether a key is that of a block reward. -/
def rewardMark (k : SortKey) : Char := if k.coinbase then '1' else '0'

theorem compare_rewardMark (a b : SortKey) :
    compare a.rewardMark.toUInt8 b.rewardMark.toUInt8 = compare a.coinbase b.coinbase := by
  rw [rewardMark, rewardMark]
  cases a.coinbase <;> cases b.coinbase <;> decide

/-- The characters of a printed key. -/
def chars (k : SortKey) : List Char :=
  Decimal.paddedChars 10 k.height ++ '-' :: k.rewardMark :: '-' ::
    (Decimal.column 10 k.timeReceived.toNat ++ '-' :: Decimal.column 3 k.index)

theorem text_eq (k : SortKey) : k.text = String.ofList k.chars := by
  have hmark : (if k.coinbase then "1" else "0") = String.ofList [k.rewardMark] := by
    rw [rewardMark]
    cases k.coinbase <;> rfl
  refine String.toList_inj.mp ?_
  rw [text, hmark]
  simp only [Decimal.padded, Decimal.paddedChars_natCast, String.toList_append,
    String.toList_ofList, chars, List.append_assoc]
  rfl

/-- A key is printed in digits and dashes. -/
theorem eq_dash_or_isDigit_of_mem_chars {k : SortKey} {c : Char} (hc : c ∈ k.chars) :
    c = '-' ∨ c.isDigit := by
  have hmark : k.rewardMark.isDigit := by
    rw [rewardMark]
    cases k.coinbase <;> rfl
  simp only [chars, List.mem_append, List.mem_cons] at hc
  rcases hc with hheight | rfl | rfl | rfl | htime | rfl | hindex
  · exact Decimal.eq_dash_or_isDigit_of_mem_paddedChars hheight
  · exact .inl rfl
  · exact .inr hmark
  · exact .inl rfl
  · exact .inr (Decimal.isDigit_of_mem_column htime)
  · exact .inl rfl
  · exact .inr (Decimal.isDigit_of_mem_column hindex)

theorem toNat_lt_of_mem_chars {k : SortKey} {c : Char} (hc : c ∈ k.chars) : c.toNat < 128 := by
  rcases eq_dash_or_isDigit_of_mem_chars hc with rfl | hdigit
  · decide
  · exact Nat.lt_of_le_of_lt (Char.isDigit_iff_toNat.mp hdigit).2 (by decide)

theorem textBytes_text (k : SortKey) : textBytes k.text = k.chars.map Char.toUInt8 := by
  rw [text_eq, textBytes_of_forall_lt fun _ => toNat_lt_of_mem_chars]

/-! ### Keys that fit -/

/-- The numbers of a key fit their columns. No height is beyond that of what is not mined, so this
only leaves out negative heights and indices of more than three digits. -/
structure FitsColumns (k : SortKey) : Prop where
  height_nonneg : 0 ≤ k.height
  height_le : k.height ≤ unminedHeight
  index_le : k.index ≤ 999

theorem FitsColumns.natAbs_height_lt {k : SortKey} (h : k.FitsColumns) :
    k.height.natAbs < 10 ^ 10 := by
  have hle := h.height_le
  have hnonneg := h.height_nonneg
  rw [unminedHeight] at hle
  omega

/-- Heights that are not negative compare like their digits. -/
theorem compare_natAbs {y z : Int} (hy : 0 ≤ y) (hz : 0 ≤ z) :
    compare y.natAbs z.natAbs = compare y z := by
  obtain ⟨m, rfl⟩ := Int.eq_ofNat_of_zero_le hy
  obtain ⟨n, rfl⟩ := Int.eq_ofNat_of_zero_le hz
  change compareOfLessAndEq m n = compareOfLessAndEq (m : Int) (n : Int)
  simp only [compareOfLessAndEq, Int.ofNat_lt, Int.ofNat_inj]

/-- Printed keys whose numbers fit compare like keys. -/
theorem compare_textBytes {a b : SortKey} (ha : a.FitsColumns) (hb : b.FitsColumns) :
    compare (textBytes a.text) (textBytes b.text) = a.cmp b := by
  have htime : a.timeReceived.toNat < 10 ^ 10 :=
    Nat.lt_of_lt_of_le a.timeReceived.toNat_lt (by decide)
  have htime' : b.timeReceived.toNat < 10 ^ 10 :=
    Nat.lt_of_lt_of_le b.timeReceived.toNat_lt (by decide)
  have hindex : a.index < 10 ^ 3 := Nat.lt_succ_of_le ha.index_le
  have hindex' : b.index < 10 ^ 3 := Nat.lt_succ_of_le hb.index_le
  rw [textBytes_text, textBytes_text, chars, chars, Decimal.paddedChars_of_nonneg ha.height_nonneg,
    Decimal.paddedChars_of_nonneg hb.height_nonneg]
  simp only [List.map_append, List.map_cons]
  rw [Decimal.compare_column_append (by decide) ha.natAbs_height_lt hb.natAbs_height_lt,
    compare_natAbs ha.height_nonneg hb.height_nonneg]
  simp only [List.compare_cons_cons, Std.compare_self, Ordering.eq_then, compare_rewardMark]
  rw [Decimal.compare_column_append (by decide) htime htime', List.compare_cons_cons,
    Std.compare_self, Ordering.eq_then, Decimal.compare_column (by decide) hindex hindex', cmp,
    UInt32.compare_eq_toNat_compare_toNat]

/-! ### Any keys -/

/-- Different keys are printed differently, whether they fit or not. -/
theorem text_injective : Function.Injective text := by
  intro a b h
  have hchars : a.chars = b.chars := by
    rw [← String.toList_ofList (l := a.chars), ← text_eq, h, text_eq, String.toList_ofList]
  obtain ⟨hheight, hrest⟩ := Decimal.eq_of_paddedChars_append_dash_eq hchars
  obtain ⟨hmark, hrest⟩ := List.cons.inj hrest
  obtain ⟨htime, hindex⟩ := Decimal.eq_of_column_append_dash_eq (List.cons.inj hrest).2
  have hcoinbase : a.coinbase = b.coinbase := by
    rw [rewardMark, rewardMark] at hmark
    revert hmark
    cases a.coinbase <;> cases b.coinbase <;> decide
  have htime : a.timeReceived = b.timeReceived := UInt32.toNat_inj.mp htime
  have hindex : a.index = b.index := Decimal.column_injective hindex
  cases a
  cases b
  cases hheight
  cases hcoinbase
  cases htime
  cases hindex
  rfl

/-! ### Both together -/

/-- **Printed keys are faithful.** As long as their numbers fit the columns, they compare byte by
byte as the keys compare field by field, which is how records are sorted; and whether they fit or
not, different keys are printed differently. -/
theorem text_faithful :
    (∀ a b : SortKey, a.FitsColumns → b.FitsColumns →
      compare (textBytes a.text) (textBytes b.text) = a.cmp b ∧
        (compare (textBytes a.text) (textBytes b.text)).isLE = a.ble b) ∧
    Function.Injective text := by
  refine ⟨fun a b ha hb => ?_, text_injective⟩
  have h := compare_textBytes ha hb
  exact ⟨h, (congrArg Ordering.isLE h).trans (isLE_cmp a b)⟩

/-- A block reward with the last index of three digits. -/
def sampleReward : SortKey := ⟨99, true, 1700000000, 999⟩

/-- A payment that is not mined. -/
def sampleUnmined : SortKey := ⟨unminedHeight, false, 0, 0⟩

/-- The reward comes first, although it was received later and is printed with more nines. -/
theorem text_faithful_samples :
    sampleReward.FitsColumns ∧ sampleUnmined.FitsColumns ∧
      compare (textBytes sampleReward.text) (textBytes sampleUnmined.text) = .lt ∧
      sampleReward.text ≠ sampleUnmined.text := by
  have hreward : sampleReward.FitsColumns := ⟨by decide, by decide, by decide⟩
  have hunmined : sampleUnmined.FitsColumns := ⟨by decide, by decide, by decide⟩
  have horder := (text_faithful.1 _ _ hreward hunmined).1
  exact ⟨hreward, hunmined, horder.trans (by decide),
    fun heq => absurd (text_faithful.2 heq) (by decide)⟩

/-- With a fourth digit the order is lost. -/
example : compare (textBytes (text ⟨0, false, 0, 1000⟩)) (textBytes (text ⟨0, false, 0, 999⟩)) =
    .lt := by
  decide +kernel

end SortKey

end ShieldedLedger
