import ShieldedLedger.Proofs.HexText
import ShieldedLedger.Proofs.MapLaws
import ShieldedLedger.Proofs.Traversal
import ShieldedLedger.Saved.Transaction

/-!
# Spellings of a hash

A hash is written in one way, and read from several texts: with or without a mark in front, and with
digits of either case. This file says which texts those are, and that nothing else is read. What is
left of a text after its mark and its upper case are taken away is the text of the hash; so two
texts name one hash just if the same is left of them. Maps keyed by hashes are read by their names,
and names that spell one hash are one key.

Reading works on bytes and looks at the length first. A text with characters of several bytes may
have the right length; the fault is then its first byte that is no digit.

## Main definitions

* `Hex.IsDigit`, `Hex.FirstBad` — the digits of either case, and the first byte that is none
* `TxHash.unmarked`, `TxHash.canonical` — a text without its mark, and in lower case
* `TxHash.Spelled` — the texts of hashes

## Main results

* `Hex.decode_eq_ok_iff`, `Hex.decode_eq_error_iff` — both outcomes of reading digits
* `TxHash.parse_eq_ok_iff`, `TxHash.parse_eq_error_iff` — both outcomes of reading a hash
* `TxHash.get?_of_map` — what a map holds whose names are hashes
* `TxHash.text_codec` — which texts are read, as which hashes
-/

namespace ShieldedLedger

namespace Hex

/-! ### Digits -/

/-- The bytes that are digits, in either case. -/
def IsDigit (b : UInt8) : Prop :=
  ('0'.toNat ≤ b.toNat ∧ b.toNat ≤ '9'.toNat) ∨ ('a'.toNat ≤ b.toNat ∧ b.toNat ≤ 'f'.toNat) ∨
    ('A'.toNat ≤ b.toNat ∧ b.toNat ≤ 'F'.toNat)

instance (b : UInt8) : Decidable (IsDigit b) :=
  inferInstanceAs (Decidable (_ ∨ _ ∨ _))

/-- What holds of 256 numbers holds of all bytes. -/
theorem forall_byte {P : UInt8 → Prop} (h : ∀ n < 256, P (UInt8.ofNat n)) (b : UInt8) : P b := by
  have hb := h b.toNat b.toNat_lt
  rwa [UInt8.ofNat_toNat] at hb

theorem value?_eq_none_iff {b : UInt8} : value? b = none ↔ ¬IsDigit b :=
  forall_byte (P := fun b => value? b = none ↔ ¬IsDigit b) (by decide +kernel) b

/-- The value of a digit is that of its lower case. -/
theorem lowerByte_of_value? {b : UInt8} :
    ∀ v ∈ value? b, v < 16 ∧ lowerByte b = digitByte v :=
  forall_byte (P := fun b => ∀ v ∈ value? b, v < 16 ∧ lowerByte b = digitByte v)
    (by decide +kernel) b

/-- Taking the lower case turns nothing else into a digit. -/
theorem isDigit_of_lowerByte {b : UInt8} : ∀ v < 16, lowerByte b = digitByte v → IsDigit b :=
  forall_byte (P := fun b => ∀ v < 16, lowerByte b = digitByte v → IsDigit b) (by decide +kernel) b

theorem readDigit_eq_error_iff {position : Nat} {b : UInt8} {fault : BadDigit} :
    readDigit position b = .error fault ↔ ¬IsDigit b ∧ fault = ⟨b, position⟩ := by
  rw [← value?_eq_none_iff, readDigit]
  cases value? b <;> simp [eq_comm]

theorem readDigit_eq_ok_iff {position : Nat} {b : UInt8} {v : Nat} :
    readDigit position b = .ok v ↔ value? b = some v := by
  rw [readDigit]
  cases value? b <;> simp

theorem exists_readDigit_iff {position : Nat} {b : UInt8} :
    (∃ v, readDigit position b = .ok v) ↔ IsDigit b := by
  simp only [readDigit_eq_ok_iff]
  rw [← Option.isSome_iff_exists, ← not_iff_not, ← value?_eq_none_iff, Bool.not_eq_true,
    Option.isSome_eq_false_iff, Option.isNone_iff_eq_none]

/-- What reads a digit first fails at that digit, or after it. -/
theorem readDigit_bind_eq_error_iff {α : Type} {position : Nat} {b : UInt8}
    {f : Nat → Except BadDigit α} {fault : BadDigit} {P : Prop}
    (hf : ∀ v, f v = .error fault ↔ P) :
    (readDigit position b >>= f) = .error fault ↔
      ¬IsDigit b ∧ fault = ⟨b, position⟩ ∨ IsDigit b ∧ P := by
  rw [bind_eq_error_iff, readDigit_eq_error_iff]
  simp only [hf, exists_and_right, exists_readDigit_iff]

/-- Two digits spell the byte that they are read as. -/
theorem spelling_ofNat {high low : Nat} (hhigh : high < 16) (hlow : low < 16) :
    spelling (UInt8.ofNat (16 * high + low)) = [digitByte high, digitByte low] := by
  have hbyte : (UInt8.ofNat (16 * high + low)).toNat = 16 * high + low :=
    UInt8.toNat_ofNat_of_lt' (by change _ < 256; omega)
  have hdiv : (16 * high + low) / 16 = high := by omega
  have hmod : (16 * high + low) % 16 = low := by omega
  rw [spelling, hbyte, hdiv, hmod]

/-! ### Lists of digits -/

/-- The first byte of some digits that is none, with its position, if they start at another. -/
def FirstBad (position : Nat) (digits : List UInt8) (fault : BadDigit) : Prop :=
  ∃ before after, digits = before ++ fault.byte :: after ∧ (∀ b ∈ before, IsDigit b) ∧
    ¬IsDigit fault.byte ∧ fault.position = position + before.length

theorem not_firstBad_nil {position : Nat} {fault : BadDigit} : ¬FirstBad position [] fault := by
  rintro ⟨before, after, h, -⟩
  cases before <;> cases h

theorem firstBad_cons_iff {position : Nat} {b : UInt8} {rest : List UInt8} {fault : BadDigit} :
    FirstBad position (b :: rest) fault ↔
      ¬IsDigit b ∧ fault = ⟨b, position⟩ ∨ IsDigit b ∧ FirstBad (position + 1) rest fault := by
  constructor
  · rintro ⟨before, after, hsplit, hbefore, hbad, hposition⟩
    cases before with
    | nil =>
      obtain ⟨rfl, rfl⟩ := List.cons.inj hsplit
      refine .inl ⟨hbad, ?_⟩
      cases fault
      exact congrArg (BadDigit.mk _) hposition
    | cons d before =>
      obtain ⟨rfl, rfl⟩ := List.cons.inj hsplit
      obtain ⟨hd, hbefore⟩ := List.forall_mem_cons.mp hbefore
      refine .inr ⟨hd, before, after, rfl, hbefore, hbad, ?_⟩
      rw [hposition, List.length_cons]
      omega
  · rintro (⟨hbad, rfl⟩ | ⟨hb, before, after, rfl, hbefore, hbad, hposition⟩)
    · exact ⟨[], rest, rfl, nofun, hbad, rfl⟩
    · refine ⟨b :: before, after, rfl, List.forall_mem_cons.mpr ⟨hb, hbefore⟩, hbad, ?_⟩
      rw [hposition, List.length_cons]
      omega

theorem exists_firstBad_iff (position : Nat) {digits : List UInt8} :
    (∃ fault, FirstBad position digits fault) ↔ ∃ b ∈ digits, ¬IsDigit b := by
  constructor
  · rintro ⟨fault, before, after, rfl, -, hbad, -⟩
    exact ⟨fault.byte, by simp, hbad⟩
  · induction digits generalizing position with
    | nil => rintro ⟨b, hb, -⟩; cases hb
    | cons d rest ih =>
      rintro ⟨b, hb, hbad⟩
      by_cases hd : IsDigit d
      · have hrest : b ∈ rest := (List.mem_cons.mp hb).resolve_left fun heq => hbad (heq ▸ hd)
        obtain ⟨fault, hfault⟩ := ih (position + 1) ⟨b, hrest, hbad⟩
        exact ⟨fault, firstBad_cons_iff.mpr (.inr ⟨hd, hfault⟩)⟩
      · exact ⟨⟨d, position⟩, firstBad_cons_iff.mpr (.inl ⟨hd, rfl⟩)⟩

/-- **Digits that come in pairs are refused for the first that is none.** -/
theorem decode_eq_error_iff {position : Nat} {digits : List UInt8} {fault : BadDigit}
    (heven : digits.length % 2 = 0) :
    decode position digits = .error fault ↔ FirstBad position digits fault := by
  fun_induction decode position digits with
  | case1 position high low rest ih =>
    have hrest : rest.length % 2 = 0 := by
      rw [List.length_cons, List.length_cons] at heven
      omega
    rw [firstBad_cons_iff, firstBad_cons_iff, ← ih hrest]
    exact readDigit_bind_eq_error_iff fun _ => readDigit_bind_eq_error_iff fun _ =>
      bind_pure_eq_error_iff
  | case2 digits position hne =>
    rcases digits with _ | ⟨high, _ | ⟨low, rest⟩⟩
    · exact iff_of_false (by rintro ⟨⟩) not_firstBad_nil
    · cases heven
    · exact absurd rfl (hne high low rest)

theorem exists_decode_eq_ok_iff (position : Nat) {digits : List UInt8}
    (heven : digits.length % 2 = 0) :
    (∃ bytes, decode position digits = .ok bytes) ↔ ∀ b ∈ digits, IsDigit b := by
  have hbad : (∃ fault, decode position digits = .error fault) ↔ ∃ b ∈ digits, ¬IsDigit b := by
    simp only [decode_eq_error_iff heven, exists_firstBad_iff]
  cases h : decode position digits with
  | error fault =>
    obtain ⟨b, hb, hnot⟩ := hbad.mp ⟨fault, h⟩
    exact iff_of_false nofun fun hall => hnot (hall b hb)
  | ok bytes =>
    refine iff_of_true ⟨bytes, rfl⟩ fun b hb => ?_
    by_contra hnot
    obtain ⟨fault, hfault⟩ := hbad.mpr ⟨b, hb, hnot⟩
    rw [h] at hfault
    cases hfault

/-- The bytes that are read are spelled by the lower case of the digits. -/
theorem map_lowerByte_of_decode {position : Nat} {digits bytes : List UInt8}
    (heven : digits.length % 2 = 0) (h : decode position digits = .ok bytes) :
    digits.map lowerByte = bytes.flatMap spelling := by
  fun_induction decode position digits generalizing bytes with
  | case1 position high low rest ih =>
    have hrest : rest.length % 2 = 0 := by
      rw [List.length_cons, List.length_cons] at heven
      omega
    simp only [bind_eq_ok_iff, readDigit_eq_ok_iff] at h
    obtain ⟨m, hm, n, hn, bytes', hbytes, hcons⟩ := h
    cases hcons
    obtain ⟨hmlt, hhigh⟩ := lowerByte_of_value? m hm
    obtain ⟨hnlt, hlow⟩ := lowerByte_of_value? n hn
    rw [List.flatMap_cons, spelling_ofNat hmlt hnlt, List.map_cons, List.map_cons, hhigh, hlow,
      ih hrest hbytes]
    rfl
  | case2 digits position hne =>
    cases h
    rcases digits with _ | ⟨high, _ | ⟨low, rest⟩⟩
    · rfl
    · cases heven
    · exact absurd rfl (hne high low rest)

/-- **Digits that come in pairs are read as the bytes that their lower case spells.** -/
theorem decode_eq_ok_iff {position : Nat} {digits bytes : List UInt8}
    (heven : digits.length % 2 = 0) :
    decode position digits = .ok bytes ↔ digits.map lowerByte = bytes.flatMap spelling := by
  refine ⟨map_lowerByte_of_decode heven, fun h => ?_⟩
  have hdigits : ∀ b ∈ digits, IsDigit b := by
    intro b hb
    have hmem : lowerByte b ∈ bytes.flatMap spelling := h ▸ List.mem_map_of_mem hb
    obtain ⟨byte, -, hspelled⟩ := List.mem_flatMap.mp hmem
    rw [spelling, List.mem_pair] at hspelled
    rcases hspelled with hhigh | hlow
    · exact isDigit_of_lowerByte _ (digit_high_lt byte) hhigh
    · exact isDigit_of_lowerByte _ (digit_low_lt byte) hlow
  obtain ⟨bytes', hread⟩ := (exists_decode_eq_ok_iff position heven).mpr hdigits
  have hsame : bytes'.flatMap spelling = bytes.flatMap spelling :=
    (map_lowerByte_of_decode heven hread).symm.trans h
  have hbytes := decode_spelling position bytes'
  rw [hsame, decode_spelling] at hbytes
  rw [hread, Except.ok.inj hbytes]

end Hex

namespace TxHash

/-! ### Texts -/

/-- A text without its mark, if it has one. A second mark would stay. -/
def unmarked (s : String) : String :=
  match s.toList with
  | '0' :: 'x' :: rest => String.ofList rest
  | _ => s

/-- What a text spells, whatever its mark and its case. -/
def canonical (s : String) : String := (unmarked s).map Char.toLower

/-- The texts of hashes: less a mark they have sixty-four bytes, all of which are digits. -/
structure Spelled (s : String) : Prop where
  /-- There are sixty-four bytes. -/
  length_eq : (textBytes (unmarked s)).length = 64
  /-- All of them are digits, of either case. -/
  digits : ∀ b ∈ textBytes (unmarked s), Hex.IsDigit b

instance (s : String) : Decidable (Spelled s) :=
  decidable_of_iff ((textBytes (unmarked s)).length = 64 ∧
    (textBytes (unmarked s)).all fun b => decide (Hex.IsDigit b))
    ⟨fun h => ⟨h.1, by simpa using h.2⟩, fun h => ⟨h.length_eq, by simpa using h.digits⟩⟩

theorem unmarked_append (s : String) : unmarked ("0x" ++ s) = s := by
  have hlist : ("0x" ++ s).toList = '0' :: 'x' :: s.toList := String.toList_append
  rw [unmarked, hlist]
  exact String.ofList_toList

/-- The mark may be dropped from the bytes of a text: no other characters start with the same
bytes. -/
theorem textBytes_unmarked (s : String) : textBytes (unmarked s) = dropMark (textBytes s) := by
  rw [textBytes_eq s, unmarked]
  split
  · next rest hlist =>
    rw [hlist, textBytes_ofList]
    rfl
  · next hlist =>
    rw [textBytes_eq, dropMark.eq_def]
    split
    · next tail hbytes =>
      obtain ⟨c, _, hchars, hc, hbytes⟩ := exists_cons_of_flatMap_eq_cons (by decide) hbytes
      obtain ⟨d, ds, rfl, hd, -⟩ := exists_cons_of_flatMap_eq_cons (by decide) hbytes
      have hzero : c = '0' := Char.toNat_inj.mp hc
      have hx : d = 'x' := Char.toNat_inj.mp hd
      exact absurd (by rw [hchars, hzero, hx]) (hlist ds)
    · rfl

theorem textBytes_canonical (s : String) :
    textBytes (canonical s) = (textBytes (unmarked s)).map lowerByte :=
  textBytes_map_toLower (unmarked s)

/-! ### Reading -/

variable {s : String}

theorem parse_eq_ok_iff_decode {h : TxHash} :
    parse s = .ok h ↔ (textBytes (unmarked s)).length = 64 ∧
      Hex.decode 0 (textBytes (unmarked s)) = .ok h.bytes := by
  rw [textBytes_unmarked, parse_eq_parseBytes, parseBytes_eq_ok_iff]

/-- **A text is read as the hash whose text it spells.** -/
theorem parse_eq_ok_iff {h : TxHash} : parse s = .ok h ↔ canonical s = h.toHex := by
  have hspells : canonical s = h.toHex ↔
      (textBytes (unmarked s)).map lowerByte = h.bytes.flatMap Hex.spelling := by
    rw [← textBytes_canonical, ← textBytes_toHex]
    exact ⟨congrArg textBytes, fun heq => textBytes_injective heq⟩
  rw [parse_eq_ok_iff_decode, hspells]
  constructor
  · rintro ⟨hlen, hdecode⟩
    exact (Hex.decode_eq_ok_iff (by rw [hlen])).mp hdecode
  · intro heq
    have hlen : (textBytes (unmarked s)).length = 64 := by
      rw [← List.length_map lowerByte, heq, Hex.length_spelling, h.length_eq]
    exact ⟨hlen, (Hex.decode_eq_ok_iff (by rw [hlen])).mpr heq⟩

/-- **A text that is no hash is refused for its length, or for its first byte that is no digit.** -/
theorem parse_eq_error_iff {fault : HashFault} :
    parse s = .error fault ↔
      (textBytes (unmarked s)).length ≠ 64 ∧
          fault = .wrongLength (textBytes (unmarked s)).length ∨
        (textBytes (unmarked s)).length = 64 ∧
          ∃ bad, Hex.FirstBad 0 (textBytes (unmarked s)) bad ∧ fault = .badDigit bad := by
  rw [textBytes_unmarked, parse_eq_parseBytes, parseBytes_eq_error_iff]
  refine or_congr_right (and_congr_right fun hlen => exists_congr fun bad => ?_)
  rw [Hex.decode_eq_error_iff (by rw [hlen])]

/-- Sixty-four bytes, of which the third and the fourth are one letter. -/
example : parse "a0éa2a3a4a5a6a7a8a9aaabacadaeafb0b1b2b3b4b5b6b7b8b9babbbcbdbebf" =
    .error (.badDigit ⟨195, 2⟩) := by
  refine parse_eq_error_iff.mpr (.inr ⟨by decide +kernel, _, ?_, rfl⟩)
  have hbefore : ∀ b ∈ [97, 48], Hex.IsDigit b :=
    List.forall_mem_cons.mpr ⟨by decide, List.forall_mem_singleton.mpr (by decide)⟩
  exact ⟨[97, 48], 169 :: textBytes "a2a3a4a5a6a7a8a9aaabacadaeafb0b1b2b3b4b5b6b7b8b9babbbcbdbebf",
    by decide +kernel, hbefore, by decide, rfl⟩

/-- The texts of hashes are those that are read. -/
theorem spelled_iff : Spelled s ↔ ∃ h, parse s = .ok h := by
  simp only [parse_eq_ok_iff_decode]
  constructor
  · rintro ⟨hlen, hdigits⟩
    obtain ⟨bytes, hdecode⟩ :=
      (Hex.exists_decode_eq_ok_iff 0 (by rw [hlen])).mpr hdigits
    exact ⟨⟨bytes, by rw [Hex.length_decode hdecode, hlen]⟩, hlen, hdecode⟩
  · rintro ⟨h, hlen, hdecode⟩
    exact ⟨hlen, (Hex.exists_decode_eq_ok_iff 0 (by rw [hlen])).mp ⟨_, hdecode⟩⟩

/-- However hashes are read from texts, two texts name one hash if the same is left of them. -/
theorem read_eq_read_iff {ε : Type} {read : String → Except ε TxHash}
    (hread : ∀ {s h}, read s = .ok h ↔ parse s = .ok h) {s' : String} (hs : Spelled s)
    (hs' : Spelled s') : read s = read s' ↔ canonical s = canonical s' := by
  obtain ⟨h, hparse⟩ := spelled_iff.mp hs
  obtain ⟨h', hparse'⟩ := spelled_iff.mp hs'
  rw [hread.mpr hparse, hread.mpr hparse', parse_eq_ok_iff.mp hparse, parse_eq_ok_iff.mp hparse',
    Except.ok.injEq]
  exact ⟨congrArg toHex, fun heq => toHex_injective heq⟩

/-- The text of a hash has no mark. -/
theorem unmarked_toHex (h : TxHash) : unmarked h.toHex = h.toHex := by
  refine textBytes_injective ?_
  rw [textBytes_unmarked, textBytes_toHex, dropMark_spelling]

/-- A mark in front of it is not missed. -/
theorem parse_marked_toHex (h : TxHash) : parse ("0x" ++ h.toHex) = .ok h := by
  have hcanonical := parse_eq_ok_iff.mp (parse_toHex h)
  rw [canonical, unmarked_toHex] at hcanonical
  rw [parse_eq_ok_iff, canonical, unmarked_append, hcanonical]

/-! ### Saved hashes -/

theorem ofKey_eq_ok_iff {h : TxHash} : ofKey s = .ok h ↔ parse s = .ok h := by
  rw [ofKey]
  cases parse s <;> simp

/-- Only texts are read as hashes. -/
theorem ofJson_eq_ok_iff {j : Json} {h : TxHash} :
    ofJson j = .ok h ↔ ∃ s, j = .string s ∧ parse s = .ok h := by
  cases j with
  | string s =>
    rw [ofJson, ofKey_eq_ok_iff]
    simp
  | _ => exact iff_of_false nofun fun ⟨_, hj, _⟩ => nomatch hj

variable {α : Type} {read : Json.Reader α} {members : List (String × Json)}

/-- A map is read member by member. -/
theorem map_eq_ok_iff {m : SortedMap TxHash α} :
    Json.Reader.map ofKey read (.object members) = .ok m ↔
      ∃ entries, List.Forall₂
        (fun e entry => canonical e.1 = entry.1.toHex ∧ read e.2 = .ok entry.2) members entries ∧
        m = .ofList entries := by
  have hmember (e : String × Json) (entry : TxHash × α) :
      (do return (← ofKey e.1, ← read e.2)) = .ok entry ↔
        canonical e.1 = entry.1.toHex ∧ read e.2 = .ok entry.2 := by
    simp only [bind_eq_ok_iff, ofKey_eq_ok_iff, parse_eq_ok_iff]
    constructor
    · rintro ⟨h, hname, a, hvalue, heq⟩
      cases heq
      exact ⟨hname, hvalue⟩
    · rintro ⟨hname, hvalue⟩
      exact ⟨_, hname, _, hvalue, rfl⟩
  rw [Json.Reader.map, bind_pure_eq_ok_iff]
  simp only [mapM_eq_ok_iff, hmember]

/-- **A map is read if its names are hashes and its values can be read.** -/
theorem exists_map_iff :
    (∃ m, Json.Reader.map ofKey read (.object members) = .ok m) ↔
      ∀ e ∈ members, Spelled e.1 ∧ ∃ a, read e.2 = .ok a := by
  simp only [map_eq_ok_iff, spelled_iff, parse_eq_ok_iff]
  constructor
  · rintro ⟨m, entries, hentries, -⟩
    exact ((List.forall₂_and_left _ _).mp
      (hentries.imp fun e entry h => ⟨⟨⟨_, h.1⟩, _, h.2⟩, h⟩)).1
  · intro hall
    induction members with
    | nil => exact ⟨_, [], .nil, rfl⟩
    | cons e rest ih =>
      obtain ⟨⟨⟨h, hname⟩, a, hvalue⟩, hrest⟩ := List.forall_mem_cons.mp hall
      obtain ⟨_, entries, hentries, -⟩ := ih hrest
      exact ⟨_, (h, a) :: entries, .cons ⟨hname, hvalue⟩ hentries, rfl⟩

/-- **Of all members whose names spell a hash, the map holds the last.** -/
theorem get?_of_map {m : SortedMap TxHash α}
    (hm : Json.Reader.map ofKey read (.object members) = .ok m) (h : TxHash) :
    m.get? h = (members.reverse.find? fun e => canonical e.1 = h.toHex).bind
      fun e => (read e.2).toOption := by
  obtain ⟨entries, hentries, rfl⟩ := map_eq_ok_iff.mp hm
  rw [SortedMap.get?_ofList]
  have hreverse := List.rel_reverse hentries
  generalize members.reverse = last, entries.reverse = lastEntries at hreverse ⊢
  induction hreverse with
  | nil => rfl
  | @cons e entry _ _ hentry _ ih =>
    rw [List.lookup_cons, List.find?_cons, hentry.1]
    by_cases hkey : h = entry.1
    · simp [hkey, hentry.2, Except.toOption]
    · have hne : entry.1.toHex ≠ h.toHex := fun heq => hkey (toHex_injective heq).symm
      simp [beq_false_of_ne hkey, hne, ih]

/-- **The texts of hashes.** A text is read just if it has sixty-four digits of either case after a
mark that may be missing, and the hash is then written as those digits in lower case. A text of the
right length is refused for its first byte that is no digit. What is written is read back, with and
without a mark, so two texts are read as one hash just if they agree but for their marks and their
case. Hashes in JSON are such texts. The names of a map are as well, and of those that spell one
hash the last one counts. -/
theorem text_codec :
    (∀ s, (∃ h, parse s = .ok h) ↔ Spelled s) ∧
    (∀ s h, parse s = .ok h → h.toHex = (unmarked s).map Char.toLower) ∧
    (∀ s fault, parse s = .error fault → (textBytes (unmarked s)).length = 64 →
      ∃ before b after, textBytes (unmarked s) = before ++ b :: after ∧
        (∀ d ∈ before, Hex.IsDigit d) ∧ ¬Hex.IsDigit b ∧
        fault = .badDigit ⟨b, before.length⟩ ∧
        fault.message = "Invalid character " ++ Latin.quoted b ++ " at position " ++
          Decimal.ofNat before.length) ∧
    (∀ h, parse h.toHex = .ok h ∧ parse ("0x" ++ h.toHex) = .ok h) ∧
    (∀ s s', Spelled s → Spelled s' →
      (parse s = parse s' ↔ canonical s = canonical s') ∧
      (ofJson (.string s) = ofJson (.string s') ↔ canonical s = canonical s') ∧
      (ofKey s = ofKey s' ↔ canonical s = canonical s')) ∧
    (∀ j h, ofJson j = .ok h ↔ ∃ s, j = .string s ∧ parse s = .ok h) ∧
    (∀ (α : Type) (read : Json.Reader α) (members : List (String × Json)),
      ((∃ m, Json.Reader.map ofKey read (.object members) = .ok m) ↔
        ∀ e ∈ members, Spelled e.1 ∧ ∃ a, read e.2 = .ok a) ∧
      ∀ m, Json.Reader.map ofKey read (.object members) = .ok m → ∀ h, m.get? h =
        (members.reverse.find? fun e => canonical e.1 = h.toHex).bind
          fun e => (read e.2).toOption) := by
  refine ⟨fun s => spelled_iff.symm, fun s h hread => (parse_eq_ok_iff.mp hread).symm,
    fun s fault hread hlen => ?_, fun h => ⟨parse_toHex h, parse_marked_toHex h⟩,
    fun s s' hs hs' => ⟨?_, ?_, ?_⟩, fun j h => ofJson_eq_ok_iff,
    fun α read members => ⟨exists_map_iff, fun m hm h => get?_of_map hm h⟩⟩
  · rcases parse_eq_error_iff.mp hread with ⟨hne, -⟩ | ⟨-, ⟨b, position⟩, hfirst, rfl⟩
    · exact absurd hlen hne
    · obtain ⟨before, after, hsplit, hbefore, hbad, hposition⟩ := hfirst
      rw [Nat.zero_add] at hposition
      subst hposition
      exact ⟨before, b, after, hsplit, hbefore, hbad, rfl, rfl⟩
  · exact read_eq_read_iff Iff.rfl hs hs'
  · exact read_eq_read_iff ofKey_eq_ok_iff hs hs'
  · exact read_eq_read_iff ofKey_eq_ok_iff hs hs'

/-- A hash with a mark and in mixed case. -/
def sampleMixed : String := "0xA0a1A2a3A4a5A6a7A8a9AAaBAcaDAEaFB0b1B2b3B4b5B6b7B8b9BAbBBcbDBEbF"

/-- The same hash as it is written. -/
def samplePlain : String := "a0a1a2a3a4a5a6a7a8a9aaabacadaeafb0b1b2b3b4b5b6b7b8b9babbbcbdbebf"

theorem canonical_sampleMixed : canonical sampleMixed = samplePlain := by decide +kernel

theorem canonical_samplePlain : canonical samplePlain = samplePlain := by decide +kernel

/-- The first text is read, the hash is written as the second, and in JSON both are one hash. -/
theorem text_codec_samples :
    (∃ h, parse sampleMixed = .ok h ∧ h.toHex = samplePlain) ∧
      ofJson (.string sampleMixed) = ofJson (.string samplePlain) := by
  have hmixed : Spelled sampleMixed := by decide +kernel
  have hplain : Spelled samplePlain := by decide +kernel
  obtain ⟨hread, hwritten, -, -, hsame, -⟩ := text_codec
  obtain ⟨h, hparse⟩ := (hread sampleMixed).mpr hmixed
  have hhex := hwritten sampleMixed h hparse
  have hjson := (hsame sampleMixed samplePlain hmixed hplain).2.1
  exact ⟨⟨h, hparse, hhex.trans canonical_sampleMixed⟩,
    hjson.mpr (canonical_sampleMixed.trans canonical_samplePlain.symm)⟩

end TxHash

end ShieldedLedger
