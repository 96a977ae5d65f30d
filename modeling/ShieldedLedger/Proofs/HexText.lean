import ShieldedLedger.Proofs.TextBytes
import ShieldedLedger.TxHash

/-!
# Hexadecimal text is read back

Bytes are written as characters and read as the bytes that spell them. This file says which bytes
spell what is written, and that reading them gives back what was written. It follows that different
bytes are written differently, and that a hash is known by its text: no text of a hash starts with
the mark `0x`, because `x` is no digit.

## Main results

* `Hex.decode_encode`, `Hex.encode_injective` — bytes are read back, and known by their text
* `TxHash.parse_toHex`, `TxHash.toHex_injective` — so are hashes
* `TxHash.parseBytes_eq_ok_iff`, `TxHash.parseBytes_eq_error_iff` — both outcomes of reading a hash
-/

namespace ShieldedLedger

namespace Hex

/-- The byte that spells the digit of a value below sixteen. -/
def digitByte (n : Nat) : UInt8 := UInt8.ofNat (digit n).toNat

/-- The bytes that spell the two digits of a byte. -/
def spelling (b : UInt8) : List UInt8 := [digitByte (b.toNat / 16), digitByte (b.toNat % 16)]

theorem utf8EncodeChar_digit : ∀ n < 16, String.utf8EncodeChar (digit n) = [digitByte n] := by
  decide

theorem value?_digitByte : ∀ n < 16, value? (digitByte n) = some n := by decide

theorem digitByte_ne_x : ∀ n < 16, digitByte n ≠ 120 := by decide

theorem digit_high_lt (b : UInt8) : b.toNat / 16 < 16 := by
  have := b.toNat_lt
  omega

theorem digit_low_lt (b : UInt8) : b.toNat % 16 < 16 := Nat.mod_lt _ (by decide)

/-- The text of some bytes, as the bytes that spell it. -/
theorem textBytes_encode (bytes : List UInt8) :
    textBytes (encode bytes) = bytes.flatMap spelling := by
  rw [encode, textBytes_ofList, List.flatMap_assoc]
  refine List.flatMap_congr fun b _ => ?_
  simp [digitsOf, spelling, utf8EncodeChar_digit _ (digit_high_lt b),
    utf8EncodeChar_digit _ (digit_low_lt b)]

theorem readDigit_digitByte {n : Nat} (h : n < 16) (position : Nat) :
    readDigit position (digitByte n) = .ok n := by
  rw [readDigit, value?_digitByte n h]

/-- A byte is sixteen times its high half and its low half. -/
theorem ofNat_halves (b : UInt8) : UInt8.ofNat (16 * (b.toNat / 16) + b.toNat % 16) = b := by
  rw [Nat.div_add_mod, UInt8.ofNat_toNat]

/-- Bytes are read back from the bytes that spell them. -/
theorem decode_spelling (position : Nat) (bytes : List UInt8) :
    decode position (bytes.flatMap spelling) = .ok bytes := by
  induction bytes generalizing position with
  | nil => rfl
  | cons b bytes ih =>
    rw [List.flatMap_cons, spelling, List.cons_append, List.cons_append, List.nil_append, decode,
      readDigit_digitByte (digit_high_lt b), readDigit_digitByte (digit_low_lt b), ih]
    exact congrArg (fun b' => Except.ok (b' :: bytes)) (ofNat_halves b)

/-- **Reading a text gives back the bytes that were written.** -/
theorem decode_encode (position : Nat) (bytes : List UInt8) :
    decode position (textBytes (encode bytes)) = .ok bytes := by
  rw [textBytes_encode, decode_spelling]

/-- Different bytes are written differently. -/
theorem encode_injective {bytes bytes' : List UInt8} (h : encode bytes = encode bytes') :
    bytes = bytes' :=
  Except.ok.inj ((decode_encode 0 bytes).symm.trans (h ▸ decode_encode 0 bytes'))

theorem length_spelling (bytes : List UInt8) :
    (bytes.flatMap spelling).length = 2 * bytes.length := by
  induction bytes with
  | nil => rfl
  | cons b bytes ih =>
    rw [List.flatMap_cons, List.length_append, ih, List.length_cons]
    change 2 + 2 * bytes.length = _
    omega

end Hex

namespace TxHash

/-- What spells some bytes has no mark to drop. -/
theorem dropMark_spelling (bytes : List UInt8) :
    dropMark (bytes.flatMap Hex.spelling) = bytes.flatMap Hex.spelling := by
  cases bytes with
  | nil => rfl
  | cons b bytes =>
    have hlow : Hex.digitByte (b.toNat % 16) ≠ 120 := Hex.digitByte_ne_x _ (Hex.digit_low_lt b)
    rw [List.flatMap_cons, Hex.spelling, List.cons_append, List.cons_append, List.nil_append,
      dropMark.eq_def]
    split
    · next heq =>
      obtain ⟨-, hx, -⟩ := by simpa only [List.cons.injEq] using heq
      exact absurd hx hlow
    · rfl

/-- A hash is what its digits are read as. -/
theorem parseBytes_eq_ok_iff {text : List UInt8} {h : TxHash} :
    parseBytes text = .ok h ↔
      (dropMark text).length = 64 ∧ Hex.decode 0 (dropMark text) = .ok h.bytes := by
  obtain ⟨bytes, _⟩ := h
  unfold parseBytes
  dsimp only
  split
  · next hlen =>
    split
    · next hbytes => simp [hlen, hbytes]
    · next hfault => simp [hfault]
  · next hlen => simp [hlen]

/-- Their number is looked at first. -/
theorem parseBytes_eq_error_iff {text : List UInt8} {fault : HashFault} :
    parseBytes text = .error fault ↔
      (dropMark text).length ≠ 64 ∧ fault = .wrongLength (dropMark text).length ∨
        (dropMark text).length = 64 ∧
          ∃ bad, Hex.decode 0 (dropMark text) = .error bad ∧ fault = .badDigit bad := by
  unfold parseBytes
  dsimp only
  split
  · next hlen =>
    split
    · next hbytes => simp [hlen, hbytes]
    · next hbad => simp [hlen, hbad, eq_comm]
  · next hlen => simp [hlen, eq_comm]

theorem parse_eq_parseBytes (s : String) : parse s = parseBytes (textBytes s) := rfl

theorem textBytes_toHex (h : TxHash) : textBytes h.toHex = h.bytes.flatMap Hex.spelling :=
  Hex.textBytes_encode h.bytes

/-- **A hash is read back from its text.** -/
theorem parse_toHex (h : TxHash) : parse h.toHex = .ok h := by
  rw [parse_eq_parseBytes, parseBytes_eq_ok_iff, textBytes_toHex, dropMark_spelling,
    Hex.length_spelling, h.length_eq]
  exact ⟨rfl, Hex.decode_spelling 0 h.bytes⟩

/-- Different hashes have different texts. -/
theorem toHex_injective {h h' : TxHash} (heq : h.toHex = h'.toHex) : h = h' :=
  Except.ok.inj ((parse_toHex h).symm.trans (heq ▸ parse_toHex h'))

end TxHash

end ShieldedLedger
