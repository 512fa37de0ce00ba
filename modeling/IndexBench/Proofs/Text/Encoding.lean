import IndexBench.Text.Utf8

/-!
# Texts and their bytes

A text is found again in its bytes and nowhere else, and a character of one byte occurs in
the bytes exactly where it occurs in the text, as every byte of a longer character is
greater.

Main results:

- Theorem `Utf8.decode_eq_some_iff`: bytes have a text exactly if they are its encoding.
- Theorem `Utf8.mem_encode_iff`: a character of one byte occurs in a text if its byte
  occurs in the encoding.
-/

namespace IndexBench
namespace Utf8

/-- Different texts have different bytes. -/
theorem encode_inj {a b : String} : encode a = encode b ↔ a = b := by
  constructor
  · intro h
    have hdecoded := decode_encode a
    rw [h, decode_encode] at hdecoded
    exact (Option.some.inj hdecoded).symm
  · rintro rfl
    rfl

/-- Bytes have a text exactly if they are its encoding. -/
theorem decode_eq_some_iff {bytes : List UInt8} {text : String} :
    decode bytes = some text ↔ encode text = bytes := by
  constructor
  · intro h
    unfold decode String.fromUTF8? at h
    split at h
    · cases h
      rfl
    · cases h
  · rintro rfl
    exact decode_encode text

/-- Bytes have no text exactly if they are no encoding. -/
theorem decode_eq_none_iff {bytes : List UInt8} :
    decode bytes = none ↔ ∀ text, encode text ≠ bytes := by
  rw [Option.eq_none_iff_forall_ne_some]
  exact forall_congr' fun _ => not_congr decode_eq_some_iff

/-- The bytes of a text are those of its characters in a row. -/
theorem encode_eq_flatMap (text : String) :
    encode text = text.toList.flatMap String.utf8EncodeChar := by
  rw [encode, ← String.ofList_toList (s := text), String.toByteArray_ofList]
  simp [List.utf8Encode]

/-- Numbers below 256 that are the same byte are the same. -/
theorem ofNat_eq_iff {a b : Nat} (ha : a < 256) (hb : b < 256) :
    UInt8.ofNat a = UInt8.ofNat b ↔ a = b := by
  rw [← UInt8.toNat_inj, UInt8.toNat_ofNat', UInt8.toNat_ofNat', Nat.mod_eq_of_lt ha,
    Nat.mod_eq_of_lt hb]

/-- The byte of a character of one byte is among those of a character only if it is that
character. -/
theorem mem_utf8EncodeChar_iff {ascii c : Char} (h : ascii.toNat < 128) :
    UInt8.ofNat ascii.toNat ∈ String.utf8EncodeChar c ↔ ascii = c := by
  have hsame : ascii = c ↔ ascii.toNat = c.toNat := Char.toNat_inj.symm
  have hbyte {n : Nat} (hn : n < 256) : UInt8.ofNat ascii.toNat = UInt8.ofNat n ↔
      ascii.toNat = n := ofNat_eq_iff (by omega) hn
  have hvalue : c.val.toNat = c.toNat := rfl
  rw [hsame]
  unfold String.utf8EncodeChar
  simp only [hvalue]
  -- only the first form has a byte below 128
  split
  · rw [List.mem_singleton, hbyte (by omega)]
  · split
    · simp only [List.mem_cons, List.not_mem_nil, or_false]
      rw [hbyte (by omega), hbyte (by omega)]
      omega
    · split
      · simp only [List.mem_cons, List.not_mem_nil, or_false]
        rw [hbyte (by omega), hbyte (by omega), hbyte (by omega)]
        omega
      · simp only [List.mem_cons, List.not_mem_nil, or_false]
        rw [hbyte (by omega), hbyte (by omega), hbyte (by omega), hbyte (by omega)]
        omega

/-- A character of one byte occurs in a text if its byte occurs in the encoding. -/
theorem mem_encode_iff {ascii : Char} (h : ascii.toNat < 128) {text : String} :
    UInt8.ofNat ascii.toNat ∈ encode text ↔ ascii ∈ text.toList := by
  rw [encode_eq_flatMap, List.mem_flatMap]
  constructor
  · rintro ⟨c, hc, hbyte⟩
    rwa [(mem_utf8EncodeChar_iff h).mp hbyte]
  · intro hascii
    exact ⟨ascii, hascii, (mem_utf8EncodeChar_iff h).mpr rfl⟩

end Utf8
end IndexBench
