import IndexBench.Text.Integer
import Mathlib.Algebra.Group.Int.Defs

/-!
# Texts that denote numbers

A number is written in decimal digits, with at most one sign before them.  Reading accepts
exactly the texts that denote a number of 64 bits and yields the number denoted, however
many zeros it starts with.

Main definitions:

- `Natural.Denotes` and `Integer.Denotes` say which numbers characters denote.

Main results:

- Theorem `Natural.readMagnitude_eq_ok_iff`: a magnitude is read exactly if it is denoted and
  within its limit.
- Theorem `Integer.parse_eq_ok_iff`: a text is read exactly as the number of 64 bits that it
  denotes.
-/

namespace IndexBench

/-! ## Magnitudes -/

namespace Natural

/-- Whether characters are digits, at least one of them, that denote a natural number. -/
def Denotes (digits : List Char) (n : Nat) : Prop :=
  digits ≠ [] ∧ (∀ c ∈ digits, c.isDigit = true) ∧ Nat.ofDigitChars 10 digits 0 = n

/-- A character has a value as a digit exactly if it is one. -/
theorem digit?_eq_some_iff {c : Char} {d : Nat} :
    digit? c = some d ↔ c.isDigit = true ∧ c.toNat - '0'.toNat = d := by
  have hdigit : c.isDigit = true ↔ 48 ≤ c.toNat ∧ c.toNat ≤ 57 := Char.isDigit_iff_toNat
  rw [hdigit, digit?]
  split
  · rename_i h
    simp [h]
  · rename_i h
    simp [h]

/-- More digits denote no less. -/
theorem le_ofDigitChars (acc : Nat) (digits : List Char) :
    acc ≤ Nat.ofDigitChars 10 digits acc := by
  induction digits generalizing acc with
  | nil => exact Nat.le_refl acc
  | cons c digits ih =>
      rw [Nat.ofDigitChars_cons]
      exact Nat.le_trans (by omega) (ih _)

/-- Characters are read onto a number exactly if they are digits and denote, after it, a
number within the limit. -/
theorem readDigits_eq_ok_iff {limit acc n : Nat} {above : NumberFault} {digits : List Char}
    (hacc : acc ≤ limit) :
    readDigits limit above acc digits = .ok n ↔
      (∀ c ∈ digits, c.isDigit = true) ∧ Nat.ofDigitChars 10 digits acc = n ∧ n ≤ limit := by
  induction digits generalizing acc with
  | nil =>
      rw [readDigits, Nat.ofDigitChars_nil, Except.ok.injEq]
      constructor
      · rintro rfl
        exact ⟨List.forall_mem_nil _, rfl, hacc⟩
      · exact fun h => h.2.1
  | cons c digits ih =>
      rw [readDigits, List.forall_mem_cons, Nat.ofDigitChars_cons]
      cases hdigit : digit? c with
      | none =>
          have hnot : c.isDigit ≠ true := fun hc => by
            rw [digit?_eq_some_iff.mpr ⟨hc, rfl⟩] at hdigit
            cases hdigit
          simp [hnot]
      | some d =>
          obtain ⟨hc, hd⟩ := digit?_eq_some_iff.mp hdigit
          rw [hd, Nat.mul_comm 10 acc]
          by_cases hnext : acc * 10 + d ≤ limit
          · simp only [hnext, if_true, hc, true_and]
            exact ih hnext
          -- the number is above the limit already, and more digits take it no lower
          · have hle := le_ofDigitChars (acc * 10 + d) digits
            simp only [hnext, if_false, hc, true_and]
            constructor
            · intro h
              cases h
            · rintro ⟨-, rfl, hlimit⟩
              exact absurd (Nat.le_trans hle hlimit) hnext

/-- A magnitude is read exactly if it is denoted and within the limit. -/
theorem readMagnitude_eq_ok_iff {limit n : Nat} {above : NumberFault} {digits : List Char} :
    readMagnitude limit above digits = .ok n ↔ Denotes digits n ∧ n ≤ limit := by
  cases digits with
  | nil => simp [readMagnitude, Denotes]
  | cons c digits =>
      rw [readMagnitude, readDigits_eq_ok_iff (Nat.zero_le limit), Denotes]
      simp only [ne_eq, reduceCtorEq, not_false_eq_true, true_and, and_assoc]

/-- Digits start with a digit. -/
theorem Denotes.isDigit_head {c : Char} {digits : List Char} {n : Nat}
    (h : Denotes (c :: digits) n) : c.isDigit = true :=
  h.2.1 c List.mem_cons_self

end Natural

/-! ## Signed numbers -/

namespace Integer

/-- Whether characters denote an integer: they are digits, perhaps after a sign. -/
inductive Denotes : List Char → Int → Prop where
  | unsigned {digits : List Char} {n : Nat} (h : Natural.Denotes digits n) : Denotes digits n
  | plus {digits : List Char} {n : Nat} (h : Natural.Denotes digits n) :
      Denotes ('+' :: digits) n
  | minus {digits : List Char} {n : Nat} (h : Natural.Denotes digits n) :
      Denotes ('-' :: digits) (-n)

/-- What digits after a plus sign denote. -/
theorem denotes_plus_iff {digits : List Char} {i : Int} :
    Denotes ('+' :: digits) i ↔ ∃ n : Nat, Natural.Denotes digits n ∧ i = n := by
  constructor
  · intro h
    cases h with
    | unsigned h => exact absurd h.isDigit_head (by decide)
    | plus h => exact ⟨_, h, rfl⟩
  · rintro ⟨n, h, rfl⟩
    exact .plus h

/-- What digits after a minus sign denote. -/
theorem denotes_minus_iff {digits : List Char} {i : Int} :
    Denotes ('-' :: digits) i ↔ ∃ n : Nat, Natural.Denotes digits n ∧ i = -n := by
  constructor
  · intro h
    cases h with
    | unsigned h => exact absurd h.isDigit_head (by decide)
    | minus h => exact ⟨_, h, rfl⟩
  · rintro ⟨n, h, rfl⟩
    exact .minus h

/-- What characters without a sign denote. -/
theorem denotes_unsigned_iff {digits : List Char} {i : Int}
    (hminus : ∀ rest, digits ≠ '-' :: rest) (hplus : ∀ rest, digits ≠ '+' :: rest) :
    Denotes digits i ↔ ∃ n : Nat, Natural.Denotes digits n ∧ i = n := by
  constructor
  · intro h
    cases h with
    | unsigned h => exact ⟨_, h, rfl⟩
    | plus h => exact absurd rfl (hplus _)
    | minus h => exact absurd rfl (hminus _)
  · rintro ⟨n, h, rfl⟩
    exact .unsigned h

/-- Nothing denotes no number. -/
theorem not_denotes_nil (i : Int) : ¬Denotes [] i := by
  intro h
  cases h with
  | unsigned h => exact h.1 rfl

/-- What denotes a number is made of digits and signs. -/
theorem Denotes.isDigit_or_sign {cs : List Char} {i : Int} (h : Denotes cs i) {c : Char}
    (hc : c ∈ cs) : c.isDigit = true ∨ c = '+' ∨ c = '-' := by
  cases h with
  | unsigned h => exact .inl (h.2.1 c hc)
  | plus h => exact (List.mem_cons.mp hc).elim (fun h => .inr (.inl h)) fun hc => .inl (h.2.1 c hc)
  | minus h => exact (List.mem_cons.mp hc).elim (fun h => .inr (.inr h)) fun hc => .inl (h.2.1 c hc)

/-- There is no semicolon in what denotes a number. -/
theorem Denotes.semicolon_notMem {cs : List Char} {i : Int} (h : Denotes cs i) : ';' ∉ cs :=
  fun hc => absurd (h.isDigit_or_sign hc) (by decide)

/-- A magnitude with a sign is read exactly as the number of 64 bits that it denotes, if its
limit is that of the numbers of 64 bits with this sign. -/
theorem readSigned_eq_ok_iff {limit : Nat} {above : NumberFault} {sign : Nat → Int}
    (hsign : ∀ n, n ≤ limit ↔ -2 ^ 63 ≤ sign n ∧ sign n < 2 ^ 63) {digits : List Char}
    {value : Int64} :
    (do let n ← Natural.readMagnitude limit above digits
        return Int64.ofInt (sign n)) = Except.ok value ↔
      ∃ n, Natural.Denotes digits n ∧ value.toInt = sign n := by
  constructor
  · intro h
    cases hread : Natural.readMagnitude limit above digits with
    | error fault =>
        rw [hread] at h
        cases h
    | ok n =>
        rw [hread] at h
        cases h
        obtain ⟨hn, hlimit⟩ := Natural.readMagnitude_eq_ok_iff.mp hread
        obtain ⟨hlow, hhigh⟩ := (hsign n).mp hlimit
        exact ⟨n, hn, Int64.toInt_ofInt_of_le hlow hhigh⟩
  · rintro ⟨n, hn, hvalue⟩
    have hlimit : n ≤ limit :=
      (hsign n).mpr (hvalue ▸ ⟨Int64.le_toInt value, Int64.toInt_lt value⟩)
    rw [Natural.readMagnitude_eq_ok_iff.mpr ⟨hn, hlimit⟩]
    change Except.ok (Int64.ofInt (sign n)) = Except.ok value
    rw [← hvalue, Int64.ofInt_toInt]

/-- Characters are read exactly as the number of 64 bits that they denote. -/
theorem parseChars_eq_ok_iff {cs : List Char} {value : Int64} :
    parseChars cs = .ok value ↔ Denotes cs value.toInt := by
  have hplain (n : Nat) : n ≤ greatest ↔ -2 ^ 63 ≤ (n : Int) ∧ (n : Int) < 2 ^ 63 := by
    unfold greatest
    omega
  have hnegated (n : Nat) : n ≤ greatest + 1 ↔ -2 ^ 63 ≤ -(n : Int) ∧ -(n : Int) < 2 ^ 63 := by
    unfold greatest
    omega
  unfold parseChars
  split
  · simp [not_denotes_nil]
  · rw [readSigned_eq_ok_iff hnegated, denotes_minus_iff]
  · rw [readSigned_eq_ok_iff hplain, denotes_plus_iff]
  · rename_i hminus hplus
    rw [readSigned_eq_ok_iff hplain, denotes_unsigned_iff hminus hplus]

/-- A text is read exactly as the number of 64 bits that it denotes. -/
theorem parse_eq_ok_iff {text : String} {value : Int64} :
    parse text = .ok value ↔ Denotes text.toList value.toInt :=
  parseChars_eq_ok_iff

/-- The text of a number has digits and a sign only. -/
theorem isDigit_or_sign_of_mem_render {value : Int64} {c : Char}
    (h : c ∈ (render value).toList) : c.isDigit = true ∨ c = '+' ∨ c = '-' :=
  (parse_eq_ok_iff.mp (parse_render value)).isDigit_or_sign h

end Integer
end IndexBench
