/-!
# Decimal integers in text

The number format of every input and every report of the library: decimal
digits, an optional sign on input, a minus sign for negative values on output.

Main definitions:

- `Natural.digits` and `Natural.render` write a natural number.
- `Integer.parse` reads a signed number of 64 bits and names the first reason
  for which a text is not one; `Integer.render` writes it back.
- `Natural.parse` reads an unsigned number of 64 bits, `Natural.parseUpTo` one
  below another limit.

Main results:

- Theorems `Natural.parse_render` and `Integer.parse_render`: what is written reads back.

Reading goes from left to right and stops at the first character that is no
digit or that takes the value out of range, whichever comes first.
-/

namespace IndexBench

/-! ## Reasons for refusal -/

/-- Why a text is not a number of 64 bits. -/
inductive NumberFault where
  /-- There is no character at all. -/
  | empty
  /-- A character is no digit, or there is a sign and nothing else. -/
  | digit
  /-- The value lies above the greatest one. -/
  | tooLarge
  /-- The value lies below the least one. -/
  | tooSmall
  deriving DecidableEq, Repr

/-- The wording of a refusal. -/
def NumberFault.message : NumberFault → String
  | .empty => "cannot parse integer from empty string"
  | .digit => "invalid digit found in string"
  | .tooLarge => "number too large to fit in target type"
  | .tooSmall => "number too small to fit in target type"

namespace Natural

/-! ## Writing -/

/-- The decimal digit of a number below ten. -/
def digitChar (d : Nat) : Char :=
  Char.ofNat (48 + d)

/-- The decimal digits of a number, most significant first and without leading
zeros. -/
def digits (n : Nat) : List Char :=
  if n < 10 then [digitChar n] else digits (n / 10) ++ [digitChar (n % 10)]
termination_by n
decreasing_by omega

/-- The decimal text of a natural number. -/
def render (n : Nat) : String :=
  String.ofList (digits n)

/-! ## Reading -/

/-- The value of a decimal digit. -/
def digit? (c : Char) : Option Nat :=
  if 48 ≤ c.toNat ∧ c.toNat ≤ 57 then some (c.toNat - 48) else none

/-- Reads digits onto `acc`, refusing at the first character that is no digit
or that takes the value above `limit`. -/
def readDigits (limit : Nat) (above : NumberFault) : Nat → List Char → Except NumberFault Nat
  | acc, [] => .ok acc
  | acc, c :: rest =>
      match digit? c with
      | none => .error .digit
      | some d =>
          if acc * 10 + d ≤ limit then readDigits limit above (acc * 10 + d) rest
          else .error above

/-- Reads a non-empty run of digits as a magnitude of at most `limit`. -/
def readMagnitude (limit : Nat) (above : NumberFault) : List Char → Except NumberFault Nat
  | [] => .error .digit
  | c :: rest => readDigits limit above 0 (c :: rest)

/-- The digit of a number below ten has that value. -/
theorem digit?_digitChar {d : Nat} (h : d < 10) : digit? (digitChar d) = some d := by
  have all : ∀ d < 10, digit? (digitChar d) = some d := by decide
  exact all d h

/-- Every number has a digit. -/
theorem digits_ne_nil (n : Nat) : digits n ≠ [] := by
  unfold digits
  split <;> simp

/-- A number is written in digits only. -/
theorem isSome_digit?_of_mem_digits {n : Nat} {c : Char} (h : c ∈ digits n) :
    (digit? c).isSome = true := by
  induction n using digits.induct with
  | case1 n hn =>
      unfold digits at h
      rw [if_pos hn, List.mem_singleton] at h
      rw [h, digit?_digitChar hn, Option.isSome_some]
  | case2 n hn ih =>
      unfold digits at h
      rw [if_neg hn, List.mem_append, List.mem_singleton] at h
      rcases h with h | rfl
      · exact ih h
      · rw [digit?_digitChar (Nat.mod_lt n (by decide)), Option.isSome_some]

/-- A number does not start with a sign. -/
theorem head_digits_ne {n : Nat} {c : Char} {rest : List Char} (h : digits n = c :: rest)
    {sign : Char} (hsign : digit? sign = none) : c ≠ sign := by
  rintro rfl
  have := isSome_digit?_of_mem_digits (n := n) (c := c) (by simp [h])
  simp [hsign] at this

/-- Digits are read in pieces as they are read in one. -/
theorem readDigits_append (limit : Nat) (above : NumberFault) (acc : Nat) (xs ys : List Char) :
    readDigits limit above acc (xs ++ ys) =
      (readDigits limit above acc xs).bind fun n => readDigits limit above n ys := by
  induction xs generalizing acc with
  | nil => rfl
  | cons c xs ih =>
      rw [List.cons_append, readDigits, readDigits]
      cases digit? c with
      | none => rfl
      | some d =>
          simp only
          split
          · exact ih _
          · rfl

/-- The digits of a number read as that number. -/
theorem readDigits_digits {limit n : Nat} (above : NumberFault) (h : n ≤ limit) :
    readDigits limit above 0 (digits n) = .ok n := by
  induction n using digits.induct with
  | case1 n hn =>
      unfold digits
      rw [if_pos hn, readDigits, digit?_digitChar hn]
      simp [h, readDigits]
  | case2 n hn ih =>
      unfold digits
      rw [if_neg hn, readDigits_append, ih (by omega), Except.bind, readDigits,
        digit?_digitChar (Nat.mod_lt n (by decide))]
      have hsum : n / 10 * 10 + n % 10 = n := by omega
      simp [hsum, h, readDigits]

/-- The digits of a number are its magnitude. -/
theorem readMagnitude_digits {limit n : Nat} (above : NumberFault) (h : n ≤ limit) :
    readMagnitude limit above (digits n) = .ok n := by
  cases hd : digits n with
  | nil => exact absurd hd (digits_ne_nil n)
  | cons c rest => rw [readMagnitude, ← hd, readDigits_digits above h]

/-- The greatest unsigned number of 64 bits. -/
def greatest : Nat := 18446744073709551615

/-- Reads a number of at most `limit`, with an optional plus sign. -/
def parseUpTo (limit : Nat) (text : String) : Except NumberFault Nat :=
  match text.toList with
  | [] => .error .empty
  | '+' :: rest => readMagnitude limit .tooLarge rest
  | cs => readMagnitude limit .tooLarge cs

/-- Reads an unsigned number of 64 bits, with an optional plus sign. -/
def parse (text : String) : Except NumberFault Nat :=
  parseUpTo greatest text

/-- The text of an unsigned number of 64 bits reads as that number. -/
@[simp]
theorem parse_render {n : Nat} (h : n ≤ greatest) : parse (render n) = .ok n := by
  have hread := readMagnitude_digits .tooLarge h
  unfold parse parseUpTo render
  rw [String.toList_ofList]
  cases hd : digits n with
  | nil => exact absurd hd (digits_ne_nil n)
  | cons c rest =>
      have hplus : c ≠ '+' := head_digits_ne hd (by decide)
      rw [hd] at hread
      split
      · rename_i heq; cases heq
      · rename_i heq; cases heq; exact absurd rfl hplus
      · exact hread

end Natural

namespace Integer

/-- The greatest signed number of 64 bits; the least one lies one further from
zero. -/
def greatest : Nat := 9223372036854775807

/-- Reads the characters of a signed number of 64 bits. -/
def parseChars : List Char → Except NumberFault Int64
  | [] => .error .empty
  | '-' :: rest => do
      let n ← Natural.readMagnitude (greatest + 1) .tooSmall rest
      return Int64.ofInt (-(n : Int))
  | '+' :: rest => do
      let n ← Natural.readMagnitude greatest .tooLarge rest
      return Int64.ofInt n
  | cs => do
      let n ← Natural.readMagnitude greatest .tooLarge cs
      return Int64.ofInt n

/-- Reads a signed number of 64 bits: an optional sign, then digits. -/
def parse (text : String) : Except NumberFault Int64 :=
  parseChars text.toList

/-- The characters of a signed number. -/
def chars (value : Int) : List Char :=
  match value with
  | .ofNat n => Natural.digits n
  | .negSucc n => '-' :: Natural.digits (n + 1)

/-- The decimal text of a signed number of 64 bits. -/
def render (value : Int64) : String :=
  String.ofList (chars value.toInt)

/-- The digits of a number in range read as that number. -/
theorem parseChars_digits {n : Nat} (h : n ≤ greatest) :
    parseChars (Natural.digits n) = .ok (Int64.ofInt n) := by
  have hread := Natural.readMagnitude_digits .tooLarge h
  have hplus : ∀ rest, Natural.digits n ≠ '+' :: rest := fun _ hd =>
    Natural.head_digits_ne hd (show Natural.digit? '+' = none by decide) rfl
  have hminus : ∀ rest, Natural.digits n ≠ '-' :: rest := fun _ hd =>
    Natural.head_digits_ne hd (show Natural.digit? '-' = none by decide) rfl
  have hne := Natural.digits_ne_nil n
  unfold parseChars
  split
  · rename_i heq; exact absurd heq hne
  · rename_i heq; exact (hminus _ heq).elim
  · rename_i heq; exact (hplus _ heq).elim
  · rw [hread]; rfl

/-- The text of a signed number of 64 bits reads as that number. -/
@[simp]
theorem parse_render (value : Int64) : parse (render value) = .ok value := by
  have hlow := Int64.le_toInt value
  have hhigh := Int64.toInt_lt value
  have hof : Int64.ofInt value.toInt = value := Int64.ofInt_toInt value
  unfold parse render
  rw [String.toList_ofList]
  cases hv : value.toInt with
  | ofNat n =>
      rw [hv] at hof hhigh
      have hn : n ≤ greatest := by unfold greatest; simp at hhigh; omega
      rw [chars, parseChars_digits hn]
      exact congrArg Except.ok hof
  | negSucc n =>
      rw [hv] at hof hlow
      have hn : n + 1 ≤ greatest + 1 := by unfold greatest; omega
      rw [chars, parseChars, Natural.readMagnitude_digits .tooSmall hn]
      exact congrArg Except.ok hof

end Integer

end IndexBench
