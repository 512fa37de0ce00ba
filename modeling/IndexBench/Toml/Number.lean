import IndexBench.Toml.Text

/-!
# Numbers and dates of settings documents

Numbers and dates are runs of letters, digits and a few signs.  Underscores may
stand between two digits, and no number has a leading zero.

Main definitions:

- `Toml.readNumber` reads a number, a date or a time.
-/

namespace IndexBench
namespace Toml

/-! ## Digits -/

/-- Digits without the underscores between them, if there is at least one digit
and every underscore stands between two. -/
def ungroup (isDigit : Char → Bool) : List Char → Option (List Char)
  | [] => none
  | [c] => if isDigit c then some [c] else none
  | c :: '_' :: rest => if isDigit c then (ungroup isDigit rest).map (c :: ·) else none
  | c :: rest => if isDigit c then (ungroup isDigit rest).map (c :: ·) else none

/-- The value of digits in a base. -/
def valueOf (base : Nat) (digits : List Char) : Nat :=
  digits.foldl (fun n c => n * base + (hexDigit? c).getD 0) 0

/-- Whether a character is a digit of a base. -/
def isDigitOf (base : Nat) (c : Char) : Bool :=
  (hexDigit? c).any (· < base)

/-- The digits of a whole number in decimal, which has no leading zero. -/
def decimal? (cs : List Char) : Option (List Char) := do
  let digits ← ungroup (isDigitOf 10) cs
  if cs.head? = some '0' && cs.length ≠ 1 then none else some digits

/-- A sign and what follows it. -/
def splitSign : List Char → Bool × List Char
  | '-' :: rest => (true, rest)
  | '+' :: rest => (false, rest)
  | cs => (false, cs)

/-! ## Whole numbers -/

/-- A whole number of 64 bits. -/
def ofMagnitude? (negative : Bool) (n : Nat) : Option Value :=
  if negative then
    if n ≤ Integer.greatest + 1 then some (.integer (Int64.ofInt (-(n : Int)))) else none
  else if n ≤ Integer.greatest then some (.integer (Int64.ofInt n)) else none

/-- Reads the digits of a number whose base is given by a letter. -/
def based? (base : Nat) (cs : List Char) : Option Value := do
  let digits ← ungroup (isDigitOf base) cs
  ofMagnitude? false (valueOf base digits)

/-- Reads a whole number. -/
def integer? (cs : List Char) : Option Value :=
  match cs with
  | '0' :: 'x' :: rest => based? 16 rest
  | '0' :: 'o' :: rest => based? 8 rest
  | '0' :: 'b' :: rest => based? 2 rest
  | _ => do
      let (negative, rest) := splitSign cs
      let digits ← decimal? rest
      ofMagnitude? negative (valueOf 10 digits)

/-! ## Fractions -/

/-- The least magnitude that rounds to no finite double. -/
def overflow : Nat := Nat.pow 2 1024 - Nat.pow 2 970

/-- Whether `magnitude * 10 ^ exponent` has a finite double. -/
def isFinite (magnitude : Nat) (exponent : Int) : Bool :=
  let size := ((Natural.digits magnitude).length : Int) + exponent
  if magnitude = 0 || size < 300 then true
  else if size > 400 then false
  else
    match exponent with
    | .ofNat e => magnitude * Nat.pow 10 e < overflow
    | .negSucc e => magnitude < overflow * Nat.pow 10 (e + 1)

/-- The exponent of a fraction: none is zero. -/
def exponent? (cs : List Char) : Option Int :=
  match cs with
  | [] => some 0
  | c :: rest =>
      if c = 'e' || c = 'E' then do
        let (negative, rest) := splitSign rest
        let digits ← ungroup (isDigitOf 10) rest
        let n : Int := valueOf 10 digits
        return if negative then -n else n
      else none

/-- The digits after a point, if there is one, and what follows them. -/
def fraction? (cs : List Char) : Option (List Char × List Char) :=
  match cs with
  | '.' :: rest => do
      let part := rest.takeWhile fun c => c != 'e' && c != 'E'
      let digits ← ungroup (isDigitOf 10) part
      return (digits, rest.drop part.length)
  | _ => some ([], cs)

/-- Reads a number with a point or an exponent.  A positive one must not be too
large for a double. -/
def float? (cs : List Char) : Option Value := do
  let (negative, rest) := splitSign cs
  if rest = ['i', 'n', 'f'] || rest = ['n', 'a', 'n'] then return .float
  let part := rest.takeWhile fun c => c != '.' && c != 'e' && c != 'E'
  let whole ← decimal? part
  let after := rest.drop part.length
  if after.isEmpty then none
  else
    let (digits, after) ← fraction? after
    let exponent ← exponent? after
    if negative || isFinite (valueOf 10 (whole ++ digits)) (exponent - digits.length) then
      return .float
    else none

/-! ## Dates and times -/

/-- The value of two digits that is at most `max`. -/
def pair? (max : Nat) : List Char → Option Nat
  | [a, b] =>
      if a.isDigit && b.isDigit && valueOf 10 [a, b] ≤ max then some (valueOf 10 [a, b]) else none
  | _ => none

/-- Whether a year has a leap day. -/
def isLeap (year : Nat) : Bool :=
  year % 4 = 0 && (year % 100 ≠ 0 || year % 400 = 0)

/-- Number of days in a month. -/
def daysIn (year month : Nat) : Nat :=
  if month = 2 then if isLeap year then 29 else 28
  else if month = 4 || month = 6 || month = 9 || month = 11 then 30
  else 31

/-- Whether a text is a date. -/
def isDate : List Char → Bool
  | [a, b, c, d, '-', e, f, '-', g, h] =>
      if [a, b, c, d].all Char.isDigit then
        let year := valueOf 10 [a, b, c, d]
        match pair? 12 [e, f], pair? 31 [g, h] with
        | some month, some day => 1 ≤ month && 1 ≤ day && day ≤ daysIn year month
        | _, _ => false
      else false
  | _ => false

/-- What follows a time of day, if a text starts with one. -/
def afterTime? : List Char → Option (List Char)
  | a :: b :: ':' :: c :: d :: ':' :: e :: f :: rest => do
      let _ ← pair? 23 [a, b]
      let _ ← pair? 59 [c, d]
      let _ ← pair? 60 [e, f]
      match rest with
      | '.' :: rest =>
          let digits := rest.takeWhile Char.isDigit
          if digits.isEmpty then none else some (rest.drop digits.length)
      | _ => some rest
  | _ => none

/-- Whether a text is nothing or the distance to universal time. -/
def isOffset : List Char → Bool
  | [] => true
  | ['Z'] => true
  | ['z'] => true
  | [sign, a, b, ':', c, d] =>
      (sign == '+' || sign == '-') && (pair? 23 [a, b]).isSome && (pair? 59 [c, d]).isSome
  | _ => false

/-- Whether a text is a time of day with or without an offset. -/
def isMoment (offset : Bool) (cs : List Char) : Bool :=
  match afterTime? cs with
  | some rest => if offset then isOffset rest else rest.isEmpty
  | none => false

/-- Whether a text is a date, a time, or both with a letter between them. -/
def isDatetime (cs : List Char) : Bool :=
  isDate cs || isMoment false cs ||
    (isDate (cs.take 10) &&
      match cs.drop 10 with
      | c :: rest => (c == 'T' || c == 't') && isMoment true rest
      | [] => false)

/-! ## Numbers -/

/-- A character of numbers and dates. -/
def isNumeral (c : Char) : Bool :=
  c.isAlphanum || c == '+' || c == '-' || c == '.' || c == '_' || c == ':'

/-- Reads a number, a date or a time.  A blank between a date and a time counts
as the letter between them. -/
def readNumber (cs : List Char) : Except DocumentFault (Value × List Char) :=
  let word := cs.takeWhile isNumeral
  let rest := cs.drop word.length
  if isDatetime word then
    match isDate word, rest with
    | true, ' ' :: c :: others =>
        if c.isDigit then
          let time := (c :: others).takeWhile isNumeral
          if isMoment true time then .ok (.datetime, (c :: others).drop time.length)
          else refuse rest
        else .ok (.datetime, rest)
    | _, _ => .ok (.datetime, rest)
  else
    match (float? word).or (integer? word) with
    | some value => .ok (value, rest)
    | none => refuse cs

end Toml
end IndexBench
