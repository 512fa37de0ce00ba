import IndexBench.Text.Integer

/-!
# Fixed-point text of a double

Averages are printed with a fixed number of decimal places.  A finite double
is a whole number times a power of two, so its decimal text follows from
integer arithmetic alone.

Main definitions:

- `Binary.ofBits` splits a double into sign, magnitude and exponent.
- `Fixed.roundDiv` is division rounded to the nearest whole number, a tie going
  to the even neighbour.
- `Fixed.render` writes a double with a given number of places.
-/

namespace IndexBench

/-- A double by its bits: a finite value `± magnitude * 2 ^ exponent`, an
infinity, or no number. -/
inductive Binary where
  | finite (negative : Bool) (magnitude : Nat) (exponent : Int)
  | infinite (negative : Bool)
  | notANumber
  deriving DecidableEq, Repr

/-- Reads the bits of a double. -/
def Binary.ofBits (bits : UInt64) : Binary :=
  let n := bits.toNat
  let negative := n / Nat.pow 2 63 == 1
  let exponent : Nat := n / Nat.pow 2 52 % Nat.pow 2 11
  let fraction : Nat := n % Nat.pow 2 52
  if exponent = 2047 then
    if fraction = 0 then .infinite negative else .notANumber
  else if exponent = 0 then .finite negative fraction (-1074)
  else .finite negative (Nat.pow 2 52 + fraction) ((exponent : Int) - 1075)

namespace Fixed

/-- `num / den` to the nearest whole number; a tie goes to the even one. -/
def roundDiv (num den : Nat) : Nat :=
  let q := num / den
  let r := num % den
  if 2 * r < den then q
  else if den < 2 * r then q + 1
  else if q % 2 = 0 then q
  else q + 1

/-- `magnitude * 2 ^ exponent` in units of `10 ^ -places`, rounded. -/
def scaled (places magnitude : Nat) (exponent : Int) : Nat :=
  match exponent with
  | .ofNat e => magnitude * Nat.pow 2 e * Nat.pow 10 places
  | .negSucc e => roundDiv (magnitude * Nat.pow 10 places) (Nat.pow 2 (e + 1))

/-- Digits of a number, with zeros in front up to a width. -/
def padded (width n : Nat) : List Char :=
  let ds := Natural.digits n
  List.replicate (width - ds.length) '0' ++ ds

/-- A number of units of `10 ^ -places` as decimal text. -/
def point (places units : Nat) : List Char :=
  Natural.digits (units / Nat.pow 10 places) ++
    '.' :: padded places (units % Nat.pow 10 places)

/-- The text of a double with a fixed number of places: the exact value rounded,
a tie going to the even neighbour. -/
def render (places : Nat) (value : Float) : String :=
  match Binary.ofBits value.toBits with
  | .finite negative magnitude exponent =>
      let text := point places (scaled places magnitude exponent)
      String.ofList (if negative then '-' :: text else text)
  | .infinite negative => if negative then "-inf" else "inf"
  | .notANumber => "NaN"

end Fixed
end IndexBench
