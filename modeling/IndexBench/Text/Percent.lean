/-!
# Percent encoding

In addresses a byte may be written as a percent sign and two hexadecimal digits.

Main definitions:

- `Percent.decode` reads the bytes of an address.
-/

namespace IndexBench
namespace Percent

/-- The value of a hexadecimal digit. -/
def hexDigit? (b : UInt8) : Option UInt8 :=
  if 48 ≤ b && b ≤ 57 then some (b - 48)
  else if 97 ≤ b && b ≤ 102 then some (b - 87)
  else if 65 ≤ b && b ≤ 70 then some (b - 55)
  else none

/-- The byte that two digits stand for. -/
def byte? (high low : UInt8) : Option UInt8 := do
  return (← hexDigit? high) * 16 + (← hexDigit? low)

/-- The bytes that a text stands for.  A percent sign without two digits stands
for itself. -/
def decode : List UInt8 → List UInt8
  | [] => []
  | [b] => [b]
  | [b, c] => [b, c]
  | b :: c :: d :: rest =>
      if b = 37 then
        match byte? c d with
        | some byte => byte :: decode rest
        | none => b :: decode (c :: d :: rest)
      else b :: decode (c :: d :: rest)

end Percent
end IndexBench
