import IndexBench.Unicode.Unprintable

/-!
# Quoted text

Reports quote a text so that its ends and its unprintable characters show.

Main definitions:

- `Quoted.render` is a text in quotes.
-/

namespace IndexBench
namespace Quoted

/-- The hexadecimal digits of a number below sixteen. -/
def hexDigit (d : Nat) : Char :=
  Char.ofNat (if d < 10 then 48 + d else 87 + d)

/-- The hexadecimal digits of a number, most significant first. -/
def hexDigits (n : Nat) : List Char :=
  if n < 16 then [hexDigit n] else hexDigits (n / 16) ++ [hexDigit (n % 16)]
termination_by n
decreasing_by omega

/-- A character as it is shown in quotes. -/
def renderChar (c : Char) : List Char :=
  match c with
  | '\x00' => ['\\', '0']
  | '\t' => ['\\', 't']
  | '\r' => ['\\', 'r']
  | '\n' => ['\\', 'n']
  | '\\' => ['\\', '\\']
  | '"' => ['\\', '"']
  | _ =>
      if Unicode.inRanges Unicode.unprintable c.toNat then
        ['\\', 'u', '\x7b'] ++ hexDigits c.toNat ++ ['\x7d']
      else [c]

/-- A text in quotes. -/
def render (text : String) : String :=
  String.ofList ('"' :: (text.toList.flatMap renderChar ++ ['"']))

end Quoted
end IndexBench
