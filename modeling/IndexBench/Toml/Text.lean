import IndexBench.Toml.Value

/-!
# Text of settings documents

Blanks, comments, strings and keys.

Main definitions:

- `Toml.endLine` reads the end of a line, `Toml.skipLines` empty lines.
- `Toml.readString` reads a string, `Toml.readKey` a key with its dots.
-/

namespace IndexBench
namespace Toml

/-- Refuses a text at the place where `cs` is left. -/
def refuse {α : Type} (cs : List Char) : Except DocumentFault α :=
  .error (.grammar cs.length)

/-! ## Blanks and comments -/

/-- A blank inside a line. -/
def isBlank (c : Char) : Bool :=
  c == ' ' || c == '\t'

/-- A character of comments and literal strings. -/
def isPrintable (c : Char) : Bool :=
  c == '\t' || (32 ≤ c.toNat && c.toNat != 127)

/-- What follows blanks. -/
def skipBlanks (cs : List Char) : List Char :=
  cs.dropWhile isBlank

/-- What follows the end of a line, if a line ends here. -/
def newline? : List Char → Option (List Char)
  | '\n' :: rest => some rest
  | '\r' :: '\n' :: rest => some rest
  | _ => none

/-- What follows a comment, if there is one. -/
def skipComment : List Char → List Char
  | '#' :: rest => rest.dropWhile isPrintable
  | cs => cs

/-- Reads blanks, a comment and the end of the line or of the text. -/
def endLine (cs : List Char) : Except DocumentFault (List Char) :=
  let rest := skipComment (skipBlanks cs)
  match rest, newline? rest with
  | [], _ => .ok []
  | _, some rest => .ok rest
  | _, none => refuse rest

/-- What follows blanks, comments and ends of lines; `fuel` bounds the number of
lines. -/
def skipLines : Nat → List Char → List Char
  | 0, cs => cs
  | fuel + 1, cs =>
      match newline? (skipComment (skipBlanks cs)) with
      | some rest => skipLines fuel rest
      | none => skipBlanks cs

/-! ## Strings -/

/-- The value of a hexadecimal digit. -/
def hexDigit? (c : Char) : Option Nat :=
  if 48 ≤ c.toNat ∧ c.toNat ≤ 57 then some (c.toNat - 48)
  else if 97 ≤ c.toNat ∧ c.toNat ≤ 102 then some (c.toNat - 87)
  else if 65 ≤ c.toNat ∧ c.toNat ≤ 70 then some (c.toNat - 55)
  else none

/-- Reads a character by its number, given in `count` digits. -/
def readNumbered : Nat → Nat → List Char → Except DocumentFault (Char × List Char)
  | 0, acc, cs => if acc.isValidChar then .ok (Char.ofNat acc, cs) else refuse cs
  | _ + 1, _, [] => refuse []
  | count + 1, acc, c :: rest =>
      match hexDigit? c with
      | some d => readNumbered count (acc * 16 + d) rest
      | none => refuse (c :: rest)

/-- Reads what follows a backslash. -/
def readEscape : List Char → Except DocumentFault (Char × List Char)
  | 'b' :: rest => .ok ('\x08', rest)
  | 't' :: rest => .ok ('\t', rest)
  | 'n' :: rest => .ok ('\n', rest)
  | 'f' :: rest => .ok ('\x0c', rest)
  | 'r' :: rest => .ok ('\r', rest)
  | '"' :: rest => .ok ('"', rest)
  | '\\' :: rest => .ok ('\\', rest)
  | 'u' :: rest => readNumbered 4 0 rest
  | 'U' :: rest => readNumbered 8 0 rest
  | cs => refuse cs

/-- What follows an escaped end of a line: all blanks and ends of lines. -/
def skipFold : List Char → List Char
  | '\r' :: '\n' :: rest => skipFold rest
  | c :: rest => if isBlank c || c == '\n' then skipFold rest else c :: rest
  | [] => []

/-- What follows an escaped end of a line, if that is what a backslash escapes. -/
def fold? (cs : List Char) : Option (List Char) :=
  (newline? (skipBlanks cs)).map skipFold

/-- Reads a string in one line, up to its closing quote; `fuel` bounds the number
of characters. -/
def readBasic : Nat → List Char → List Char → Except DocumentFault (String × List Char)
  | 0, _, cs => refuse cs
  | fuel + 1, acc, cs =>
      match cs with
      | [] => refuse []
      | '"' :: rest => .ok (String.ofList acc.reverse, rest)
      | '\\' :: rest => do
          let (c, rest) ← readEscape rest
          readBasic fuel (c :: acc) rest
      | c :: rest => if isPrintable c then readBasic fuel (c :: acc) rest else refuse (c :: rest)

/-- Reads a literal string in one line, up to its closing quote. -/
def readLiteral (acc : List Char) : List Char → Except DocumentFault (String × List Char)
  | [] => refuse []
  | c :: rest =>
      if c = '\'' then .ok (String.ofList acc.reverse, rest)
      else if isPrintable c then readLiteral (c :: acc) rest
      else refuse (c :: rest)

/-- Number of copies of a character at the start of a text. -/
def countStart (c : Char) (cs : List Char) : Nat :=
  (cs.takeWhile (· == c)).length

/-- Reads a string of several lines between triple quotes `quote`; up to two
quotes before the closing ones belong to it.  `fuel` bounds the number of
characters. -/
def readLines (quote : Char) (escapes : Bool) :
    Nat → List Char → List Char → Except DocumentFault (String × List Char)
  | 0, _, cs => refuse cs
  | fuel + 1, acc, cs =>
      match cs with
      | [] => refuse []
      | c :: rest =>
          if c = quote then
            let n := countStart quote cs
            if n ≤ 2 then readLines quote escapes fuel (c :: acc) rest
            else if n ≤ 5 then
              .ok (String.ofList (List.replicate (n - 3) quote ++ acc).reverse, cs.drop n)
            else refuse cs
          else if c = '\\' && escapes then
            match fold? rest with
            | some rest => readLines quote escapes fuel acc rest
            | none => do
                let (c, rest) ← readEscape rest
                readLines quote escapes fuel (c :: acc) rest
          else
            match newline? cs with
            | some rest => readLines quote escapes fuel ('\n' :: acc) rest
            | none =>
                if isPrintable c then readLines quote escapes fuel (c :: acc) rest else refuse cs

/-- What follows the end of a line, if there is one. -/
def skipNewline (cs : List Char) : List Char :=
  (newline? cs).getD cs

/-- Reads a string of any kind. -/
def readString : List Char → Except DocumentFault (String × List Char)
  | '"' :: '"' :: '"' :: rest => readLines '"' true (rest.length + 1) [] (skipNewline rest)
  | '\'' :: '\'' :: '\'' :: rest => readLines '\'' false (rest.length + 1) [] (skipNewline rest)
  | '"' :: rest => readBasic (rest.length + 1) [] rest
  | '\'' :: rest => readLiteral [] rest
  | cs => refuse cs

/-! ## Keys -/

/-- A character of keys without quotes. -/
def isBare (c : Char) : Bool :=
  c.isAlphanum || c == '_' || c == '-'

/-- Reads one part of a key. -/
def readKeyPart : List Char → Except DocumentFault (String × List Char)
  | '"' :: rest => readBasic (rest.length + 1) [] rest
  | '\'' :: rest => readLiteral [] rest
  | cs =>
      let part := cs.takeWhile isBare
      if part.isEmpty then refuse cs else .ok (String.ofList part, cs.drop part.length)

/-- Reads a key, of which the parts before are given, last one first; `fuel`
bounds the number of parts. -/
def readKeyFrom : Nat → List String → List Char → Except DocumentFault (List String × List Char)
  | 0, _, cs => refuse cs
  | fuel + 1, parts, cs => do
      let (part, rest) ← readKeyPart (skipBlanks cs)
      match skipBlanks rest with
      | '.' :: rest => readKeyFrom fuel (part :: parts) rest
      | rest => return ((part :: parts).reverse, rest)

/-- How deeply values and keys may be nested. -/
def depthLimit : Nat := 80

/-- Reads a key with the blanks around it: its parts, of which there is at least
one. -/
def readKey (cs : List Char) : Except DocumentFault (List String × List Char) := do
  let (parts, rest) ← readKeyFrom (cs.length + 1) [] cs
  if parts.length < depthLimit then return (parts, rest) else .error .depth

end Toml
end IndexBench
