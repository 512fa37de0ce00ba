import IndexBench.Regex.CharSet
import IndexBench.Regex.Fault

/-!
# Flags

Flags change how the rest of a group is read.  They are set by a group of
letters, where a minus sign turns off the flags after it.

Main definitions:

- `Flags` is the setting of all flags, `Flags.initial` the one at the start.
- `Flags.skip` skips what the extended notation ignores.
- `Flags.change` reads a group of flag letters.
-/

namespace IndexBench
namespace Regex

/-- A flag by its letter. -/
inductive Flag where
  | ignoreCase
  | multiLine
  | dotAll
  | lazy
  | unicode
  | crlf
  | extended
  deriving DecidableEq, Repr

/-- The flag with a given letter. -/
def Flag.ofChar? : Char → Option Flag
  | 'i' => some .ignoreCase
  | 'm' => some .multiLine
  | 's' => some .dotAll
  | 'U' => some .lazy
  | 'u' => some .unicode
  | 'R' => some .crlf
  | 'x' => some .extended
  | _ => none

/-- The setting of all flags. -/
structure Flags where
  ignoreCase : Bool
  /-- Whether the anchors hold at every line. -/
  multiLine : Bool
  /-- Whether the dot has line feeds. -/
  dotAll : Bool
  /-- Whether classes go beyond ASCII. -/
  unicode : Bool
  /-- Whether carriage returns end lines too. -/
  crlf : Bool
  /-- Whether blanks and comments are ignored. -/
  extended : Bool
  /-- Whether a repetition is lazy unless a question mark follows. -/
  swapped : Bool
  deriving DecidableEq, Repr

namespace Flags

/-- The flags at the start of a pattern. -/
def initial : Flags where
  ignoreCase := false
  multiLine := false
  dotAll := false
  unicode := true
  crlf := false
  extended := false
  swapped := false

/-- Turns a flag on or off. -/
def set (flags : Flags) (on : Bool) : Flag → Flags
  | .ignoreCase => { flags with ignoreCase := on }
  | .multiLine => { flags with multiLine := on }
  | .dotAll => { flags with dotAll := on }
  | .lazy => { flags with swapped := on }
  | .unicode => { flags with unicode := on }
  | .crlf => { flags with crlf := on }
  | .extended => { flags with extended := on }

/-- The alphabet of classes, boundaries and letter case. -/
def alphabet (flags : Flags) : Alphabet :=
  if flags.unicode then .unicode else .ascii

/-! ## Blanks -/

/-- A blank of the extended notation. -/
def isBlank (c : Char) : Bool :=
  (CharSet.space .unicode).contains c

/-- What follows blanks and comments. -/
def skipBlanks (comment : Bool) : List Char → List Char
  | [] => []
  | c :: rest =>
      if comment then skipBlanks (c != '\n') rest
      else if c = '#' then skipBlanks true rest
      else if isBlank c then skipBlanks false rest
      else c :: rest

/-- What follows the characters that the flags say to ignore. -/
def skip (flags : Flags) (cs : List Char) : List Char :=
  if flags.extended then skipBlanks false cs else cs

/-- The next character that counts, where any blank continues a comment. -/
def peekBlanks (comment : Bool) : List Char → Option Char
  | [] => none
  | c :: rest =>
      if isBlank c then peekBlanks comment rest
      else if !comment && c = '#' then peekBlanks true rest
      else some c

/-- The next character that the flags do not say to ignore. -/
def peek (flags : Flags) (cs : List Char) : Option Char :=
  if flags.extended then peekBlanks false cs else cs.head?

/-! ## Groups of letters -/

/-- A group of flag letters as read. -/
structure Change where
  flags : Flags
  /-- Whether there is any letter or sign. -/
  present : Bool
  /-- Whether a colon ends the letters, so that the group goes on. -/
  opens : Bool
  rest : List Char

/-- Reads flag letters up to the colon or parenthesis that ends them. -/
def changeFrom (seen : List Flag) (negated dangling : Bool) (flags : Flags) :
    List Char → Except Fault Change
  | [] => unreadable "unclosed flags"
  | c :: rest =>
      if c = ':' || c = ')' then
        if dangling then unreadable "dangling flag negation"
        else .ok ⟨flags, negated || !seen.isEmpty, c == ':', rest⟩
      else if c = '-' then
        if negated then unreadable "repeated flag negation"
        else changeFrom seen true true flags rest
      else
        match Flag.ofChar? c with
        | none => unreadable "unrecognized flag"
        | some flag =>
            if seen.contains flag then unreadable "repeated flag"
            else changeFrom (flag :: seen) negated false (flags.set (!negated) flag) rest

/-- Reads flag letters after the question mark that announces them. -/
def change (flags : Flags) (cs : List Char) : Except Fault Change :=
  changeFrom [] false false flags cs

end Flags
end Regex
end IndexBench
