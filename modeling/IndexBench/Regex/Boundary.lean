import IndexBench.Regex.CharSet

/-!
# Boundaries

Some parts of a regular expression consume nothing and ask only what stands
around a position of the text.

Main definitions:

- `Context` is what stands before and after a position.
- `Boundary.holds` says whether a position with a context is a boundary.
-/

namespace IndexBench
namespace Regex

/-- The characters next to a position; `none` at an end of the text. -/
structure Context where
  before : Option Char
  after : Option Char
  deriving DecidableEq, Repr

/-- A condition on a position of the text. -/
inductive Boundary where
  | textStart
  | textEnd
  | lineStart
  | lineEnd
  /-- A line start where carriage returns end lines too. -/
  | lineStartCRLF
  /-- A line end where carriage returns end lines too. -/
  | lineEndCRLF
  | word (alphabet : Alphabet)
  | notWord (alphabet : Alphabet)
  | wordStart (alphabet : Alphabet)
  | wordEnd (alphabet : Alphabet)
  /-- No word character stands before. -/
  | wordStartHalf (alphabet : Alphabet)
  /-- No word character stands after. -/
  | wordEndHalf (alphabet : Alphabet)
  deriving DecidableEq, Repr

/-- Whether there is a character and it belongs to words. -/
def isWordAt (alphabet : Alphabet) : Option Char → Bool
  | none => false
  | some c => (CharSet.word alphabet).contains c

/-- Whether a position with this context is a boundary. -/
def Boundary.holds (context : Context) : Boundary → Bool
  | textStart => context.before == none
  | textEnd => context.after == none
  | lineStart => context.before == none || context.before == some '\n'
  | lineEnd => context.after == none || context.after == some '\n'
  | lineStartCRLF =>
      context.before == none || context.before == some '\n' ||
        (context.before == some '\r' && context.after != some '\n')
  | lineEndCRLF =>
      context.after == none || context.after == some '\r' ||
        (context.after == some '\n' && context.before != some '\r')
  | word alphabet => isWordAt alphabet context.before != isWordAt alphabet context.after
  | notWord alphabet => isWordAt alphabet context.before == isWordAt alphabet context.after
  | wordStart alphabet => !isWordAt alphabet context.before && isWordAt alphabet context.after
  | wordEnd alphabet => isWordAt alphabet context.before && !isWordAt alphabet context.after
  | wordStartHalf alphabet => !isWordAt alphabet context.before
  | wordEndHalf alphabet => !isWordAt alphabet context.after

end Regex
end IndexBench
