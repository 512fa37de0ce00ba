import IndexBench.Regex.Layout
import IndexBench.Regex.Pattern

/-!
# Size of regular expressions

A counted repetition takes as much room as its body written out.  An expression
that would take more than a fixed number of bytes is refused before it is used.

Main definitions:

- `Shape.fits` says whether the automata of a shape have room.
- `Regex.compile` reads a pattern and refuses what is too large.
-/

namespace IndexBench
namespace Regex

/-- Whether both automata of a shape have room. -/
def Shape.fits (shape : Shape) : Bool :=
  !(Layout.forward shape).isExceeded && !(Layout.backward shape).isExceeded

/-- Reads a pattern, refusing it if its automata are too large. -/
def compile (pattern : String) : Except Fault Regex := do
  let part ← parsePart pattern
  if part.shape.fits then return part.regex else .error (.tooLarge Room.limit)

end Regex
end IndexBench
