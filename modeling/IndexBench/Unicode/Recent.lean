import IndexBench.Unicode.Ranges

/-!
# Recent characters

Letters and numbers that were added after the version of the character set that
the other tables describe.  Names may use them, though no class has them.
-/

namespace IndexBench
namespace Unicode

/-- The letters that were added later. -/
def recentLetterData : String :=
  "88f 3cc 7f 9af1-2 2 1 1c 614e-1a 56b-3 32-2 c64-8 248-2c 50c4-19 2-19 11e-5 1801-8 509-16
61-73 58cd-1f 1-16 8-2 d03a-6 1762-c 5502-10ca"

/-- The numbers that were added later. -/
def recentNumberData : String :=
  "11de0-a 520a-3"

/-- The letters that were added later, decoded. -/
def recentLetters : Array (Nat × Nat) :=
  Ranges.decode recentLetterData

/-- The numbers that were added later, decoded. -/
def recentNumbers : Array (Nat × Nat) :=
  Ranges.decode recentNumberData

end Unicode
end IndexBench
