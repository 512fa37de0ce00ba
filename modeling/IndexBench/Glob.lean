/-!
# Path globs

Queries address paths with a small glob dialect: `**/` stands for any number of
leading segments, `**` for any run of characters and `*` for a run inside one
segment.  A glob is lowered to an anchored regular expression; whatever else
the glob holds reaches the expression as written.

Main definitions:

- `Glob.expandSegments`, `Glob.expandRuns` and `Glob.expandLabel` are the three
  rules, in the order in which they apply.
- `Glob.compile` applies them and anchors the result at both ends.

Main results:

- Theorem `Glob.compileChars_of_no_star`: a glob without stars is only anchored.
-/

namespace IndexBench
namespace Glob

/-- What `**/` becomes: any text ended by a separator, or nothing. -/
def segmentsMatcher : List Char :=
  ['(', '.', '*', '/', ')', '?']

/-- What `**` becomes: any text. -/
def runMatcher : List Char :=
  ['.', '*']

/-- What a label wildcard becomes: any text inside one segment. -/
def labelMatcher : List Char :=
  ['[', '^', '/', ']', '*']

/-- Replaces each `**/`, from left to right. -/
def expandSegments : List Char → List Char
  | '*' :: '*' :: '/' :: rest => segmentsMatcher ++ expandSegments rest
  | c :: rest => c :: expandSegments rest
  | [] => []

/-- Replaces each `**`, from left to right. -/
def expandRuns : List Char → List Char
  | '*' :: '*' :: rest => runMatcher ++ expandRuns rest
  | c :: rest => c :: expandRuns rest
  | [] => []

/-- Replaces the first `*` that has a character other than a dot before it: a
star after a dot is a quantifier already.  Later stars stay as they are. -/
def expandLabel : List Char → List Char
  | c :: '*' :: rest =>
      if c = '.' then c :: expandLabel ('*' :: rest)
      else c :: (labelMatcher ++ rest)
  | c :: rest => c :: expandLabel rest
  | [] => []

/-- Without stars there is no run of segments to replace. -/
theorem expandSegments_eq_self {cs : List Char} (h : '*' ∉ cs) : expandSegments cs = cs := by
  induction cs with
  | nil => rfl
  | cons c rest ih =>
      rw [List.mem_cons, not_or] at h
      unfold expandSegments
      split
      · rename_i heq; cases heq; exact absurd rfl h.1
      · rename_i heq; cases heq; rw [ih h.2]
      · rename_i heq; cases heq

/-- Without stars there is no run of characters to replace. -/
theorem expandRuns_eq_self {cs : List Char} (h : '*' ∉ cs) : expandRuns cs = cs := by
  induction cs with
  | nil => rfl
  | cons c rest ih =>
      rw [List.mem_cons, not_or] at h
      unfold expandRuns
      split
      · rename_i heq; cases heq; exact absurd rfl h.1
      · rename_i heq; cases heq; rw [ih h.2]
      · rename_i heq; cases heq

/-- Without stars there is no label wildcard to replace. -/
theorem expandLabel_eq_self {cs : List Char} (h : '*' ∉ cs) : expandLabel cs = cs := by
  induction cs with
  | nil => rfl
  | cons c rest ih =>
      rw [List.mem_cons, not_or] at h
      unfold expandLabel
      split
      · rename_i heq; cases heq; simp at h
      · rename_i heq; cases heq; rw [ih h.2]
      · rename_i heq; cases heq

/-- The characters of the matcher of a glob. -/
def compileChars (glob : List Char) : List Char :=
  '^' :: (expandLabel (expandRuns (expandSegments glob)) ++ ['$'])

/-- A glob without stars is only anchored. -/
theorem compileChars_of_no_star {glob : List Char} (h : '*' ∉ glob) :
    compileChars glob = '^' :: (glob ++ ['$']) := by
  rw [compileChars, expandSegments_eq_self h, expandRuns_eq_self h, expandLabel_eq_self h]

/-- The matcher of a glob: a regular expression anchored at both ends. -/
def compile (glob : String) : String :=
  String.ofList (compileChars glob.toList)

end Glob
end IndexBench
