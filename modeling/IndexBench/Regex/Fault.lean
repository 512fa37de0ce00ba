/-!
# Rejected regular expressions

A text is rejected as a regular expression for one of two reasons: it cannot be
read, or what it describes is too large to be built.
-/

namespace IndexBench
namespace Regex

/-- Why a text is no usable regular expression. -/
inductive Fault where
  /-- The text breaks a rule of the notation, given in words. -/
  | unreadable (rule : String)
  /-- The automaton of the expression would take more than `limit` bytes. -/
  | tooLarge (limit : Nat)
  deriving DecidableEq, Repr

/-- The wording of a rejection. -/
def Fault.message : Fault → String
  | .unreadable rule => "regex parse error: " ++ rule
  | .tooLarge limit => "Compiled regex exceeds size limit of " ++ toString limit ++ " bytes."

/-- Rejects a text that breaks a rule of the notation. -/
def unreadable {α : Type} (rule : String) : Except Fault α :=
  .error (.unreadable rule)

end Regex
end IndexBench
