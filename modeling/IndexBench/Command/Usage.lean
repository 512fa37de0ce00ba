/-!
# Usage faults

Why the arguments of a command are refused, with the first line of the refusal.
-/

namespace IndexBench
namespace Command

/-- Why arguments are refused. -/
inductive UsageFault where
  /-- A required argument is missing. -/
  | incomplete
  | unexpected (argument : String)
  /-- The value of the parameter `label` is refused, perhaps with a reason. -/
  | invalid (value label : String) (reason : Option String)
  /-- The parameter `label` has no value. -/
  | valueless (label : String)
  /-- The parameter `label` is given twice. -/
  | repeated (label : String)
  /-- The flag `label` is given a value. -/
  | excess (value label : String)
  deriving DecidableEq, Repr

/-- The first line of a refusal. -/
def UsageFault.message : UsageFault → String
  | .incomplete => "the following required arguments were not provided:"
  | .unexpected argument => "unexpected argument '" ++ argument ++ "' found"
  | .invalid value label none => "invalid value '" ++ value ++ "' for '" ++ label ++ "'"
  | .invalid value label (some reason) =>
      "invalid value '" ++ value ++ "' for '" ++ label ++ "': " ++ reason
  | .valueless label => "a value is required for '" ++ label ++ "' but none was supplied"
  | .repeated label => "the argument '" ++ label ++ "' cannot be used multiple times"
  | .excess value label =>
      "unexpected value '" ++ value ++ "' for '" ++ label ++ "' found; no more were expected"

end Command
end IndexBench
