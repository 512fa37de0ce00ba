import IndexBench.Failure

/-!
# Files as a program finds them

What is found at a path when it is opened for reading.
-/

namespace IndexBench

/-- What is found at a path. -/
inductive FileState where
  | absent
  /-- A part of the path that should be a directory is a file. -/
  | blocked
  /-- The path, or a name in it, is longer than a path or name can be. -/
  | tooLong
  | directory
  | file (bytes : List UInt8)
  deriving DecidableEq, Repr

namespace FileState

/-- Whether there is anything at the path. -/
def present : FileState → Bool
  | .absent | .blocked | .tooLong => false
  | .directory | .file _ => true

/-- The bytes of a file, or why there are none to be read. -/
def bytes : FileState → Except IoFault (List UInt8)
  | .absent => .error .notFound
  | .blocked => .error .notDirectory
  | .tooLong => .error .nameTooLong
  | .directory => .error .isDirectory
  | .file bytes => .ok bytes

end FileState
end IndexBench
