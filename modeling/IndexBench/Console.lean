import IndexBench.Failure
import IndexBench.Text.Utf8

/-!
# Consoles

A console takes text and may be full after a number of bytes.  The write that
does not fit is taken in part.
-/

namespace IndexBench

/-- A console: the bytes it shows and, if it is limited, how many more it takes. -/
structure Console where
  shown : List UInt8
  room : Option Nat
  deriving DecidableEq, Repr

namespace Console

/-- A console that takes everything. -/
def unlimited : Console :=
  ⟨[], none⟩

/-- A console that takes `room` bytes in all. -/
def limited (room : Option Nat) : Console :=
  ⟨[], room⟩

/-- What a console says once it is full. -/
def full : IoFault :=
  .reported "sink full"

/-- Writes to a console, which takes what it has room for. -/
def write (console : Console) (text : String) : Except IoFault Unit × Console :=
  let bytes := Utf8.encode text
  match console.room with
  | none => (.ok (), { console with shown := console.shown ++ bytes })
  | some room =>
      if bytes.length ≤ room then
        (.ok (), ⟨console.shown ++ bytes, some (room - bytes.length)⟩)
      else (.error full, ⟨console.shown ++ bytes.take room, some 0⟩)

/-- A console without a limit takes every text. -/
@[simp]
theorem write_unlimited (text : String) :
    unlimited.write text = (.ok (), ⟨Utf8.encode text, none⟩) := by
  simp [unlimited, write]

/-- The text on a console. -/
def text (console : Console) : String :=
  Utf8.decodeLossy console.shown

end Console

end IndexBench
