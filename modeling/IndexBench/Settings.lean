import IndexBench.FileState
import IndexBench.Measurement
import IndexBench.Text.Utf8
import IndexBench.Toml.Document

/-!
# Settings

Settings come in layers: what the command line asks for, what the chosen file
says, and what is built in.  Every setting is resolved on its own.

Main definitions:

- `Settings` is what a file or the command line says, `Settings.read` reads it
  from a document and `Settings.load` from the chosen file.
- `Settings.override` puts one layer over another.
- `Settings.address`, `Settings.repeats`, `Settings.queryShape` and
  `Settings.warmsUp` resolve the settings.
-/

namespace IndexBench

/-- Settings, where those that are not given are left open. -/
structure Settings where
  url : Option String
  repetitions : Option Nat
  shape : Option QueryShape
  warmup : Option Bool
  deriving DecidableEq, Repr

/-- Settings from the command line, where a warm-up can only be asked for. -/
structure Overrides where
  url : Option String
  repetitions : Option Nat
  shape : Option QueryShape
  warmup : Bool
  deriving DecidableEq, Repr

namespace Settings

/-- Settings that leave everything open. -/
def unset : Settings :=
  ⟨none, none, none, none⟩

/-! ## Resolution -/

/-- The database that is used if none is named. -/
def defaultUrl : String := "postgres://wellenzohn@localhost:5400/rcas"

/-- The database to use. -/
def address (settings : Settings) : String :=
  settings.url.getD defaultUrl

/-- How often the catalog is run. -/
def repeats (settings : Settings) : Nat :=
  settings.repetitions.getD 1

/-- The shape in which queries are executed. -/
def queryShape (settings : Settings) : QueryShape :=
  settings.shape.getD .count

/-- Whether the catalog is run once before it is measured. -/
def warmsUp (settings : Settings) : Bool :=
  settings.warmup.getD false

/-- Puts the command line over a file. -/
def override (settings : Settings) (overrides : Overrides) : Settings where
  url := overrides.url.or settings.url
  repetitions := overrides.repetitions.or settings.repetitions
  shape := overrides.shape.or settings.shape
  warmup := if overrides.warmup then some true else settings.warmup

/-- Overrides that give nothing change nothing. -/
@[simp]
theorem override_nothing (settings : Settings) :
    settings.override ⟨none, none, none, false⟩ = settings := by
  simp [override]

/-! ## Documents -/

open Toml (Value Entries)

/-- Refuses the value of a setting. -/
def misshapen {α : Type} (setting : String) : Except DocumentFault α :=
  .error (.shape setting)

/-- The values of a section by the names of its settings.  A section is a table,
of which other names are ignored, or an array that has at least the settings in
their order; a date is a section without settings. -/
def sectionValues (name : String) (names : List String) (value : Value) :
    Except DocumentFault (List (Option Value)) :=
  match value with
  | .table _ entries => .ok (names.map fun name => entries.lookup name)
  | .array items =>
      if names.length ≤ items.length then .ok ((items.take names.length).map some)
      else misshapen name
  | .tables items =>
      if names.length ≤ items.length then
        .ok ((items.reverse.take names.length).map fun entries => some (.table .header entries))
      else misshapen name
  | .datetime => .ok (names.map fun _ => none)
  | _ => misshapen name

/-- Reads a setting that may be left open. -/
def optional {α : Type} (read : Value → Except DocumentFault α) :
    Option Value → Except DocumentFault (Option α)
  | none => .ok none
  | some value => (read value).map some

/-- Reads a text. -/
def readText : Value → Except DocumentFault String
  | .string text => .ok text
  | _ => misshapen "url"

/-- Reads a number that is not negative. -/
def readCount : Value → Except DocumentFault Nat
  | .integer n => if 0 ≤ n then .ok n.toInt.toNat else misshapen "repetitions"
  | _ => misshapen "repetitions"

/-- Reads a truth value. -/
def readFlag : Value → Except DocumentFault Bool
  | .boolean b => .ok b
  | _ => misshapen "warmup"

/-- The shape called `tag`. -/
def readTag (tag : String) : Except DocumentFault QueryShape :=
  match QueryShape.ofTag? tag with
  | some shape => .ok shape
  | none => misshapen "executor"

/-- Whether a value is an empty table or array. -/
def isEmpty : Value → Bool
  | .table _ entries => entries.isEmpty
  | .array items => items.isEmpty
  | .tables items => items.isEmpty
  | _ => false

/-- Reads a shape: its name, or a table with an empty entry of that name alone. -/
def readShape : Value → Except DocumentFault QueryShape
  | .string tag => readTag tag
  | .table _ [(tag, value)] => do
      let shape ← readTag tag
      if isEmpty value then return shape else misshapen "executor"
  | _ => misshapen "executor"

/-- The values of a section of a document, all open if the section is missing. -/
def sectionOf (entries : Entries) (name : String) (names : List String) :
    Except DocumentFault (List (Option Value)) :=
  match entries.lookup name with
  | none => .ok (names.map fun _ => none)
  | some value => sectionValues name names value

/-- Reads settings from the entries of a document. -/
def ofEntries (entries : Entries) : Except DocumentFault Settings := do
  let database ← sectionOf entries "database" ["url"]
  let run ← sectionOf entries "run" ["repetitions", "executor", "warmup"]
  match database, run with
  | [url], [repetitions, shape, warmup] =>
      return {
        url := ← optional readText url
        repetitions := ← optional readCount repetitions
        shape := ← optional readShape shape
        warmup := ← optional readFlag warmup }
  | _, _ => misshapen "document"

/-- Reads settings from the text of a document. -/
def read (text : String) : Except DocumentFault Settings := do
  ofEntries (← Toml.parse text)

/-! ## Files -/

/-- Reads settings from a file. -/
def ofFile (path : String) (file : FileState) : Except SettingsFault Settings :=
  match file.bytes with
  | .error cause => .error (.unreadable path cause)
  | .ok bytes =>
      match Utf8.decode bytes with
      | none => .error (.unreadable path .notText)
      | some text =>
          match read text with
          | .ok settings => .ok settings
          | .error cause => .error (.malformed path cause)

/-- Reads settings from the file that is asked for, which must exist, or else
from the usual one, which need not. -/
def load (asked : Option (String × FileState)) (usual : Option (String × FileState)) :
    Except SettingsFault Settings :=
  match asked, usual with
  | some (path, file), _ => if file.present then ofFile path file else .error (.missing path)
  | none, some (path, file) => if file.present then ofFile path file else .ok unset
  | none, none => .ok unset

end Settings
end IndexBench
