import IndexBench.Failure
import IndexBench.Place
import IndexBench.Text.Percent
import IndexBench.Text.Utf8

/-!
# Locators

A store is opened by a text.  As a rule the text is the name of a file; if it
starts with a certain scheme, a host, a name and options follow, each of them
percent-encoded.

Main definitions:

- `Locator` is what such a text says; `Locator.parse` reads it.
- `Locator.readOnly` tells whether it allows no changes.
- `Locator.Site` is where the store is to be, `Locator.pages?` the name under which connections
  share it.

Main results:

- Theorem `Locator.parse_plain`: a text without the scheme is a name as it stands.
-/

namespace IndexBench
namespace Store

/-! ## Options -/

/-- What a connection may do with a store. -/
inductive Mode where
  | readOnly
  | readWrite
  /-- Make the store, if there is none. -/
  | create
  /-- Keep the store in memory. -/
  | memory
  deriving DecidableEq, Repr

/-- The mode of a name. -/
def Mode.ofName? : String → Option Mode
  | "ro" => some .readOnly
  | "rw" => some .readWrite
  | "rwc" => some .create
  | "memory" => some .memory
  | _ => none

/-- Whether a mode may be narrowed to another one. -/
def Mode.allows : Mode → Mode → Bool
  | _, .memory => true
  | _, .readOnly => true
  | .readOnly, _ => false
  | .readWrite, .create => false
  | _, _ => true

/-- Whether connections share the pages of a store, by name. -/
def sharing? : String → Option Bool
  | "shared" => some true
  | "private" => some false
  | _ => none

/-- Who looks after the file of a store. -/
inductive Keeper where
  /-- Locks parts of the file. -/
  | locks
  /-- Locks parts of the file against other programs. -/
  | exclusive
  /-- Marks the file as in use by another file. -/
  | marker
  /-- Takes no notice of others. -/
  | careless
  /-- Does without a file. -/
  | memory
  deriving DecidableEq, Repr

/-- The keeper of a name. -/
def Keeper.ofName? : String → Option Keeper
  | "unix" => some .locks
  | "unix-excl" => some .exclusive
  | "unix-dotfile" => some .marker
  | "unix-none" => some .careless
  | "memdb" => some .memory
  | _ => none

/-- Whether a keeper lets connections read a log along with the file. -/
def Keeper.sharesLog : Keeper → Bool
  | .locks | .exclusive => true
  | .marker | .careless | .memory => false

/-- Whether the value of a switch turns it on: a number other than zero in its
last eight bits, or a word. -/
def isOn (value : String) : Bool :=
  let lower := value.toList.map Char.toLower
  match value.toList.takeWhile Char.isDigit with
  | [] => lower == "on".toList || lower == "yes".toList || lower == "true".toList
  | digits =>
      match Natural.parseUpTo 2147483647 (String.ofList digits) with
      | .ok n => n % 256 != 0
      | .error _ => false

/-! ## Locators -/

/-- What the text that opens a store says. -/
structure Locator where
  /-- The name of the store; one without a name is private. -/
  name : String
  mode : Mode
  /-- Whether connections share the pages of the store. -/
  shared : Bool
  keeper : Keeper
  /-- Whether the file is used without locks. -/
  unlocked : Bool
  /-- Whether nobody is expected to change the file. -/
  frozen : Bool
  deriving DecidableEq, Repr

namespace Locator

/-- The locator of a name without options. -/
def plain (name : String) : Locator :=
  ⟨name, .create, false, .locks, false, false⟩

/-- The text that a part of a locator stands for.  It ends before a byte that is
zero. -/
def partText (cs : List Char) : String :=
  Utf8.decodeLossy ((Percent.decode (Utf8.encode (String.ofList cs))).takeWhile (· != 0))

/-- The options in a text, by name and value; those without a name are
ignored. -/
def options (cs : List Char) : List (String × String) :=
  ((Text.splitOn '&' cs).map fun option =>
    (partText (Text.before '=' option), partText (Text.after '=' option))).filter
      fun option => option.1 != ""

/-- Takes an option that names how the store is used. -/
def use (locator : Locator) : String × String → Except StoreFault Locator
  | ("mode", name) =>
      match Mode.ofName? name with
      | none => .error (.noSuchMode "access" name)
      | some mode =>
          if locator.mode.allows mode then .ok { locator with mode := mode }
          else .error (.modeNotAllowed name)
  | ("cache", name) =>
      match sharing? name with
      | none => .error (.noSuchMode "cache" name)
      | some shared => .ok { locator with shared := shared }
  | _ => .ok locator

/-- Whether the first option of a name turns a switch on. -/
def switch (options : List (String × String)) (name : String) : Bool :=
  ((options.lookup name).map isOn).getD false

/-- The keeper that the last option for it names. -/
def keeperOf (options : List (String × String)) : Except StoreFault Keeper :=
  match options.reverse.lookup "vfs" with
  | none => .ok .locks
  | some name =>
      match Keeper.ofName? name with
      | some keeper => .ok keeper
      | none => .error (.noSuchKeeper name)

/-- The part of a locator after its host, which can only be this machine. -/
def afterHost : List Char → Except StoreFault (List Char)
  | '/' :: '/' :: rest =>
      let host := Text.before '/' rest
      if host.isEmpty || host == "localhost".toList then .ok (rest.drop host.length)
      else .error (.foreignHost (String.ofList host))
  | cs => .ok cs

/-- Reads what follows the scheme of a locator. -/
def parseAfterScheme (cs : List Char) : Except StoreFault Locator := do
  let cs := Text.before '#' (← afterHost cs)
  let options := options (Text.after '?' cs)
  let locator ← options.foldlM use (plain (partText (Text.before '?' cs)))
  return { locator with
    keeper := ← keeperOf options
    unlocked := switch options "nolock"
    frozen := switch options "immutable" }

/-- The place of the first character of code zero, in bytes. -/
def zeroOffset (cs : List Char) : Nat :=
  (String.ofList (Text.before '\x00' cs)).utf8ByteSize

/-- The scheme of a locator with options. -/
def scheme : List Char := "file:".toList

/-- Reads the text that opens a store. -/
def parse (text : String) : Except StoreFault Locator :=
  if text.toList.contains '\x00' then .error (.zeroByte (zeroOffset text.toList))
  else
    match Text.afterStart? scheme text.toList with
    | some rest => parseAfterScheme rest
    | none => .ok (plain text)

/-- A text without the scheme is a name as it stands. -/
theorem parse_plain {text : String} (hzero : '\x00' ∉ text.toList)
    (hscheme : ¬ scheme <+: text.toList) : parse text = .ok (plain text) := by
  unfold parse
  rw [if_neg (by simpa using hzero)]
  cases h : Text.afterStart? scheme text.toList with
  | none => rfl
  | some rest => exact absurd ⟨rest, (Text.afterStart?_eq_some.1 h).symm⟩ hscheme

/-! ## Where a store is -/

/-- Where a store is to be. -/
inductive Site where
  /-- Out of reach for other connections. -/
  | hidden
  /-- In memory, within reach by its name. -/
  | pool (name : String)
  /-- In the file of a name. -/
  | file (name : String)
  deriving DecidableEq, Repr

/-- The name of a store in memory. -/
def memoryName : String := ":memory:"

/-- Whether the store is in memory, whoever its keeper is. -/
def inMemory (locator : Locator) : Bool :=
  locator.mode = .memory || locator.name = memoryName

/-- Whether a name in memory is within reach of every connection. -/
def isPoolName (name : String) : Bool :=
  name.utf8ByteSize > 1 && (name.toList.head? == some '/' || name.toList.head? == some '\\')

/-- Where the store is to be. -/
def site (locator : Locator) : Site :=
  if locator.inMemory || locator.name = "" then .hidden
  else if locator.keeper = .memory then
    if isPoolName locator.name then .pool locator.name else .hidden
  else .file locator.name

/-- Whether changes are not allowed. -/
def readOnly (locator : Locator) : Bool :=
  locator.mode = .readOnly || (locator.frozen && locator.name != "" && !locator.inMemory)

/-- Why changes are refused, if they are. -/
def refusal (locator : Locator) : Option StoreFault :=
  if locator.readOnly then some .readOnly else none

/-- Whether the connection reads a log along with the file. -/
def sharesLog (locator : Locator) : Bool :=
  locator.keeper.sharesLog && !locator.unlocked

end Locator

/-! ## Shared pages -/

/-- What connections share pages by. -/
structure Pages where
  keeper : Keeper
  name : String
  deriving DecidableEq, Repr

/-- What connections share the pages of a store by, which is the path of its
place if it is in a file. -/
def Locator.pages? (locator : Locator) (place : Option Place) : Option Pages :=
  if locator.shared && locator.name != "" then
    some ⟨locator.keeper, (place.map Place.path).getD locator.name⟩
  else none

end Store
end IndexBench
