import IndexBench.FileState
import IndexBench.Store.Image

/-!
# Disks

A disk is a tree of directories with files and stored databases at its leaves.

Main definitions:

- `Disk` is a disk; `Disk.locate` follows a path on it.
- `Disk.read` and `Disk.write` read and write files.
- `Disk.storePlace?` is the place of a stored database, and `Disk.stored` what is found there.

Main results:

- Theorem `Disk.node?_put_self`: a node stands where it was put.
-/

namespace IndexBench

/-- What stands at a place of a disk. -/
inductive Node where
  | directory
  | file (bytes : List UInt8)
  | database (kept : Store.Kept)
  deriving DecidableEq, Repr

/-- The bytes of a node that is no directory; a stored database reads as its
image. -/
def Node.bytes? : Node → Option (List UInt8)
  | .directory => none
  | .file bytes => some bytes
  | .database kept => some (Store.Image.encode kept)

/-- A disk and the directory in which relative paths begin. -/
structure Disk where
  home : Place
  nodes : List (Place × Node)
  deriving DecidableEq, Repr

/-- Where a path leads. -/
inductive Location where
  | found (place : Place) (node : Node)
  /-- Nowhere yet, but there is a directory for a file of this name. -/
  | vacant (place : Place)
  /-- Nowhere, for want of a directory on the way or of a name. -/
  | missing
  /-- A file stands where a directory should. -/
  | blocked
  /-- The path, or a name in it, is too long. -/
  | tooLong
  deriving DecidableEq, Repr

namespace Disk

/-- The disk that has only its root and the directories down to `home`. -/
def empty (home : Place) : Disk where
  home := home
  nodes := (List.range home.length).map fun n => (home.take (n + 1), .directory)

/-! ## Paths -/

/-- What stands at a place. -/
def node? (disk : Disk) (place : Place) : Option Node :=
  if place.isEmpty then some .directory else disk.nodes.lookup place

/-- Follows names from a place. -/
def follow (disk : Disk) : Place → List String → Location
  | place, [] =>
      match disk.node? place with
      | some node => .found place node
      | none => .vacant place
  | place, name :: names =>
      match disk.node? place with
      | none => .missing
      | some .directory =>
          if name = "" || name = "." then disk.follow place names
          else if name = ".." then disk.follow place.dropLast names
          else if Place.isLongName name then .tooLong
          else disk.follow (place ++ [name]) names
      | some _ => .blocked

/-- Follows a path. -/
def locate (disk : Disk) (path : String) : Location :=
  if path.isEmpty then .missing
  else if Place.isLongPath path then .tooLong
  else disk.follow (Place.start disk.home path) (Place.names path)

/-! ## Files -/

/-- What is found at a path. -/
def read (disk : Disk) (path : String) : FileState :=
  match disk.locate path with
  | .found _ node => (node.bytes?.map .file).getD .directory
  | .vacant _ => .absent
  | .missing => .absent
  | .blocked => .blocked
  | .tooLong => .tooLong

/-- Puts a node at a place. -/
def put (disk : Disk) (place : Place) (node : Node) : Disk :=
  { disk with nodes := (place, node) :: disk.nodes.filter fun entry => entry.1 != place }

/-- A node stands where it was put. -/
theorem node?_put_self (disk : Disk) (place : Place) (node : Node) (h : place ≠ []) :
    (disk.put place node).node? place = some node := by
  simp [node?, put, h]

/-- Writes a file. -/
def write (disk : Disk) (path : String) (bytes : List UInt8) : Except IoFault Disk :=
  match disk.locate path with
  | .found _ .directory => .error .isDirectory
  | .found place _ => .ok (disk.put place (.file bytes))
  | .vacant place => .ok (disk.put place (.file bytes))
  | .missing => .error .notFound
  | .blocked => .error .notDirectory
  | .tooLong => .error .nameTooLong

/-- Makes the directories on the way to a file, and the file. -/
def install (disk : Disk) (names : List String) (bytes : List UInt8) : Disk :=
  let place := disk.home ++ names
  let disk := (List.range names.length).foldl
    (fun disk n =>
      let above := place.take (disk.home.length + n)
      if (disk.node? above).isSome then disk else disk.put above .directory) disk
  disk.put place (.file bytes)

/-! ## Databases -/

/-- Whether the path of a place is short enough to be passed through on the way
to a stored database. -/
def isPassable (place : Place) : Bool :=
  place.path.utf8ByteSize ≤ 511

/-- Whether the path of a place is short enough for a stored database and the
files beside it, whose names are longer by eight bytes. -/
def isRoomy (place : Place) : Bool :=
  place.path.utf8ByteSize ≤ 504

/-- Whether the name of a file is short enough for a journal or a log beside it. -/
def hasRoomBeside (place : Place) : Bool :=
  !Place.isLongName (place.getLast?.getD "" ++ "-journal")

/-- Whether nothing is in the way at a place: it may be vacant, but not beneath a
file, and its name not too long. -/
def passes (disk : Disk) (place : Place) : Bool :=
  match disk.follow [] place with
  | .blocked => false
  | .tooLong => false
  | _ => isPassable place

/-- The places on the way to the stored database of a name. -/
def storeTrail (disk : Disk) (name : String) : List Place :=
  (Place.start disk.home name).trail (Place.names name)

/-- The place of the stored database of a name.  The way there goes by names
alone, so that a directory left again need not be there. -/
def storePlace? (disk : Disk) (name : String) : Option Place :=
  let place := (Place.start disk.home name).destination (Place.names name)
  if (disk.storeTrail name).all disk.passes && !place.isEmpty && isRoomy place then some place
  else none

/-- The database that is stored at a place, or one to be made there, if the mode
allows that; `text` is what opens it.  A directory can be opened for reading, but
not be read. -/
def stored (disk : Disk) (place : Place) (text : String) (mode : Store.Mode) :
    Except StoreFault Store.Kept :=
  match disk.follow [] place with
  | .found _ (.database kept) => .ok kept
  | .found _ (.file bytes) => Store.Kept.ofBytes bytes
  | .found _ .directory =>
      .error (if mode = .readOnly then .unreadable else .cannotOpen text)
  | .vacant _ => if mode = .create then .ok .fresh else .error (.cannotOpen text)
  | _ => .error (.cannotOpen text)

/-- Makes an empty file, if there is nothing at a place. -/
def touch (disk : Disk) (place : Place) : Disk :=
  if (disk.node? place).isSome then disk else disk.put place (.file [])

/-- Changes the database that is stored at a place. -/
def change (disk : Disk) (place : Place) (database : Store.Database) : Disk :=
  match disk.node? place with
  | some (.database kept) => disk.put place (.database (kept.change database))
  | _ => disk.put place (.database (Store.Kept.fresh.change database))

end Disk
end IndexBench
