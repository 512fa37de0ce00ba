import IndexBench.Text.Split

/-!
# Places

A place is where a path leads from the root of a disk, name by name.

Main definitions:

- `Place` is a place; `Place.path` is its path.
- `Place.names` are the names of a path.
- `Place.trail` are the places that a path passes through, by its names alone.

Main results:

- Theorem `Place.trail_concat`: a path ends where its last name leads to.
-/

namespace IndexBench

/-- The names on the way from the root to a place. -/
abbrev Place : Type := List String

namespace Place

/-- The path of a place. -/
def path (place : Place) : String :=
  "/" ++ "/".intercalate place

/-- The names of a path. -/
def names (path : String) : List String :=
  (Text.splitOn '/' path.toList).map String.ofList

/-- Whether a path begins at the root. -/
def isAbsolute (path : String) : Bool :=
  path.toList.head? == some '/'

/-- The place at which a path begins. -/
def start (home : Place) (path : String) : Place :=
  if isAbsolute path then [] else home

/-- Whether a name has more bytes than a name may have. -/
def isLongName (name : String) : Bool :=
  name.utf8ByteSize > 255

/-- Whether a path has more bytes than a path may have. -/
def isLongPath (path : String) : Bool :=
  path.utf8ByteSize > 4095

/-! ## Going by names alone -/

/-- Where a name leads from a place. -/
def enter (place : Place) (name : String) : Place :=
  if name = "" || name = "." then place
  else if name = ".." then place.dropLast
  else place ++ [name]

/-- The places that names lead to from a place, one after the other. -/
def trail (place : Place) : List String → List Place
  | [] => []
  | name :: names => place.enter name :: trail (place.enter name) names

/-- Where names lead from a place in the end. -/
def destination (place : Place) (names : List String) : Place :=
  names.foldl enter place

/-- There is a place for every name. -/
@[simp]
theorem length_trail (place : Place) (names : List String) :
    (place.trail names).length = names.length := by
  induction names generalizing place with
  | nil => rfl
  | cons name names ih => simp [trail, ih]

/-- A path ends where its last name leads to. -/
theorem trail_concat (place : Place) (names : List String) (name : String) :
    place.trail (names ++ [name]) =
      place.trail names ++ [(place.destination names).enter name] := by
  induction names generalizing place with
  | nil => rfl
  | cons first names ih =>
      simp only [List.cons_append, trail, ih]
      rfl

end Place
end IndexBench
