import IndexBench.Disk

/-!
# Files that are written

What is written to a path is read at this path, however it leads there.  A path goes on from
directories only, and no file is written in the place of one, so it leads to the same place as
before.

Main definitions:

- `Disk.TakesFile` says where a location has a place for a file.

Main results:

- Theorem `Disk.follow_put`: a path that has a place for a file leads to what is put there.
- Theorem `Disk.read_write`: a file that was written is read back.
-/

namespace IndexBench
namespace Disk

variable {disk : Disk} {place target : Place} {node : Node}

/-- What stands at other places stays there when a node is put at one. -/
theorem node?_put_of_ne (h : place ≠ target) :
    (disk.put target node).node? place = disk.node? place := by
  have hfirst : (place == target) = false := by simp [h]
  rw [node?, node?, put, List.lookup_cons, hfirst, Store.lookup_filter_ne h]

/-- Whether a path that leads to a location has a place for a file there: nothing stands there
yet, or what does is no directory. -/
def TakesFile (location : Location) (target : Place) : Prop :=
  location = .vacant target ∨ ∃ old, old ≠ .directory ∧ location = .found target old

/-- A location where something stands takes a file in its place unless it is a directory. -/
theorem takesFile_found_iff {place target : Place} {node : Node} :
    TakesFile (.found place node) target ↔ place = target ∧ node ≠ .directory := by
  constructor
  · rintro (h | ⟨old, hold, h⟩)
    · cases h
    · cases h
      exact ⟨rfl, hold⟩
  · rintro ⟨rfl, hnode⟩
    exact .inr ⟨node, hnode, rfl⟩

/-- A vacant location takes a file at its place. -/
theorem takesFile_vacant_iff {place target : Place} :
    TakesFile (.vacant place) target ↔ place = target := by
  simp [TakesFile]

/-- No directory stands where a path has a place for a file. -/
theorem node?_ne_directory {names : List String} :
    TakesFile (disk.follow place names) target → disk.node? target ≠ some .directory := by
  fun_induction follow disk place names with
  | case1 place node hnode =>
      rw [takesFile_found_iff]
      rintro ⟨rfl, hfile⟩
      rw [hnode]
      exact fun h => hfile (Option.some.inj h)
  | case2 place hnode =>
      rw [takesFile_vacant_iff]
      rintro rfl
      rw [hnode]
      simp
  | case3 | case6 | case8 => simp [TakesFile]
  | case4 place name names hnode hself ih => exact ih
  | case5 place names hnode hself ih => exact ih
  | case7 place name names hnode hself hup hshort ih => exact ih

/-- A path that has a place for a file leads to what is put there. -/
theorem follow_put {names : List String} (hdirectory : disk.node? target ≠ some .directory) :
    TakesFile (disk.follow place names) target →
      (disk.put target node).follow place names = .found target node := by
  have hroot : target ≠ [] := fun hnil => hdirectory (by rw [hnil]; rfl)
  -- a path goes on from directories only, and a file is not put in the place of one
  have hkept {place : Place} (hnode : disk.node? place = some .directory) :
      (disk.put target node).node? place = some .directory := by
    have hne : place ≠ target := by
      rintro rfl
      exact hdirectory hnode
    rw [node?_put_of_ne hne, hnode]
  fun_induction follow disk place names with
  | case1 place old hnode =>
      rw [takesFile_found_iff]
      rintro ⟨rfl, -⟩
      rw [follow, node?_put_self disk place node hroot]
  | case2 place hnode =>
      rw [takesFile_vacant_iff]
      rintro rfl
      rw [follow, node?_put_self disk place node hroot]
  | case3 | case6 | case8 => simp [TakesFile]
  | case4 place name names hnode hself ih =>
      intro h
      simp only [follow, hkept hnode, if_pos hself]
      exact ih h
  | case5 place names hnode hself ih =>
      intro h
      simp only [follow, hkept hnode, if_neg hself, if_true]
      exact ih h
  | case7 place name names hnode hself hup hshort ih =>
      intro h
      simp only [follow, hkept hnode, if_neg hself, if_neg hup, if_neg hshort]
      exact ih h

/-- A file that was written is read back. -/
theorem read_write {written : Disk} {path : String} {bytes : List UInt8}
    (h : disk.write path bytes = .ok written) : written.read path = .file bytes := by
  obtain ⟨target, htakes, rfl⟩ : ∃ target, TakesFile (disk.locate path) target ∧
      written = disk.put target (.file bytes) := by
    unfold write at h
    split at h
    · cases h
    · rename_i place old hdirectory hfound
      exact ⟨place, by rw [hfound, takesFile_found_iff]; exact ⟨rfl, hdirectory⟩,
        (Except.ok.inj h).symm⟩
    · rename_i place hvacant
      exact ⟨place, by rw [hvacant, takesFile_vacant_iff], (Except.ok.inj h).symm⟩
    · cases h
    · cases h
    · cases h
  have hlocated : (disk.put target (.file bytes)).locate path = .found target (.file bytes) := by
    unfold locate at htakes ⊢
    split at htakes
    · simp [TakesFile] at htakes
    · rename_i hpath
      rw [if_neg hpath]
      split at htakes
      · simp [TakesFile] at htakes
      · rename_i hshort
        rw [if_neg hshort]
        exact follow_put (node?_ne_directory htakes) htakes
  rw [read, hlocated]
  rfl

end Disk
end IndexBench
