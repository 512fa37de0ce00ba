import IndexBench.Proofs.Settings.Document
import IndexBench.Proofs.Text.Encoding

/-!
# Settings files

One settings file is looked for at most: the one that is asked for, or else the usual one.  What
comes of it depends on what is found at its path alone.  Nothing is missed where no file need be.

Main definitions:

- `Settings.Candidate` is a settings file that is looked for.
- `Settings.Finds` says what comes of looking for it, case by case.

Main results:

- Theorem `Settings.load_eq_iff`: what comes of loading is what comes of the file looked for.
-/

namespace IndexBench

/-- Whether there is nothing at a path. -/
def FileState.Vacant (file : FileState) : Prop :=
  file ≠ .directory ∧ ∀ bytes, file ≠ .file bytes

/-- Nothing is present at a path exactly if it is vacant. -/
theorem FileState.present_eq_false_iff {file : FileState} :
    file.present = false ↔ file.Vacant := by
  cases file <;> simp [present, Vacant]

namespace Settings

/-! ## The file that is looked for -/

/-- A settings file that is looked for. -/
structure Candidate where
  path : String
  /-- What is found at the path. -/
  file : FileState
  /-- Whether the file must exist. -/
  required : Bool

/-- The settings file that is looked for: the one that is asked for, or else the usual one. -/
def candidate? (asked usual : Option (String × FileState)) : Option Candidate :=
  match asked with
  | some (path, file) => some ⟨path, file, true⟩
  | none => usual.map fun (path, file) => ⟨path, file, false⟩

/-- What comes of looking for a settings file: the settings that it gives, or what is wrong. -/
inductive Finds : Option Candidate → Except SettingsFault Settings → Prop where
  /-- There is no place to look at. -/
  | nowhere : Finds none (.ok unset)
  /-- Nothing is found where no file need be. -/
  | absent {path : String} {file : FileState} (hvacant : file.Vacant) :
      Finds (some ⟨path, file, false⟩) (.ok unset)
  /-- Nothing is found where a file must be. -/
  | missing {path : String} {file : FileState} (hvacant : file.Vacant) :
      Finds (some ⟨path, file, true⟩) (.error (.missing path))
  /-- A directory has no bytes to be read. -/
  | directory {path : String} {required : Bool} :
      Finds (some ⟨path, .directory, required⟩) (.error (.unreadable path .isDirectory))
  /-- The bytes are no text. -/
  | notText {path : String} {bytes : List UInt8} {required : Bool}
      (hbytes : ∀ text, Utf8.encode text ≠ bytes) :
      Finds (some ⟨path, .file bytes, required⟩) (.error (.unreadable path .notText))
  /-- The text is no document, or one that says no settings. -/
  | malformed {path text : String} {bytes : List UInt8} {required : Bool} {cause : DocumentFault}
      (hbytes : Utf8.encode text = bytes) (htext : read text = .error cause) :
      Finds (some ⟨path, .file bytes, required⟩) (.error (.malformed path cause))
  /-- The text is a document that says settings. -/
  | valid {path text : String} {bytes : List UInt8} {required : Bool} {entries : Toml.Entries}
      {settings : Settings} (hbytes : Utf8.encode text = bytes)
      (hparse : Toml.parse text = .ok entries) (hgiven : Says entries settings) :
      Finds (some ⟨path, .file bytes, required⟩) (.ok settings)

/-! ## Loading -/

/-- Loads the settings of a file that is looked for. -/
def Candidate.load (candidate : Candidate) : Except SettingsFault Settings :=
  if candidate.file.present then ofFile candidate.path candidate.file
  else if candidate.required then .error (.missing candidate.path)
  else .ok unset

/-- Settings are loaded from the file that is looked for. -/
theorem load_eq (asked usual : Option (String × FileState)) :
    load asked usual = ((candidate? asked usual).map Candidate.load).getD (.ok unset) := by
  rcases asked with _ | ⟨path, file⟩
  · cases usual with
    | none => rfl
    | some found => rfl
  · rfl

/-- Bytes come to the settings as which they are read. -/
theorem finds_ofFile (path : String) (bytes : List UInt8) (required : Bool) :
    Finds (some ⟨path, .file bytes, required⟩) (ofFile path (.file bytes)) := by
  unfold ofFile FileState.bytes
  dsimp only
  split
  · rename_i hdecode
    exact .notText (Utf8.decode_eq_none_iff.mp hdecode)
  · rename_i text hdecode
    have hbytes : Utf8.encode text = bytes := Utf8.decode_eq_some_iff.mp hdecode
    split
    · rename_i settings htext
      obtain ⟨entries, hparse, hgiven⟩ := read_eq_ok_iff.mp htext
      exact .valid hbytes hparse hgiven
    · rename_i cause htext
      exact .malformed hbytes htext

/-- Loading a file that is looked for comes to one of the cases. -/
theorem finds_load (candidate : Candidate) : Finds (some candidate) candidate.load := by
  obtain ⟨path, file, required⟩ := candidate
  unfold Candidate.load
  dsimp only
  cases hpresent : file.present with
  | false =>
      have hvacant : file.Vacant := FileState.present_eq_false_iff.mp hpresent
      cases required with
      | false => exact .absent hvacant
      | true => exact .missing hvacant
  | true =>
      cases file with
      | directory => exact .directory
      | file bytes => exact finds_ofFile path bytes required
      | _ => cases hpresent

/-- A file that is looked for comes to nothing else than what is loaded. -/
theorem Finds.load_eq {candidate : Candidate} {outcome : Except SettingsFault Settings}
    (h : Finds (some candidate) outcome) : candidate.load = outcome := by
  cases h with
  | absent hvacant => simp [Candidate.load, FileState.present_eq_false_iff.mpr hvacant]
  | missing hvacant => simp [Candidate.load, FileState.present_eq_false_iff.mpr hvacant]
  | directory => rfl
  | notText hbytes =>
      simp [Candidate.load, FileState.present, ofFile, FileState.bytes,
        Utf8.decode_eq_none_iff.mpr hbytes]
  | malformed hbytes htext =>
      simp [Candidate.load, FileState.present, ofFile, FileState.bytes,
        Utf8.decode_eq_some_iff.mpr hbytes, htext]
  | valid hbytes hparse hgiven =>
      simp [Candidate.load, FileState.present, ofFile, FileState.bytes,
        Utf8.decode_eq_some_iff.mpr hbytes, read_eq_ok_iff.mpr ⟨_, hparse, hgiven⟩]

/-- What comes of loading is what comes of the file that is looked for. -/
theorem load_eq_iff {asked usual : Option (String × FileState)}
    {outcome : Except SettingsFault Settings} :
    load asked usual = outcome ↔ Finds (candidate? asked usual) outcome := by
  rw [load_eq]
  cases candidate? asked usual with
  | none =>
      constructor
      · rintro rfl
        exact .nowhere
      · rintro ⟨⟩
        rfl
  | some candidate =>
      constructor
      · rintro rfl
        exact finds_load candidate
      · exact Finds.load_eq

end Settings
end IndexBench
