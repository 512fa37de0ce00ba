import IndexBench.Proofs.Command.Steps
import IndexBench.Proofs.Settings.Files

/-!
# Settings in layers

Settings stand in layers: the overrides of the command line over a file over what is built in.
Each setting is that of the uppermost layer that gives it, whatever the layers say of the others;
a warm-up is made if any layer asks for it.

Main definitions:

- `Overrides.over` joins overrides in turn, `Settings.overrideAll` puts them over a file.
- `Settings.Layered` says what settings in layers come to.
- `Command.loadLayered` loads settings and puts overrides over them.

Main results:

- Theorem `Settings.override_override`: two overrides in turn are one.
- Theorem `Settings.layered_overrideAll`: each setting is that of the uppermost layer.
- Theorem `Command.loadLayered_exact`: what comes of loading under overrides.
-/

namespace IndexBench

/-! ## Overrides in turn -/

/-- Overrides that leave to earlier ones what they do not give. -/
def Overrides.over (later earlier : Overrides) : Overrides where
  url := later.url.or earlier.url
  repetitions := later.repetitions.or earlier.repetitions
  shape := later.shape.or earlier.shape
  warmup := later.warmup || earlier.warmup

namespace Settings

/-- Two overrides in turn are one: the later one over the earlier one. -/
theorem override_override (file : Settings) (earlier later : Overrides) :
    (file.override earlier).override later = file.override (later.over earlier) := by
  obtain ⟨url, repetitions, shape, warmup⟩ := later
  cases warmup <;> simp [override, Overrides.over, Option.or_assoc]

/-- Puts overrides over a file, one layer after the other; the uppermost layer comes first. -/
def overrideAll (file : Settings) (layers : List Overrides) : Settings :=
  layers.foldr (fun layer below => below.override layer) file

/-! ## Layers -/

/-- Settings of which none is left open. -/
structure Resolved where
  url : String
  repetitions : Nat
  shape : QueryShape
  warmup : Bool
  deriving DecidableEq, Repr

/-- The settings that hold in the end. -/
def resolve (settings : Settings) : Resolved where
  url := settings.address
  repetitions := settings.repeats
  shape := settings.queryShape
  warmup := settings.warmsUp

/-- A value is the one of the uppermost layer that gives one, or else the one built in. -/
inductive Uppermost {α : Type} (builtIn : α) : List (Option α) → α → Prop where
  | builtIn : Uppermost builtIn [] builtIn
  | given {value : α} {layers : List (Option α)} : Uppermost builtIn (some value :: layers) value
  | silent {value : α} {layers : List (Option α)} (h : Uppermost builtIn layers value) :
      Uppermost builtIn (none :: layers) value

/-- There is one uppermost value. -/
theorem Uppermost.unique {α : Type} {builtIn value other : α} {layers : List (Option α)}
    (h : Uppermost builtIn layers value) (hother : Uppermost builtIn layers other) :
    value = other := by
  induction h with
  | builtIn =>
      cases hother
      rfl
  | given =>
      cases hother
      rfl
  | silent h ih =>
      cases hother with
      | silent hother => exact ih hother

/-- What settings in layers come to, each of them by itself. -/
structure Layered (layers : List Overrides) (file : Settings) (resolved : Resolved) : Prop where
  url : Uppermost defaultUrl (layers.map Overrides.url ++ [file.url]) resolved.url
  repetitions :
    Uppermost 1 (layers.map Overrides.repetitions ++ [file.repetitions]) resolved.repetitions
  shape : Uppermost .count (layers.map Overrides.shape ++ [file.shape]) resolved.shape
  /-- A warm-up is made if any layer says so, and none can take it back. -/
  warmup : resolved.warmup = true ↔
    (∃ layer ∈ layers, layer.warmup = true) ∨ file.warmup = some true

/-- The setting that a reader finds under overrides is the uppermost one, if an override gives it
where the reader looks. -/
theorem uppermost_overrideAll {α : Type} (builtIn : α) {given : Overrides → Option α}
    {said : Settings → Option α}
    (hoverride : ∀ file layer, said (file.override layer) = (given layer).or (said file))
    (layers : List Overrides) (file : Settings) :
    Uppermost builtIn (layers.map given ++ [said file])
      ((said (file.overrideAll layers)).getD builtIn) := by
  induction layers with
  | nil =>
      rw [overrideAll, List.foldr_nil]
      cases said file with
      | none => exact .silent .builtIn
      | some value => exact .given
  | cons layer layers ih =>
      -- the uppermost layer is put over what the others have come to
      have hlayer : said (file.overrideAll (layer :: layers)) =
          (given layer).or (said (file.overrideAll layers)) := hoverride _ layer
      rw [hlayer, List.map_cons, List.cons_append]
      cases given layer with
      | none => exact .silent ih
      | some value => exact .given

/-- A warm-up is made under overrides if one of them asks for it, or the file does. -/
theorem warmsUp_overrideAll (layers : List Overrides) (file : Settings) :
    (file.overrideAll layers).warmsUp = true ↔
      (∃ layer ∈ layers, layer.warmup = true) ∨ file.warmup = some true := by
  induction layers with
  | nil =>
      rw [overrideAll, List.foldr_nil, warmsUp]
      cases file.warmup <;> simp
  | cons layer layers ih =>
      have hlayer : (file.overrideAll (layer :: layers)).warmsUp = true ↔
          layer.warmup = true ∨ (file.overrideAll layers).warmsUp = true := by
        show ((file.overrideAll layers).override layer).warmsUp = true ↔ _
        cases hwarmup : layer.warmup <;> simp [override, warmsUp, hwarmup]
      rw [hlayer, ih, ← or_assoc]
      simp only [List.exists_mem_cons_iff]

/-- Overrides over a file come to what the layers say. -/
theorem layered_overrideAll (layers : List Overrides) (file : Settings) :
    Layered layers file (file.overrideAll layers).resolve where
  url := uppermost_overrideAll defaultUrl (fun _ _ => rfl) layers file
  repetitions := uppermost_overrideAll 1 (fun _ _ => rfl) layers file
  shape := uppermost_overrideAll QueryShape.count (fun _ _ => rfl) layers file
  warmup := warmsUp_overrideAll layers file

/-- Layers come to one thing. -/
theorem Layered.unique {layers : List Overrides} {file : Settings} {resolved other : Resolved}
    (h : Layered layers file resolved) (hother : Layered layers file other) : resolved = other := by
  have hwarmup : resolved.warmup = other.warmup := by
    rw [Bool.eq_iff_iff, h.warmup, hother.warmup]
  obtain ⟨url, repetitions, shape, warmup⟩ := resolved
  rw [Resolved.mk.injEq]
  exact ⟨h.url.unique hother.url, h.repetitions.unique hother.repetitions,
    h.shape.unique hother.shape, hwarmup⟩

end Settings

/-! ## Commands -/

namespace Command

open Settings

variable {σ : Type}

/-- The settings file that a command looks for. -/
def sought? (env : Environment σ) (state : σ) (environment : Variables)
    (asked : Option String) : Option Candidate :=
  let find (path : String) := (path, env.inspect path state)
  candidate? (asked.map find) ((usualSettings? environment).map find)

/-- A command that is asked for a file looks at no other. -/
theorem settingsFound_eq (env : Environment σ) (state : σ) (environment : Variables)
    (asked : Option String) :
    settingsFound env state environment asked =
      let find (path : String) := (path, env.inspect path state)
      Settings.load (asked.map find) ((usualSettings? environment).map find) := by
  cases asked with
  | none => rfl
  | some path => rfl

/-- Loads settings and puts overrides over them, one layer after the other; the uppermost layer
comes first. -/
def loadLayered (environment : Variables) (asked : Option String) (layers : List Overrides) :
    Run Resolved := do
  return ((← loadSettings environment asked).overrideAll layers).resolve

/-- What comes of loading settings under overrides. -/
inductive Resolves (sought : Option Candidate) (layers : List Overrides) :
    Except Fault Resolved → Prop where
  /-- What is wrong with the file ends the command. -/
  | failed {fault : SettingsFault} (hfile : Finds sought (.error fault)) :
      Resolves sought layers (.error (.failed (.settings fault)))
  /-- Else each setting is that of the uppermost layer. -/
  | resolved {file : Settings} {resolved : Resolved} (hfile : Finds sought (.ok file))
      (hlayers : Layered layers file resolved) : Resolves sought layers (.ok resolved)

/-- Loading under overrides changes nothing, and comes to what the settings found do. -/
theorem run_loadLayered (env : Environment σ) (world : World σ) (environment : Variables)
    (asked : Option String) (layers : List Overrides) :
    (loadLayered environment asked layers).run.run env world =
      (match settingsFound env world.state environment asked with
        | .error fault => .error (.failed (.settings fault))
        | .ok file => .ok (file.overrideAll layers).resolve, world) := by
  have hload := run_loadSettings env world environment asked
  rw [loadLayered]
  cases hfound : settingsFound env world.state environment asked with
  | error fault =>
      rw [hfound] at hload
      rw [Run.run_bind_error hload]
  | ok file =>
      rw [hfound] at hload
      rw [Run.run_bind_ok hload]
      rfl

/-- Settings are resolved layer by layer, each of them by itself.  Loading under overrides fails
exactly for what is wrong with the file that is looked for, and else each setting is that of the
uppermost layer that gives it.  If a file is asked for, nothing else on the disk and no variable of
the environment matters.  Overrides in turn are one override, of the later one over the earlier. -/
theorem loadLayered_exact (env : Environment σ) (world : World σ) (environment : Variables)
    (asked : Option String) (layers : List Overrides) :
    let ended := (loadLayered environment asked layers).run.run env world
    ended.2 = world ∧
    (∀ outcome, ended.1 = outcome ↔
      Resolves (sought? env world.state environment asked) layers outcome) ∧
    (∀ (τ : Type) (other : Environment τ) (elsewhere : World τ) (others : Variables)
      (path : String), asked = some path →
      other.inspect path elsewhere.state = env.inspect path world.state →
        ((loadLayered others asked layers).run.run other elsewhere).1 = ended.1) ∧
    ∀ (file : Settings) (earlier later : Overrides),
      (file.override earlier).override later = file.override (later.over earlier) := by
  intro ended
  have hended : ended = _ := run_loadLayered env world environment asked layers
  refine ⟨by rw [hended], ?_, ?_, override_override⟩
  · intro outcome
    rw [hended, settingsFound_eq]
    constructor
    · rintro rfl
      split
      · rename_i fault hload
        exact .failed (load_eq_iff.mp hload)
      · rename_i file hload
        exact .resolved (load_eq_iff.mp hload) (layered_overrideAll layers file)
    · rintro (hfile | ⟨hfile, hlayers⟩)
      · rw [load_eq_iff.mpr hfile]
      · rw [load_eq_iff.mpr hfile]
        exact congrArg _ ((layered_overrideAll layers _).unique hlayers)
  · rintro τ other elsewhere others path rfl hsame
    -- the usual file is not looked for if there is one that is asked for
    rw [hended, run_loadLayered]
    simp only [settingsFound, Option.map_some, Option.isSome_some, if_true, hsame]
    rfl

/-- A file is asked for under two overrides: the later one decides on the repetitions, the earlier
one on the database, and the file on the shape.  What is found in the usual place does not matter.
If none is asked for, the file in the usual place says as much, and without it the shape is the
built-in one. -/
theorem loadLayered_exact_asked :
    let text := "[run]\nrepetitions = 3\nexecutor = \"enumerate\"\n"
    let env (usual : FileState) : Environment Unit := ⟨
      fun _ _ => ⟨.error .connectionClosed, [], ()⟩,
      fun _ _ => ⟨.ok (), [], ()⟩,
      fun path _ => if path = "/asked.toml" then .file (Utf8.encode text)
        else if path = "/home/pathbench/config.toml" then usual else .absent,
      fun _ _ _ => .ok (), fun _ => 0⟩
    let world := World.fresh () (.limited none)
    let environment : Variables := fun _ => some "/home"
    let layers : List Overrides :=
      [⟨none, some 5, none, true⟩, ⟨some "sqlite::memory:", some 7, none, false⟩]
    let outcome (asked : Option String) (usual : FileState) :=
      ((loadLayered environment asked layers).run.run (env usual) world).1
    ((env .directory).inspect "/asked.toml" () = (env .absent).inspect "/asked.toml" () ∧
      outcome (some "/asked.toml") .directory = outcome (some "/asked.toml") .absent ∧
      outcome (some "/asked.toml") .absent = .ok ⟨"sqlite::memory:", 5, .enumerate, true⟩) ∧
    outcome none (.file (Utf8.encode text)) = .ok ⟨"sqlite::memory:", 5, .enumerate, true⟩ ∧
    outcome none .absent = .ok ⟨"sqlite::memory:", 5, .count, true⟩ ∧
    outcome none .directory =
      .error (.failed (.settings (.unreadable "/home/pathbench/config.toml" .isDirectory))) := by
  intro text env world environment layers outcome
  have hsame : (env .directory).inspect "/asked.toml" () = (env .absent).inspect "/asked.toml" () :=
    rfl
  obtain ⟨-, hasked, hother, -⟩ :=
    loadLayered_exact (env .absent) world environment (some "/asked.toml") layers
  have husual (usual : FileState) :=
    (loadLayered_exact (env usual) world environment none layers).2.1
  have hread : read text = .ok ⟨none, some 3, some .enumerate, none⟩ := by decide +kernel
  obtain ⟨entries, hparse, hgiven⟩ := read_eq_ok_iff.mp hread
  have hlayered : Layered layers ⟨none, some 3, some .enumerate, none⟩
      ⟨"sqlite::memory:", 5, .enumerate, true⟩ :=
    ⟨.silent .given, .given, .silent (.silent .given), by simp [layers]⟩
  refine ⟨⟨hsame, hother Unit (env .directory) world environment _ rfl hsame, ?_⟩, ?_, ?_, ?_⟩
  · exact (hasked _).mpr (.resolved (.valid rfl hparse hgiven) hlayered)
  · exact (husual _ _).mpr (.resolved (.valid rfl hparse hgiven) hlayered)
  · refine (husual _ _).mpr (.resolved (.absent (FileState.present_eq_false_iff.mp rfl)) ?_)
    exact ⟨.silent .given, .given, .silent (.silent (.silent .builtIn)), by simp [layers]⟩
  · exact (husual _ _).mpr (.failed .directory)

end Command
end IndexBench
