import IndexBench.Command.Arguments
import IndexBench.Command.Exit
import Mathlib.Data.List.Nodup
import Mathlib.Logic.Function.Basic

/-!
# What arguments ask for

Arguments give texts to names, in the order in which they stand.  A flag stands alone.  The text
of an option is attached to its name by an equals sign or stands as the next argument.  Every other
value is given to the next place, and after two hyphens there are only such values.  The values of
a command are what these texts are read as, each name given once and every place taken; variables of
the environment stand in for some options.

Main definitions:

- `IsValue` says which texts can be values, `Spelled` what arguments give.
- `Synopsis` is what a command can be given; `Synopsis.Asks` says what arguments ask of it, and
  `Synopsis.AsksAboutItself` when they ask for its version or for help.
- `Synopsis.Describes` says that the parameters of a command are those of its synopsis.
-/

namespace IndexBench
namespace Command

variable {α : Type}

/-! ## Spelling -/

/-- Whether a text can be a value: only a hyphen alone may start with one. -/
def IsValue (text : String) : Prop :=
  ∀ letter rest, text.toList ≠ '-' :: letter :: rest

/-- What arguments give, with flags, options and places of some names. -/
inductive Spelled (flags options : List String) :
    List String → List String → List (String × String) → Prop where
  | nil {places : List String} : Spelled flags options places [] []
  | flag {places arguments : List String} {given : List (String × String)} {name : String}
      (hname : name ∈ flags) (hrest : Spelled flags options places arguments given) :
      Spelled flags options places (name :: arguments) ((name, "true") :: given)
  | attached {places arguments : List String} {given : List (String × String)} {name text : String}
      (hname : name ∈ options) (hrest : Spelled flags options places arguments given) :
      Spelled flags options places ((name ++ "=" ++ text) :: arguments) ((name, text) :: given)
  | separate {places arguments : List String} {given : List (String × String)} {name text : String}
      (hname : name ∈ options) (htext : IsValue text)
      (hrest : Spelled flags options places arguments given) :
      Spelled flags options places (name :: text :: arguments) ((name, text) :: given)
  | place {place : String} {places arguments : List String} {given : List (String × String)}
      {text : String} (htext : IsValue text)
      (hrest : Spelled flags options places arguments given) :
      Spelled flags options (place :: places) (text :: arguments) ((place, text) :: given)
  /-- After two hyphens all texts are values. -/
  | trailing {places texts : List String} (hfits : texts.length ≤ places.length) :
      Spelled flags options places ("--" :: texts) (places.zip texts)

/-- Whether an argument asks a command to tell of itself. -/
inductive IsRequest (argument : String) : Prop where
  | version (hargument : argument = "--version")
  | help (hargument : argument = "--help")
  | versionLetter (rest : List Char) (hargument : argument.toList = '-' :: 'V' :: rest)
  | helpLetter (rest : List Char) (hargument : argument.toList = '-' :: 'h' :: rest)

/-! ## Synopses -/

/-- What a command can be given.  Options and flags go by their names with hyphens, places by
theirs in angle brackets. -/
structure Synopsis (α : Type) where
  flags : List String
  options : List String
  places : List String
  /-- The variables of the environment that stand in for options. -/
  fallbacks : List (String × String)
  /-- Whether values are what the texts under these names come to. -/
  Holds : (String → Option String) → α → Prop

namespace Synopsis

/-- What the environment gives. -/
def supplied (synopsis : Synopsis α) (environment : Variables) : List (String × String) :=
  synopsis.fallbacks.filterMap fun fallback =>
    (environment fallback.2).map (fallback.1, ·)

/-- Whether arguments give texts to names, to each name once. -/
structure Gives (synopsis : Synopsis α) (arguments : List String)
    (given : List (String × String)) : Prop where
  spelled : Spelled synopsis.flags synopsis.options synopsis.places arguments given
  nodup : (given.map Prod.fst).Nodup

/-- Whether arguments ask for these values: no place is left open, and what is not given comes from
the environment. -/
def Asks (synopsis : Synopsis α) (environment : Variables) (arguments : List String)
    (values : α) : Prop :=
  ∃ given, synopsis.Gives arguments given ∧
    (∀ place ∈ synopsis.places, place ∈ given.map Prod.fst) ∧
    synopsis.Holds (fun name => (given ++ synopsis.supplied environment).lookup name) values

/-- Whether arguments ask a command to tell of itself.  Those before the request are in order. -/
def AsksAboutItself (synopsis : Synopsis α) (arguments : List String) : Prop :=
  ∃ before request after given values, arguments = before ++ request :: after ∧
    "--" ∉ before ∧ IsRequest request ∧ synopsis.Gives before given ∧
    synopsis.Holds (fun name => given.lookup name) values

end Synopsis

/-! ## Names of parameters -/

/-- The name by which a parameter is given: with its hyphens, or that of its place. -/
def Parameter.key (parameter : Parameter α) : String :=
  match parameter.long with
  | some long => "--" ++ long
  | none => "<" ++ parameter.value.getD "" ++ ">"

/-- The names of the flags. -/
def flagKeys (parameters : List (Parameter α)) : List String :=
  (parameters.filter fun parameter => parameter.long.isSome && parameter.value.isNone).map
    Parameter.key

/-- The names of the options with a value. -/
def optionKeys (parameters : List (Parameter α)) : List String :=
  (parameters.filter fun parameter => parameter.long.isSome && parameter.value.isSome).map
    Parameter.key

/-- The flags of parameters are those with a long name but no value. -/
theorem mem_flagKeys {parameters : List (Parameter α)} {name : String} :
    name ∈ flagKeys parameters ↔ ∃ parameter ∈ parameters, ∃ long, parameter.long = some long ∧
      parameter.value = none ∧ parameter.key = name := by
  simp [flagKeys, Option.isSome_iff_exists, and_assoc]

/-- The options of parameters are those with a long name and a value. -/
theorem mem_optionKeys {parameters : List (Parameter α)} {name : String} :
    name ∈ optionKeys parameters ↔ ∃ parameter ∈ parameters, ∃ long, parameter.long = some long ∧
      parameter.value.isSome = true ∧ parameter.key = name := by
  simp [optionKeys, Option.isSome_iff_exists, and_assoc]

/-- The names of the places. -/
def placeKeys (parameters : List (Parameter α)) : List String :=
  (parameters.filter fun parameter => parameter.long.isNone).map Parameter.key

/-- The name of a flag or an option starts with two hyphens. -/
theorem Parameter.toList_key {parameter : Parameter α} {long : String}
    (hlong : parameter.long = some long) :
    parameter.key.toList = '-' :: '-' :: long.toList := by
  rw [key, hlong, String.toList_append]
  rfl

/-- Whether parameters can be told apart by their names, and the names from attached texts. -/
structure WellNamed (parameters : List (Parameter α)) : Prop where
  keys : (parameters.map Parameter.key).Nodup
  labels : (parameters.map Parameter.label).Nodup
  long : ∀ parameter ∈ parameters, ∀ long, parameter.long = some long →
    long ≠ "" ∧ '=' ∉ long.toList
  /-- No parameter takes the names under which a command tells of itself. -/
  free : ∀ parameter ∈ parameters,
    parameter.long ≠ some "version" ∧ parameter.long ≠ some "help"

/-- An entry is found by what sets it apart. -/
theorem find?_eq_some_of_unique {entries : List α} {entry : α} {p : α → Bool}
    (hmem : entry ∈ entries) (hentry : p entry = true)
    (hunique : ∀ other ∈ entries, p other = true → other = entry) :
    entries.find? p = some entry := by
  cases hfind : entries.find? p with
  | none => exact absurd hentry (List.find?_eq_none.mp hfind entry hmem)
  | some other =>
      rw [hunique other (List.mem_of_find?_eq_some hfind) (List.find?_some hfind)]

namespace WellNamed

variable {parameters : List (Parameter α)} (h : WellNamed parameters) {parameter : Parameter α}
  (hknown : parameter ∈ parameters)
include h hknown

/-- A parameter is found by its key. -/
theorem find?_key :
    parameters.find? (fun other => other.key == parameter.key) = some parameter := by
  refine find?_eq_some_of_unique hknown (beq_self_eq_true _) fun other hother hkey => ?_
  exact List.inj_on_of_nodup_map h.keys hother hknown (beq_iff_eq.mp hkey)

/-- A parameter is found by its long name. -/
theorem find?_long {long : String} (hlong : parameter.long = some long) :
    parameters.find? (fun other => other.long == some long) = some parameter := by
  refine find?_eq_some_of_unique hknown (beq_iff_eq.mpr hlong) fun other hother hname => ?_
  refine List.inj_on_of_nodup_map h.keys hother hknown ?_
  rw [Parameter.key, Parameter.key, beq_iff_eq.mp hname, hlong]

end WellNamed

/-- Whether the parameters of a command are those of a synopsis: under the same names, required
exactly if they are places, and with values that hold what each of them stores. -/
structure Synopsis.Describes (synopsis : Synopsis α) (parameters : List (Parameter α))
    (defaults : α) : Prop where
  named : WellNamed parameters
  flags : flagKeys parameters = synopsis.flags
  options : optionKeys parameters = synopsis.options
  places : placeKeys parameters = synopsis.places
  fallbacks : (parameters.filterMap fun parameter =>
    parameter.environment.map (parameter.key, ·)) = synopsis.fallbacks
  required : ∀ parameter ∈ parameters, parameter.required = parameter.long.isNone
  /-- Nothing stands in for a place. -/
  placed : ∀ parameter ∈ parameters, parameter.long = none → parameter.environment = none
  defaults : ∀ values, synopsis.Holds (fun _ => none) values ↔ values = defaults
  store : ∀ parameter ∈ parameters, ∀ (texts : String → Option String) (text : String)
    (values' : α), texts parameter.key = none →
      (synopsis.Holds (Function.update texts parameter.key (some text)) values' ↔
        ∃ values, synopsis.Holds texts values ∧ parameter.store text values = .ok values')

end Command
end IndexBench
