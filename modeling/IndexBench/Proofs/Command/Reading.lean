import IndexBench.Proofs.Command.Arguments

/-!
# Reading arguments

The reader accepts the arguments that can be spelled and whose texts can be stored, and no others.
It stores the texts in the order in which they are given, and after them what the environment gives.

Main definitions:

- `Arguments.Reaches` says that arguments are in order up to their end, and what is stored then.

Main results:

- Theorem `Arguments.reaches_iff_spelled`: arguments are in order exactly if they can be spelled and
  what they give can be stored.
- Theorem `Arguments.readFrom_eq_values_iff`: when arguments are read as values.
- Theorem `Arguments.readFrom_shown_iff`: when a command tells of itself.
-/

namespace IndexBench
namespace Command

variable {α : Type}

/-- Whether arguments are read as a request for the version or for help. -/
def Parsed.IsShown : Parsed α → Prop
  | .values _ => False
  | .version => True
  | .help => True

namespace Arguments

/-! ## Runs -/

/-- Whether arguments are in order up to their end, and what is stored then. -/
inductive Reaches (parameters : List (Parameter α)) :
    State α → List String → α → List String → Prop where
  | done {state resolved : State α} (hresolve : state.resolve = .ok resolved) :
      Reaches parameters state [] resolved.values resolved.stored
  | step {state next : State α} {argument : String} {arguments stored : List String} {values : α}
      (hstep : state.step parameters argument = .ok (.next next))
      (hrest : Reaches parameters next arguments values stored) :
      Reaches parameters state (argument :: arguments) values stored

section Runs

variable {parameters : List (Parameter α)} {state : State α} {arguments stored : List String}
  {values : α} {parameter : Parameter α} {text : String}

/-- What waits is stored before the arguments that follow. -/
theorem reaches_iff_of_resolve
    (hasking : state.trailing = true ∨ ∀ parameter, state.pending ≠ some (parameter, none)) :
    Reaches parameters state arguments values stored ↔
      ∃ resolved, state.resolve = .ok resolved ∧
        Reaches parameters resolved arguments values stored := by
  induction arguments generalizing state with
  | nil =>
      constructor
      · rintro ⟨hresolve⟩
        exact ⟨_, hresolve, .done (State.resolve_idle (State.frame_of_resolve hresolve).1)⟩
      · rintro ⟨resolved, hresolve, ⟨hreached⟩⟩
        rw [State.resolve_idle (State.frame_of_resolve hresolve).1] at hreached
        cases hreached
        exact .done hresolve
  | cons argument arguments ih =>
      by_cases hargument : state.trailing = true ∨ argument ≠ "--"
      · constructor
        · rintro (_ | ⟨hstep, hrest⟩)
          obtain ⟨resolved, hresolve⟩ := exists_resolve_of_step hstep hasking hargument
          rw [step_of_resolve hresolve hargument] at hstep
          exact ⟨resolved, hresolve, .step hstep hrest⟩
        · rintro ⟨resolved, hresolve, _ | ⟨hstep, hrest⟩⟩
          rw [← step_of_resolve hresolve hargument] at hstep
          exact .step hstep hrest
      · -- two hyphens leave what waits as it is
        rw [not_or, not_not, Bool.not_eq_true] at hargument
        obtain ⟨hopen, rfl⟩ := hargument
        have hlater := @ih { state with trailing := true } (.inl rfl)
        rw [State.resolve_trailing] at hlater
        constructor
        · rintro (_ | ⟨hstep, hrest⟩)
          rw [step_hyphens parameters hopen] at hstep
          cases hstep
          obtain ⟨trailing, htrailing, hrest⟩ := hlater.mp hrest
          cases hresolve : state.resolve with
          | error fault =>
              rw [hresolve] at htrailing
              cases htrailing
          | ok resolved =>
              rw [hresolve] at htrailing
              cases htrailing
              have hstill := (State.frame_of_resolve hresolve).2.2.trans hopen
              exact ⟨resolved, rfl, .step (step_hyphens parameters hstill) hrest⟩
        · rintro ⟨resolved, hresolve, _ | ⟨hstep, hrest⟩⟩
          have hstill := (State.frame_of_resolve hresolve).2.2.trans hopen
          rw [step_hyphens parameters hstill] at hstep
          cases hstep
          refine .step (step_hyphens parameters hopen) (hlater.mpr ⟨_, ?_, hrest⟩)
          rw [hresolve]
          rfl

/-- A text that waits is stored before the arguments that follow. -/
theorem reaches_waiting_iff :
    Reaches parameters { state with pending := some (parameter, some text) } arguments values
        stored ↔
      parameter.label ∉ state.stored ∧ ∃ first, store state.values (parameter, text) = .ok first ∧
        Reaches parameters
          { state with
            values := first
            stored := parameter.label :: state.stored
            pending := none }
          arguments values stored := by
  rw [reaches_iff_of_resolve (.inr (by simp))]
  constructor
  · rintro ⟨resolved, hresolve, hrest⟩
    obtain ⟨hnew, first, hfirst, rfl⟩ := (State.resolve_waiting_eq_ok_iff rfl).mp hresolve
    exact ⟨hnew, first, hfirst, hrest⟩
  · rintro ⟨hnew, first, hfirst, hrest⟩
    exact ⟨_, (State.resolve_waiting_eq_ok_iff rfl).mpr ⟨hnew, first, hfirst, rfl⟩, hrest⟩

/-- A text that is given at once is stored before the arguments that follow. -/
theorem give_eq_ok_iff (hidle : state.pending = none) {next : State α} :
    state.give parameter text = .ok next ↔
      parameter.label ∉ state.stored ∧ ∃ first, store state.values (parameter, text) = .ok first ∧
        next =
          { state with
            values := first
            stored := parameter.label :: state.stored
            pending := none } := by
  rw [give_of_resolve (State.resolve_idle hidle), State.resolve_waiting_eq_ok_iff rfl]

/-- After two hyphens, arguments are in order if there are places for them. -/
theorem reaches_trailing_iff (hidle : state.pending = none) (htrailing : state.trailing = true) :
    Reaches parameters state arguments values stored ↔
      arguments.length ≤ state.positional.length ∧
        Takes state.values state.stored (state.positional.zip arguments) values stored := by
  induction arguments generalizing state with
  | nil =>
      rw [List.zip_nil_right, takes_nil]
      constructor
      · rintro ⟨hresolve⟩
        rw [State.resolve_idle hidle] at hresolve
        cases hresolve
        exact ⟨Nat.zero_le _, rfl, rfl⟩
      · rintro ⟨-, rfl, rfl⟩
        exact .done (State.resolve_idle hidle)
  | cons argument arguments ih =>
      have hstep : state.step parameters argument = (state.place argument).map .next := by
        simp [State.step, htrailing, State.readValue, hidle]
      cases hpositional : state.positional with
      | nil =>
          constructor
          · rintro (_ | ⟨hnext, -⟩)
            rw [hstep, State.place, hpositional] at hnext
            cases hnext
          · rintro ⟨hfits, -⟩
            exact absurd hfits (by simp)
      | cons parameter positional =>
          rw [place_of_positional hidle hpositional] at hstep
          rw [List.zip_cons_cons, takes_cons]
          constructor
          · rintro (_ | ⟨hnext, hrest⟩)
            rw [hstep] at hnext
            cases hnext
            obtain ⟨hnew, first, hfirst, hrest⟩ := reaches_waiting_iff.mp hrest
            obtain ⟨hfits, htakes⟩ := (ih rfl (by exact htrailing)).mp hrest
            exact ⟨Nat.succ_le_succ hfits, hnew, first, hfirst, htakes⟩
          · rintro ⟨hfits, hnew, first, hfirst, htakes⟩
            refine .step hstep (reaches_waiting_iff.mpr ⟨hnew, first, hfirst, ?_⟩)
            exact (ih rfl (by exact htrailing)).mpr ⟨Nat.le_of_succ_le_succ hfits, htakes⟩

/-- An option that waits for its text takes the next argument, which has to be a value. -/
theorem reaches_asking_iff (hasking : state.pending = some (parameter, none))
    (hopen : state.trailing = false) :
    Reaches parameters state arguments values stored ↔
      ∃ text rest, arguments = text :: rest ∧ IsValue text ∧
        Reaches parameters { state with pending := some (parameter, some text) } rest values
          stored := by
  have hvalued {text : String} (htext : IsValue text) : state.step parameters text =
      .ok (.next { state with pending := some (parameter, some text) }) := by
    rw [step_value parameters hopen htext, State.readValue]
    simp only [hasking, hopen]
  constructor
  · rintro (hresolve | ⟨hstep, hrest⟩)
    · exact absurd hresolve (State.resolve_ne_ok hasking)
    · rename_i next text rest
      rcases argument_cases text with
        rfl | ⟨cs, hne, htext⟩ | ⟨letter, cs, hletter, htext⟩ | htext
      · rw [step_hyphens parameters hopen] at hstep
        cases hstep
        obtain ⟨resolved, hresolve, -⟩ := (reaches_iff_of_resolve (.inl rfl)).mp hrest
        exact absurd hresolve (State.resolve_ne_ok hasking)
      · rw [step_long parameters hopen hne htext] at hstep
        obtain ⟨resolved, hresolve⟩ := (longStep_of_readLong hstep).exists_resolve
        exact absurd hresolve (State.resolve_ne_ok hasking)
      · rw [step_short parameters hopen hletter htext] at hstep
        exact absurd hstep (readShort_ne_next _ _ _)
      · rw [hvalued htext] at hstep
        cases hstep
        exact ⟨text, rest, rfl, htext, hrest⟩
  · rintro ⟨text, rest, rfl, htext, hrest⟩
    exact .step (hvalued htext) hrest

end Runs

/-! ## Spelling -/

/-- What is given, with the parameters of the names. -/
def assignments (parameters : List (Parameter α)) (given : List (String × String)) :
    List (Assignment α) :=
  given.filterMap fun assigned =>
    (parameters.find? fun parameter => parameter.key == assigned.1).map (·, assigned.2)

section Spelling

variable {parameters : List (Parameter α)} (h : WellNamed parameters)
include h

/-- What is given to a name is given to its parameter. -/
theorem assignments_cons {parameter : Parameter α} (hknown : parameter ∈ parameters) (text : String)
    (given : List (String × String)) :
    assignments parameters ((parameter.key, text) :: given) =
      (parameter, text) :: assignments parameters given := by
  rw [assignments, List.filterMap_cons_some]
  · rfl
  · rw [h.find?_key hknown]
    rfl

/-- What is given to a name first is stored first. -/
theorem takes_assignments_cons {parameter : Parameter α} (hknown : parameter ∈ parameters)
    {text : String} {given : List (String × String)} {values values' : α}
    {stored stored' : List String} :
    Takes values stored (assignments parameters ((parameter.key, text) :: given)) values' stored' ↔
      parameter.label ∉ stored ∧ ∃ first, store values (parameter, text) = .ok first ∧
        Takes first (parameter.label :: stored) (assignments parameters given) values' stored' := by
  rw [assignments_cons h hknown, takes_cons]
  rfl

/-- What is given to places is given to their parameters. -/
theorem assignments_zip {positional : List (Parameter α)}
    (hplaces : ∀ parameter ∈ positional, parameter ∈ parameters) (texts : List String) :
    assignments parameters ((positional.map Parameter.key).zip texts) = positional.zip texts := by
  induction positional generalizing texts with
  | nil => rfl
  | cons parameter positional ih =>
      obtain ⟨hknown, hplaces⟩ := List.forall_mem_cons.mp hplaces
      cases texts with
      | nil => rfl
      | cons text texts =>
          rw [List.map_cons, List.zip_cons_cons, List.zip_cons_cons, assignments_cons h hknown,
            ih hplaces]

/-- Whether a reader is about to read an argument, with nothing that waits. -/
structure State.Ready (parameters : List (Parameter α)) (state : State α) : Prop where
  idle : state.pending = none
  isOpen : state.trailing = false
  known : ∀ parameter ∈ state.positional, parameter ∈ parameters

omit h in
/-- A reader is ready again once a text is stored. -/
theorem State.Ready.after {state : State α} (hready : state.Ready parameters) (values : α)
    (stored : List String) :
    State.Ready parameters
      { state with
        values := values
        stored := stored
        pending := none } :=
  ⟨rfl, hready.isOpen, hready.known⟩

omit h in
/-- A reader is ready again once the text of a place is stored. -/
theorem State.Ready.placed {state : State α} (hready : state.Ready parameters)
    {parameter : Parameter α} {positional : List (Parameter α)}
    (hpositional : state.positional = parameter :: positional) (values : α)
    (stored : List String) :
    parameter ∈ parameters ∧ State.Ready parameters
      { state with
        values := values
        stored := stored
        pending := none
        positional := positional } := by
  have hknown := hready.known
  rw [hpositional, List.forall_mem_cons] at hknown
  exact ⟨hknown.1, rfl, hready.isOpen, hknown.2⟩

/-- Arguments that are in order can be spelled. -/
theorem exists_spelled_of_reaches {state : State α} {arguments stored : List String} {values : α}
    (hready : state.Ready parameters)
    (hreaches : Reaches parameters state arguments values stored) :
    ∃ given, Spelled (flagKeys parameters) (optionKeys parameters)
        (state.positional.map Parameter.key) arguments given ∧
      Takes state.values state.stored (assignments parameters given) values stored := by
  induction hlength : arguments.length using Nat.strongRecOn generalizing state arguments with
  | ind length ih =>
  subst hlength
  have hidle := hready.idle
  have hopen := hready.isOpen
  cases hreaches with
  | done hresolve =>
      rw [State.resolve_idle hidle] at hresolve
      cases hresolve
      exact ⟨[], .nil, takes_nil.mpr ⟨rfl, rfl⟩⟩
  | @step _ next argument rest _ _ hstep hrest =>
      rcases argument_cases argument with
        rfl | ⟨cs, hne, htext⟩ | ⟨letter, cs, hletter, htext⟩ | hvalue
      · rw [step_hyphens parameters hopen] at hstep
        cases hstep
        obtain ⟨hfits, htakes⟩ := (reaches_trailing_iff (by exact hidle) rfl).mp hrest
        refine ⟨(state.positional.map Parameter.key).zip rest, .trailing ?_, ?_⟩
        · rwa [List.length_map]
        · rwa [assignments_zip h hready.known]
      · rw [step_long parameters hopen hne htext] at hstep
        cases longStep_of_readLong hstep with
        | flag parameter long hknown hlong hvalue hname hgive =>
            obtain ⟨hnew, first, hfirst, rfl⟩ := (give_eq_ok_iff hidle).mp hgive
            obtain ⟨given, hspelled, htakes⟩ :=
              ih _ (Nat.lt_succ_self _) (hready.after _ _) hrest rfl
            obtain rfl : argument = parameter.key := by
              rw [← String.toList_inj, htext, hname, Parameter.toList_key hlong]
            have hflag := mem_flagKeys.mpr ⟨parameter, hknown, long, hlong, hvalue, rfl⟩
            exact ⟨_, .flag hflag hspelled,
              (takes_assignments_cons h hknown).mpr ⟨hnew, first, hfirst, htakes⟩⟩
        | attached parameter long value hknown hlong hvalue hname hgive =>
            obtain ⟨hnew, first, hfirst, rfl⟩ := (give_eq_ok_iff hidle).mp hgive
            obtain ⟨given, hspelled, htakes⟩ :=
              ih _ (Nat.lt_succ_self _) (hready.after _ _) hrest rfl
            obtain rfl : argument = parameter.key ++ "=" ++ String.ofList value := by
              rw [← String.toList_inj, htext, hname, String.toList_append, String.toList_append,
                Parameter.toList_key hlong, String.toList_ofList]
              simp
            have hoption := mem_optionKeys.mpr ⟨parameter, hknown, long, hlong, hvalue, rfl⟩
            exact ⟨_, .attached hoption hspelled,
              (takes_assignments_cons h hknown).mpr ⟨hnew, first, hfirst, htakes⟩⟩
        | ask parameter long hknown hlong hvalue hname resolved hresolve hnext =>
            rw [State.resolve_idle hidle] at hresolve
            cases hresolve
            subst hnext
            obtain ⟨text, later, rfl, htext', hrest⟩ :=
              (reaches_asking_iff rfl (by exact hopen)).mp hrest
            obtain ⟨hnew, first, hfirst, hrest⟩ := reaches_waiting_iff.mp hrest
            obtain ⟨given, hspelled, htakes⟩ :=
              ih _ (Nat.lt_succ_of_lt (Nat.lt_succ_self _)) (hready.after _ _) hrest rfl
            obtain rfl : argument = parameter.key := by
              rw [← String.toList_inj, htext, hname, Parameter.toList_key hlong]
            have hoption := mem_optionKeys.mpr ⟨parameter, hknown, long, hlong, hvalue, rfl⟩
            exact ⟨_, .separate hoption htext' hspelled,
              (takes_assignments_cons h hknown).mpr ⟨hnew, first, hfirst, htakes⟩⟩
      · rw [step_short parameters hopen hletter htext] at hstep
        exact absurd hstep (readShort_ne_next _ _ _)
      · rw [step_value parameters hopen hvalue, readValue_of_resolve (State.resolve_idle hidle)]
          at hstep
        cases hpositional : state.positional with
        | nil =>
            rw [State.place, hpositional] at hstep
            cases hstep
        | cons parameter positional =>
            rw [place_of_positional hidle hpositional] at hstep
            cases hstep
            obtain ⟨hnew, first, hfirst, hrest⟩ := reaches_waiting_iff.mp hrest
            obtain ⟨hknown, hready⟩ :=
              hready.placed hpositional first (parameter.label :: state.stored)
            obtain ⟨given, hspelled, htakes⟩ := ih _ (Nat.lt_succ_self _) hready hrest rfl
            exact ⟨_, .place hvalue hspelled,
              (takes_assignments_cons h hknown).mpr ⟨hnew, first, hfirst, htakes⟩⟩

/-- Arguments that can be spelled are in order, if what they give can be stored. -/
theorem reaches_of_spelled {places arguments stored : List String} {given : List (String × String)}
    (hspelled : Spelled (flagKeys parameters) (optionKeys parameters) places arguments given)
    {state : State α} {values : α} (hready : state.Ready parameters)
    (hkeys : places = state.positional.map Parameter.key)
    (htakes : Takes state.values state.stored (assignments parameters given) values stored) :
    Reaches parameters state arguments values stored := by
  induction hspelled generalizing state with
  | nil =>
      obtain ⟨rfl, rfl⟩ := takes_nil.mp htakes
      exact .done (State.resolve_idle hready.idle)
  | flag hname _ ih =>
      obtain ⟨parameter, hknown, long, hlong, hvalue, rfl⟩ := mem_flagKeys.mp hname
      obtain ⟨hnew, first, hfirst, hrest⟩ := (takes_assignments_cons h hknown).mp htakes
      have hgive := (give_eq_ok_iff hready.idle).mpr ⟨hnew, first, hfirst, rfl⟩
      have hne : long.toList ≠ [] := by simpa using (h.long parameter hknown long hlong).1
      refine .step ?_ (ih (hready.after _ _) hkeys hrest)
      rw [step_long parameters hready.isOpen hne (Parameter.toList_key hlong)]
      exact readLong_of_longStep h (.flag parameter long hknown hlong hvalue rfl hgive)
  | @attached places arguments given name text hname _ ih =>
      obtain ⟨parameter, hknown, long, hlong, hvalue, rfl⟩ := mem_optionKeys.mp hname
      obtain ⟨hnew, first, hfirst, hrest⟩ := (takes_assignments_cons h hknown).mp htakes
      have hgive := (give_eq_ok_iff hready.idle).mpr ⟨hnew, first, hfirst, rfl⟩
      have htext : (parameter.key ++ "=" ++ text).toList =
          '-' :: '-' :: (long.toList ++ '=' :: text.toList) := by
        rw [String.toList_append, String.toList_append, Parameter.toList_key hlong]
        simp
      refine .step ?_ (ih (hready.after _ _) hkeys hrest)
      rw [step_long parameters hready.isOpen (by simp) htext]
      refine readLong_of_longStep h
        (.attached parameter long text.toList hknown hlong hvalue rfl ?_)
      rwa [String.ofList_toList]
  | @separate places arguments given name text hname htext _ ih =>
      obtain ⟨parameter, hknown, long, hlong, hvalue, rfl⟩ := mem_optionKeys.mp hname
      obtain ⟨hnew, first, hfirst, hrest⟩ := (takes_assignments_cons h hknown).mp htakes
      have hwaiting := reaches_waiting_iff.mpr
        ⟨hnew, first, hfirst, ih (hready.after _ _) hkeys hrest⟩
      have hasking : Reaches parameters { state with pending := some (parameter, none) }
          (text :: arguments) values stored := by
        refine (reaches_asking_iff rfl ?_).mpr ⟨text, arguments, rfl, htext, hwaiting⟩
        exact hready.isOpen
      have hne : long.toList ≠ [] := by simpa using (h.long parameter hknown long hlong).1
      refine .step ?_ hasking
      rw [step_long parameters hready.isOpen hne (Parameter.toList_key hlong)]
      exact readLong_of_longStep h
        (.ask parameter long hknown hlong hvalue rfl state (State.resolve_idle hready.idle) rfl)
  | @place place places arguments given text htext _ ih =>
      cases hpositional : state.positional with
      | nil =>
          rw [hpositional] at hkeys
          cases hkeys
      | cons parameter positional =>
          rw [hpositional] at hkeys
          cases hkeys
          have hknown : parameter ∈ parameters :=
            hready.known parameter (hpositional ▸ List.mem_cons_self)
          obtain ⟨hnew, first, hfirst, hrest⟩ := (takes_assignments_cons h hknown).mp htakes
          obtain ⟨-, hplaced⟩ := hready.placed hpositional first (parameter.label :: state.stored)
          have hwaiting : Reaches parameters
              { { state with positional := positional } with
                pending := some (parameter, some text) }
              arguments values stored :=
            reaches_waiting_iff.mpr ⟨hnew, first, hfirst, ih hplaced rfl hrest⟩
          refine .step ?_ hwaiting
          rw [step_value parameters hready.isOpen htext,
            readValue_of_resolve (State.resolve_idle hready.idle),
            place_of_positional hready.idle hpositional]
          rfl
  | trailing hfits =>
      subst hkeys
      rw [assignments_zip h hready.known] at htakes
      rw [List.length_map] at hfits
      refine .step (step_hyphens parameters hready.isOpen) ?_
      refine (reaches_trailing_iff ?_ rfl).mpr ⟨hfits, htakes⟩
      exact hready.idle

/-- Arguments are in order exactly if they can be spelled and what they give can be stored. -/
theorem reaches_iff_spelled {state : State α} {arguments stored : List String} {values : α}
    (hready : state.Ready parameters) :
    Reaches parameters state arguments values stored ↔
      ∃ given, Spelled (flagKeys parameters) (optionKeys parameters)
          (state.positional.map Parameter.key) arguments given ∧
        Takes state.values state.stored (assignments parameters given) values stored := by
  constructor
  · exact exists_spelled_of_reaches h hready
  · rintro ⟨given, hspelled, htakes⟩
    exact reaches_of_spelled h hspelled hready rfl htakes

end Spelling

/-! ## The environment -/

/-- What the environment gives to the parameters that have nothing yet. -/
def dueFrom (environment : String → Option String) (parameters : List (Parameter α))
    (stored : List String) : List (Assignment α) :=
  parameters.filterMap fun parameter =>
    if parameter.label ∈ stored then none
    else (parameter.environment.bind environment).map (parameter, ·)

section Environment

variable {environment : String → Option String} {parameters : List (Parameter α)}
  {state : State α} {values : α} {stored : List String}

/-- What the environment gives is stored in turn. -/
theorem exists_addEnvironment_iff (hidle : state.pending = none)
    (hlabels : (parameters.map Parameter.label).Nodup) :
    (∃ added, addEnvironment environment parameters state = .ok added ∧ added.values = values ∧
        added.stored = stored) ↔
      Takes state.values state.stored (dueFrom environment parameters state.stored) values
        stored := by
  induction parameters generalizing state with
  | nil =>
      rw [dueFrom, List.filterMap_nil, takes_nil]
      constructor
      · rintro ⟨added, ⟨⟩, rfl, rfl⟩
        exact ⟨rfl, rfl⟩
      · rintro ⟨rfl, rfl⟩
        exact ⟨state, rfl, rfl, rfl⟩
  | cons parameter parameters ih =>
      rw [List.map_cons, List.nodup_cons] at hlabels
      rw [addEnvironment, dueFrom, List.filterMap_cons]
      by_cases hstored : parameter.label ∈ state.stored
      · simp only [List.contains_iff_mem, hstored, if_true]
        exact ih hidle hlabels.2
      · cases hvariable : parameter.environment.bind environment with
        | none =>
            simp only [List.contains_iff_mem, hstored, if_false, Option.map_none]
            exact ih hidle hlabels.2
        | some text =>
            simp only [List.contains_iff_mem, hstored, if_false, Option.map_some]
            -- what is stored now is given to none of the parameters that follow
            have hsame : dueFrom environment parameters (parameter.label :: state.stored) =
                dueFrom environment parameters state.stored := by
              refine List.filterMap_congr fun other hother => ?_
              have hne : other.label ≠ parameter.label :=
                fun heq => hlabels.1 (heq ▸ List.mem_map_of_mem hother)
              simp only [List.mem_cons, hne, false_or]
            rw [takes_cons, ← dueFrom, ← hsame]
            constructor
            · rintro ⟨added, hadd, hrest⟩
              obtain ⟨next, hgive, hadd⟩ := bind_eq_ok_iff.mp hadd
              obtain ⟨hnew, first, hfirst, rfl⟩ := (give_eq_ok_iff hidle).mp hgive
              exact ⟨hnew, first, hfirst, (ih rfl hlabels.2).mp ⟨added, hadd, hrest⟩⟩
            · rintro ⟨hnew, first, hfirst, htakes⟩
              have hgive := (give_eq_ok_iff hidle).mpr ⟨hnew, first, hfirst, rfl⟩
              rw [hgive]
              exact (ih rfl hlabels.2).mpr htakes

/-- A reading ends with values if what the environment gives can be stored as well, and nothing
that is required is missing. -/
theorem finish_eq_values_iff (hlabels : (parameters.map Parameter.label).Nodup) :
    state.finish environment parameters = .ok (.values values) ↔
      ∃ resolved, state.resolve = .ok resolved ∧ ∃ stored,
        Takes resolved.values resolved.stored (dueFrom environment parameters resolved.stored)
          values stored ∧
        ∀ parameter ∈ parameters, parameter.required = true → parameter.label ∈ stored := by
  rw [State.finish, bind_eq_ok_iff]
  refine exists_congr fun resolved => and_congr_right fun hresolve => ?_
  have hadd {values : α} {stored : List String} :=
    @exists_addEnvironment_iff _ environment _ _ values stored
      (State.frame_of_resolve hresolve).1 hlabels
  have hall (stored : List String) :
      (parameters.all fun parameter => !parameter.required || stored.contains parameter.label) =
        true ↔
      ∀ parameter ∈ parameters, parameter.required = true → parameter.label ∈ stored := by
    simp only [List.all_eq_true, Bool.or_eq_true, Bool.not_eq_true', List.contains_iff_mem,
      ← Bool.not_eq_true, imp_iff_not_or]
  rw [bind_eq_ok_iff]
  constructor
  · rintro ⟨added, hadded, hchecked⟩
    split at hchecked
    · rename_i hrequired
      cases hchecked
      exact ⟨added.stored, hadd.mp ⟨added, hadded, rfl, rfl⟩, (hall _).mp hrequired⟩
    · cases hchecked
  · rintro ⟨stored, htakes, hrequired⟩
    obtain ⟨added, hadded, rfl, rfl⟩ := hadd.mpr htakes
    refine ⟨added, hadded, ?_⟩
    rw [if_pos ((hall _).mpr hrequired)]
    rfl

/-- A reading yields values if the arguments are in order up to their end and end well. -/
theorem readFrom_eq_values_iff (hlabels : (parameters.map Parameter.label).Nodup)
    {arguments : List String} :
    readFrom environment parameters state arguments = .ok (.values values) ↔
      ∃ read stored, Reaches parameters state arguments read stored ∧ ∃ stored',
        Takes read stored (dueFrom environment parameters stored) values stored' ∧
        ∀ parameter ∈ parameters, parameter.required = true → parameter.label ∈ stored' := by
  induction arguments generalizing state with
  | nil =>
      rw [readFrom, finish_eq_values_iff hlabels]
      constructor
      · rintro ⟨resolved, hresolve, hends⟩
        exact ⟨_, _, .done hresolve, hends⟩
      · rintro ⟨_, _, ⟨hresolve⟩, hends⟩
        exact ⟨_, hresolve, hends⟩
  | cons argument arguments ih =>
      rw [readFrom, bind_eq_ok_iff]
      constructor
      · rintro ⟨next, hstep, hread⟩
        cases next with
        | next next =>
            obtain ⟨read, stored, hrest, hends⟩ := ih.mp hread
            exact ⟨read, stored, .step hstep hrest, hends⟩
        | version => cases hread
        | help => cases hread
      · rintro ⟨read, stored, _ | ⟨hstep, hrest⟩, hends⟩
        exact ⟨_, hstep, ih.mpr ⟨read, stored, hrest, hends⟩⟩

end Environment

/-! ## Requests for the version and for help -/

section Requests

variable {environment : String → Option String} {parameters : List (Parameter α)}
  {state : State α} {arguments : List String} {outcome : Parsed α}

/-- A reading that ends with the arguments tells of nothing. -/
theorem not_shown_of_finish (h : state.finish environment parameters = .ok outcome) :
    ¬outcome.IsShown := by
  obtain ⟨resolved, -, h⟩ := bind_eq_ok_iff.mp h
  obtain ⟨added, -, h⟩ := bind_eq_ok_iff.mp h
  split at h
  · cases h
    exact not_false
  · cases h

/-- After two hyphens nothing is told of. -/
theorem not_shown_of_trailing (htrailing : state.trailing = true)
    (h : readFrom environment parameters state arguments = .ok outcome) : ¬outcome.IsShown := by
  induction arguments generalizing state with
  | nil => exact not_shown_of_finish h
  | cons argument arguments ih =>
      obtain ⟨ended, hstep, h⟩ := bind_eq_ok_iff.mp h
      have hread := hstep
      rw [State.step, if_pos htrailing] at hread
      cases ended with
      | next next => exact ih ((trailing_of_step hstep (.inl htrailing)).trans htrailing) h
      | version => exact absurd trivial (not_shown_of_readValue hread)
      | help => exact absurd trivial (not_shown_of_readValue hread)

/-- A command tells of itself if one of its arguments asks for it, with those before it in
order. -/
theorem readFrom_shown_iff (h : WellNamed parameters) (hopen : state.trailing = false) :
    (∃ outcome, readFrom environment parameters state arguments = .ok outcome ∧
        outcome.IsShown) ↔
      ∃ before request after values stored, arguments = before ++ request :: after ∧
        "--" ∉ before ∧ IsRequest request ∧ Reaches parameters state before values stored := by
  induction arguments generalizing state with
  | nil =>
      constructor
      · rintro ⟨outcome, hread, hshown⟩
        exact absurd hshown (not_shown_of_finish hread)
      · rintro ⟨before, request, after, values, stored, hsplit, -⟩
        simp at hsplit
  | cons argument arguments ih =>
      constructor
      · rintro ⟨outcome, hread, hshown⟩
        obtain ⟨ended, hstep, hread⟩ := bind_eq_ok_iff.mp hread
        have hnow (hended : ended.IsShown) : ∃ before request after values stored,
            argument :: arguments = before ++ request :: after ∧ "--" ∉ before ∧
              IsRequest request ∧ Reaches parameters state before values stored := by
          obtain ⟨hrequest, resolved, hresolve⟩ :=
            (step_shown_iff h hopen).mp ⟨ended, hstep, hended⟩
          exact ⟨[], argument, arguments, _, _, rfl, List.not_mem_nil, hrequest, .done hresolve⟩
        cases ended with
        | version => exact hnow trivial
        | help => exact hnow trivial
        | next next =>
            by_cases hargument : argument = "--"
            · subst hargument
              rw [step_hyphens parameters hopen] at hstep
              cases hstep
              exact absurd hshown (not_shown_of_trailing rfl hread)
            · have hstill := (trailing_of_step hstep (.inr hargument)).trans hopen
              obtain ⟨before, request, after, values, stored, rfl, hnone, hrequest, hrest⟩ :=
                (ih hstill).mp ⟨outcome, hread, hshown⟩
              exact ⟨argument :: before, request, after, values, stored, rfl,
                List.not_mem_cons_of_ne_of_not_mem (Ne.symm hargument) hnone, hrequest,
                .step hstep hrest⟩
      · rintro ⟨before, request, after, values, stored, hsplit, hnone, hrequest, hreaches⟩
        rw [readFrom]
        cases hreaches with
        | done hresolve =>
            cases hsplit
            obtain ⟨ended, hstep, hshown⟩ :=
              (step_shown_iff h hopen).mpr ⟨hrequest, _, hresolve⟩
            rw [hstep]
            cases ended with
            | next next => cases hshown
            | version => exact ⟨.version, rfl, trivial⟩
            | help => exact ⟨.help, rfl, trivial⟩
        | @step _ next first before _ _ hstep hrest =>
            obtain ⟨rfl, rfl⟩ := List.cons_eq_cons.mp hsplit
            have hargument : argument ≠ "--" := fun heq => hnone (heq ▸ List.mem_cons_self)
            have hstill := (trailing_of_step hstep (.inr hargument)).trans hopen
            rw [hstep]
            exact (ih hstill).mpr ⟨before, request, after, values, stored, rfl,
              fun hmem => hnone (List.mem_cons_of_mem _ hmem), hrequest, hrest⟩

end Requests

end Arguments
end Command
end IndexBench
