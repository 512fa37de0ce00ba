import IndexBench.Proofs.Command.Spelling
import IndexBench.Proofs.Readings

/-!
# Steps of the reader of arguments

A reader of arguments stores a value when the next argument counts.  Two hyphens alone do not
count; every other argument stores what waits before it is looked at, so that it reads as if nothing
had waited.

Main definitions:

- `Arguments.Takes` says what becomes of values when texts are stored in turn.
- `Arguments.LongStep` says what a long argument can do that is in order.

Main results:

- Theorem `Arguments.argument_cases`: what an argument can be.
- Theorem `Arguments.step_of_resolve`: what waits is stored before the next argument counts.
- Theorem `Arguments.step_shown_iff`: which arguments end a reading.
-/

namespace IndexBench
namespace Command

variable {α : Type}

namespace Arguments

/-! ## Names and attached texts -/

/-- A text without an equals sign is all name. -/
theorem splitEquals_eq_none_iff {text name : List Char} :
    splitEquals text = (name, none) ↔ text = name ∧ '=' ∉ name := by
  induction text generalizing name with
  | nil => simp +contextual [splitEquals, eq_comm]
  | cons c rest ih =>
      unfold splitEquals
      split
      · rename_i hc
        subst hc
        constructor
        · simp
        · rintro ⟨rfl, hname⟩
          simp at hname
      · rename_i hc
        rcases hsplit : splitEquals rest with ⟨first, attached⟩
        cases name with
        | nil => simp
        | cons d name =>
            have hrest := @ih name
            rw [hsplit] at hrest
            simp only [Prod.mk.injEq, List.cons.injEq, List.mem_cons, not_or] at hrest ⊢
            rw [and_assoc, hrest]
            constructor
            · rintro ⟨rfl, rfl, hname⟩
              exact ⟨⟨rfl, rfl⟩, Ne.symm hc, hname⟩
            · rintro ⟨⟨rfl, rfl⟩, -, hname⟩
              exact ⟨rfl, rfl, hname⟩

/-- What follows the first equals sign of a text is attached to what stands before it. -/
theorem splitEquals_eq_some_iff {text name value : List Char} :
    splitEquals text = (name, some value) ↔ text = name ++ '=' :: value ∧ '=' ∉ name := by
  induction text generalizing name with
  | nil => simp [splitEquals]
  | cons c rest ih =>
      unfold splitEquals
      split
      · rename_i hc
        subst hc
        cases name with
        | nil => simp
        | cons d name => simp +contextual [eq_comm]
      · rename_i hc
        rcases hsplit : splitEquals rest with ⟨first, attached⟩
        cases name with
        | nil => simp [hc]
        | cons d name =>
            have hrest := @ih name
            rw [hsplit] at hrest
            simp only [Prod.mk.injEq, List.cons_append, List.cons.injEq, List.mem_cons,
              not_or] at hrest ⊢
            rw [and_assoc, hrest]
            constructor
            · rintro ⟨rfl, rfl, hname⟩
              exact ⟨⟨rfl, rfl⟩, Ne.symm hc, hname⟩
            · rintro ⟨⟨rfl, rfl⟩, -, hname⟩
              exact ⟨rfl, rfl, hname⟩

/-! ## Storing -/

/-- A parameter with the text that it is given. -/
abbrev Assignment (α : Type) : Type := Parameter α × String

/-- The label of what is given. -/
def Assignment.label (assignment : Assignment α) : String :=
  assignment.1.label

/-- The values after one more text is stored. -/
def store (values : α) (assignment : Assignment α) : Except UsageFault α :=
  assignment.1.accept assignment.2 values

/-- A text is stored as its parameter stores it. -/
theorem store_eq_ok_iff {assignment : Assignment α} {values values' : α} :
    store values assignment = .ok values' ↔
      assignment.1.store assignment.2 values = .ok values' := by
  unfold store Parameter.accept
  cases assignment.1.store assignment.2 values with
  | ok stored => simp
  | error fault => cases fault <;> simp

/-- What becomes of the values, and of the labels of what is stored, when texts are stored one
after the other.  Nothing is stored twice. -/
structure Takes (values : α) (stored : List String) (given : List (Assignment α)) (values' : α)
    (stored' : List String) : Prop where
  run : given.foldlM store values = .ok values'
  labels : stored' = (given.map Assignment.label).reverse ++ stored
  nodup : (given.map Assignment.label).Nodup
  fresh : ∀ label ∈ given.map Assignment.label, label ∉ stored

/-- Nothing to store changes nothing. -/
theorem takes_nil {values values' : α} {stored stored' : List String} :
    Takes values stored [] values' stored' ↔ values' = values ∧ stored' = stored := by
  constructor
  · rintro ⟨⟨⟩, hstored, -, -⟩
    exact ⟨rfl, hstored⟩
  · rintro ⟨rfl, rfl⟩
    exact ⟨rfl, rfl, .nil, List.forall_mem_nil _⟩

/-- The first text is stored before the others are. -/
theorem takes_cons {values values' : α} {stored stored' : List String}
    {assignment : Assignment α} {given : List (Assignment α)} :
    Takes values stored (assignment :: given) values' stored' ↔
      assignment.label ∉ stored ∧ ∃ first, store values assignment = .ok first ∧
        Takes first (assignment.label :: stored) given values' stored' := by
  constructor
  · rintro ⟨hvalues, rfl, hnodup, hfresh⟩
    rw [List.foldlM_cons] at hvalues
    obtain ⟨first, hfirst, hrest⟩ := bind_eq_ok_iff.mp hvalues
    rw [List.map_cons, List.nodup_cons] at hnodup
    rw [List.map_cons, List.forall_mem_cons] at hfresh
    refine ⟨hfresh.1, first, hfirst, hrest, by simp, hnodup.2, ?_⟩
    intro label hlabel hmem
    rcases List.mem_cons.mp hmem with rfl | hmem
    · exact hnodup.1 hlabel
    · exact hfresh.2 label hlabel hmem
  · rintro ⟨hnew, first, hfirst, hrest, rfl, hnodup, hfresh⟩
    refine ⟨?_, by simp, ?_, ?_⟩
    · rw [List.foldlM_cons]
      exact bind_eq_ok_iff.mpr ⟨first, hfirst, hrest⟩
    · rw [List.map_cons, List.nodup_cons]
      exact ⟨fun hmem => hfresh _ hmem List.mem_cons_self, hnodup⟩
    · rw [List.map_cons, List.forall_mem_cons]
      exact ⟨hnew, fun label hlabel hmem => hfresh label hlabel (List.mem_cons_of_mem _ hmem)⟩

namespace State

variable {state state' next : State α} {parameter : Parameter α} {text : String}

/-- Nothing that waits is nothing to store. -/
theorem resolve_idle (hidle : state.pending = none) : state.resolve = .ok state := by
  simp only [resolve, hidle]

/-- A text that waits is stored unless it is refused or its parameter has one already. -/
theorem resolve_waiting_eq_ok_iff (hwaiting : state.pending = some (parameter, some text)) :
    state.resolve = .ok next ↔ parameter.label ∉ state.stored ∧
      ∃ values, store state.values (parameter, text) = .ok values ∧ next =
        { state with
          values := values
          stored := parameter.label :: state.stored
          pending := none } := by
  simp only [resolve, hwaiting, List.contains_iff_mem, store]
  split
  · rename_i hmem
    simp [hmem]
  · rename_i hmem
    simp only [bind_eq_ok_iff, hmem, not_false_eq_true, true_and]
    refine exists_congr fun values => and_congr_right fun _ => ?_
    constructor
    · rintro ⟨⟩
      rfl
    · rintro rfl
      rfl

/-- Storing what waits changes neither the places nor how the rest is read. -/
theorem frame_of_resolve (h : state.resolve = .ok next) :
    next.pending = none ∧ next.positional = state.positional ∧ next.trailing = state.trailing := by
  rcases hpending : state.pending with _ | ⟨parameter, _ | text⟩
  · rw [resolve_idle hpending] at h
    cases h
    exact ⟨hpending, rfl, rfl⟩
  · simp only [resolve, hpending] at h
    cases h
  · obtain ⟨-, values, -, rfl⟩ := (resolve_waiting_eq_ok_iff hpending).mp h
    exact ⟨rfl, rfl, rfl⟩

/-- An option that waits for its text has nothing to store. -/
theorem resolve_ne_ok (hasking : state.pending = some (parameter, none)) :
    state.resolve ≠ .ok next := by
  simp [resolve, hasking]

/-- How the rest is read does not matter to what is stored. -/
theorem resolve_trailing (state : State α) :
    resolve { state with trailing := true } =
      state.resolve.map fun next => { next with trailing := true } := by
  obtain ⟨values, stored, pending, positional, trailing⟩ := state
  rcases pending with _ | ⟨parameter, _ | text⟩
  · rfl
  · rfl
  · simp only [resolve]
    split
    · rfl
    · cases parameter.accept text values <;> rfl

end State

/-! ## Steps -/

section Steps

variable {parameters : List (Parameter α)} {state state' next : State α} {argument : String}

/-- A text that is given at once is stored after what waits. -/
theorem give_of_resolve (h : state.resolve = .ok next) (parameter : Parameter α) (text : String) :
    state.give parameter text =
      State.resolve { next with pending := some (parameter, some text) } := by
  rw [State.give, h]
  rfl

/-- What waits is stored before the value of a place is taken. -/
theorem place_of_resolve (h : state.resolve = .ok next) (text : String) :
    state.place text = next.place text := by
  obtain ⟨hidle, hpositional, -⟩ := State.frame_of_resolve h
  rw [State.place, State.place, hpositional, h, State.resolve_idle hidle]

/-- The next place takes a value. -/
theorem place_of_positional (hidle : state.pending = none) {parameter : Parameter α}
    {positional : List (Parameter α)} (hpositional : state.positional = parameter :: positional)
    (text : String) :
    state.place text = .ok
      { { state with positional := positional } with pending := some (parameter, some text) } := by
  rw [State.place, hpositional, State.resolve_idle hidle]
  rfl

/-- What waits is stored before a value counts. -/
theorem readValue_of_resolve (h : state.resolve = .ok next) (text : String) :
    state.readValue text = (next.place text).map .next := by
  unfold State.readValue
  split
  · rename_i hpending _
    exact absurd h (State.resolve_ne_ok hpending)
  · rw [place_of_resolve h]

/-- What waits is stored before a long argument counts. -/
theorem readLong_of_resolve (h : state.resolve = .ok next) (text : List Char) :
    state.readLong parameters text = next.readLong parameters text := by
  obtain ⟨hidle, -, -⟩ := State.frame_of_resolve h
  have hnext := State.resolve_idle hidle
  simp only [State.readLong, State.finishWith, give_of_resolve h, give_of_resolve hnext, h, hnext]

/-- What waits is stored before the next argument counts, unless that only ends the options. -/
theorem step_of_resolve (h : state.resolve = .ok next)
    (hargument : state.trailing = true ∨ argument ≠ "--") :
    state.step parameters argument = next.step parameters argument := by
  obtain ⟨hidle, -, htrailing⟩ := State.frame_of_resolve h
  have hnext := State.resolve_idle hidle
  unfold State.step
  rw [htrailing, readValue_of_resolve h, readValue_of_resolve hnext]
  by_cases htrails : state.trailing = true
  · rw [if_pos htrails, if_pos htrails]
  · rw [if_neg htrails, if_neg htrails]
    split
    · rename_i htext
      exact absurd (String.toList_injective htext) (hargument.resolve_left htrails)
    · exact readLong_of_resolve h _
    · simp only [State.readShort, State.finishWith, h, hnext]
    · rfl

/-- What a long argument can do that is in order. -/
inductive LongStep (parameters : List (Parameter α)) (state : State α) (text : List Char)
    (next : State α) : Prop where
  | flag (parameter : Parameter α) (long : String) (hknown : parameter ∈ parameters)
      (hlong : parameter.long = some long) (hvalue : parameter.value = none)
      (htext : text = long.toList) (hgive : state.give parameter "true" = .ok next)
  | attached (parameter : Parameter α) (long : String) (value : List Char)
      (hknown : parameter ∈ parameters) (hlong : parameter.long = some long)
      (hvalue : parameter.value.isSome = true) (htext : text = long.toList ++ '=' :: value)
      (hgive : state.give parameter (String.ofList value) = .ok next)
  | ask (parameter : Parameter α) (long : String) (hknown : parameter ∈ parameters)
      (hlong : parameter.long = some long) (hvalue : parameter.value.isSome = true)
      (htext : text = long.toList) (resolved : State α) (hresolve : state.resolve = .ok resolved)
      (hnext : next = { resolved with pending := some (parameter, none) })

/-- A reading that goes on has a next state. -/
theorem eq_ok_of_map_next {reading : Except UsageFault (State α)}
    (h : reading.map .next = .ok (Step.next next)) : reading = .ok next := by
  cases reading with
  | error fault => cases h
  | ok state =>
      cases h
      rfl

/-- A reading does not go on once it is finished. -/
theorem finishWith_ne_next {outcome : Step α} (houtcome : ∀ next, outcome ≠ .next next)
    (state next : State α) : state.finishWith outcome ≠ .ok (.next next) := by
  intro hfinish
  obtain ⟨resolved, -, hnext⟩ := bind_eq_ok_iff.mp hfinish
  exact houtcome next (Except.ok.inj hnext)

/-- A long argument that is in order is a flag, or an option with or without its text. -/
theorem longStep_of_readLong {text : List Char}
    (hread : state.readLong parameters text = .ok (.next next)) :
    LongStep parameters state text next := by
  unfold State.readLong at hread
  rcases hsplit : splitEquals text with ⟨name, attached⟩
  simp only [hsplit] at hread
  cases hfind : parameters.find? fun parameter => parameter.long == some (String.ofList name) with
  | none =>
      simp only [hfind] at hread
      split at hread
      · cases attached with
        | some value => cases hread
        | none =>
            refine absurd hread (finishWith_ne_next ?_ state next)
            intro next
            split <;> simp
      · cases hread
  | some parameter =>
      have hknown := List.mem_of_find?_eq_some hfind
      have hlong := List.find?_some hfind
      rw [beq_iff_eq] at hlong
      cases attached with
      | some value =>
          obtain ⟨htext, -⟩ := splitEquals_eq_some_iff.mp hsplit
          simp only [hfind] at hread
          split at hread
          · rename_i hvalue
            refine .attached parameter _ value hknown hlong hvalue ?_ (eq_ok_of_map_next hread)
            rw [String.toList_ofList, htext]
          · cases hread
      | none =>
          obtain ⟨htext, -⟩ := splitEquals_eq_none_iff.mp hsplit
          have hname : text = (String.ofList name).toList := by
            rw [String.toList_ofList, htext]
          simp only [hfind] at hread
          split at hread
          · rename_i hvalue
            obtain ⟨resolved, hresolve, hstate⟩ := bind_eq_ok_iff.mp hread
            cases hstate
            exact .ask parameter _ hknown hlong hvalue hname resolved hresolve rfl
          · rename_i hvalue
            exact .flag parameter _ hknown hlong (by simpa using hvalue) hname
              (eq_ok_of_map_next hread)

/-- Flags and options are read as what they are. -/
theorem readLong_of_longStep (h : WellNamed parameters) {text : List Char}
    (hstep : LongStep parameters state text next) :
    state.readLong parameters text = .ok (.next next) := by
  cases hstep with
  | flag parameter long hknown hlong hvalue htext hgive =>
      have hsplit := splitEquals_eq_none_iff.mpr ⟨htext, (h.long parameter hknown long hlong).2⟩
      simp only [State.readLong, hsplit, String.ofList_toList, h.find?_long hknown hlong, hvalue,
        Option.isSome_none, Bool.false_eq_true, if_false, hgive]
      rfl
  | attached parameter long value hknown hlong hvalue htext hgive =>
      have hsplit := splitEquals_eq_some_iff.mpr ⟨htext, (h.long parameter hknown long hlong).2⟩
      simp only [State.readLong, hsplit, String.ofList_toList, h.find?_long hknown hlong, hvalue,
        if_true, hgive]
      rfl
  | ask parameter long hknown hlong hvalue htext resolved hresolve hnext =>
      have hsplit := splitEquals_eq_none_iff.mpr ⟨htext, (h.long parameter hknown long hlong).2⟩
      simp only [State.readLong, hsplit, String.ofList_toList, h.find?_long hknown hlong, hvalue,
        if_true, hresolve, hnext]
      rfl

/-- What waits is stored by a long argument. -/
theorem LongStep.exists_resolve {text : List Char} (h : LongStep parameters state text next) :
    ∃ resolved, state.resolve = .ok resolved := by
  cases h with
  | flag parameter long hknown hlong hvalue htext hgive =>
      obtain ⟨resolved, hresolve, -⟩ := bind_eq_ok_iff.mp hgive
      exact ⟨resolved, hresolve⟩
  | attached parameter long value hknown hlong hvalue htext hgive =>
      obtain ⟨resolved, hresolve, -⟩ := bind_eq_ok_iff.mp hgive
      exact ⟨resolved, hresolve⟩
  | ask parameter long hknown hlong hvalue htext resolved hresolve hnext =>
      exact ⟨resolved, hresolve⟩

/-- What an argument can be, before two hyphens alone have been read. -/
theorem argument_cases (argument : String) :
    argument = "--" ∨ (∃ text ≠ [], argument.toList = '-' :: '-' :: text) ∨
      (∃ letter rest, letter ≠ '-' ∧ argument.toList = '-' :: letter :: rest) ∨
        IsValue argument := by
  by_cases hvalue : IsValue argument
  · exact .inr (.inr (.inr hvalue))
  · simp only [IsValue, not_forall, not_not] at hvalue
    obtain ⟨letter, rest, htext⟩ := hvalue
    by_cases hletter : letter = '-'
    · subst hletter
      cases rest with
      | nil => exact .inl (String.toList_injective htext)
      | cons c rest => exact .inr (.inl ⟨c :: rest, List.cons_ne_nil _ _, htext⟩)
    · exact .inr (.inr (.inl ⟨letter, rest, hletter, htext⟩))

section Open

variable (parameters : List (Parameter α)) (hopen : state.trailing = false)
include hopen

/-- Two hyphens alone end the options. -/
theorem step_hyphens :
    state.step parameters "--" = .ok (.next { state with trailing := true }) := by
  simp [State.step, hopen]

/-- An argument that starts with two hyphens is a long one. -/
theorem step_long {text : List Char} (hne : text ≠ [])
    (htext : argument.toList = '-' :: '-' :: text) :
    state.step parameters argument = state.readLong parameters text := by
  cases text with
  | nil => exact absurd rfl hne
  | cons c text => simp [State.step, hopen, htext]

/-- An argument that starts with one hyphen is a letter. -/
theorem step_short {letter : Char} {rest : List Char} (hletter : letter ≠ '-')
    (htext : argument.toList = '-' :: letter :: rest) :
    state.step parameters argument = state.readShort letter := by
  simp [State.step, hopen, htext, hletter]

/-- Every other argument is a value. -/
theorem step_value (hvalue : IsValue argument) :
    state.step parameters argument = state.readValue argument := by
  unfold State.step
  rw [if_neg (by simp [hopen])]
  split
  · rename_i htext
    exact absurd htext (hvalue _ _)
  · rename_i htext
    exact absurd htext (hvalue _ _)
  · rename_i htext
    exact absurd htext (hvalue _ _)
  · rfl

end Open

/-- Nothing goes on after a letter. -/
theorem readShort_ne_next (state next : State α) (letter : Char) :
    state.readShort letter ≠ .ok (.next next) := by
  unfold State.readShort
  split
  · exact finishWith_ne_next (by simp) state next
  · split
    · exact finishWith_ne_next (by simp) state next
    · exact nofun

/-- What waits is stored by an argument that is in order, unless it is the text of an option or
only ends the options. -/
theorem exists_resolve_of_step (hstep : state.step parameters argument = .ok (.next next))
    (hasking : state.trailing = true ∨ ∀ parameter, state.pending ≠ some (parameter, none))
    (hargument : state.trailing = true ∨ argument ≠ "--") :
    ∃ resolved, state.resolve = .ok resolved := by
  have hplace (h : state.readValue argument = .ok (.next next)) :
      ∃ resolved, state.resolve = .ok resolved := by
    unfold State.readValue at h
    split at h
    · rename_i parameter hpending htrailing
      rw [htrailing] at hasking
      exact absurd hpending (hasking.resolve_left Bool.false_ne_true parameter)
    · have hnext := eq_ok_of_map_next h
      unfold State.place at hnext
      split at hnext
      · cases hnext
      · obtain ⟨resolved, hresolve, -⟩ := bind_eq_ok_iff.mp hnext
        exact ⟨resolved, hresolve⟩
  by_cases htrails : state.trailing = true
  · rw [State.step, if_pos htrails] at hstep
    exact hplace hstep
  · have hopen : state.trailing = false := Bool.eq_false_iff.mpr htrails
    rcases argument_cases argument with
      rfl | ⟨text, hne, htext⟩ | ⟨letter, rest, hletter, htext⟩ | hvalue
    · exact absurd rfl (hargument.resolve_left htrails)
    · rw [step_long parameters hopen hne htext] at hstep
      exact (longStep_of_readLong hstep).exists_resolve
    · rw [step_short parameters hopen hletter htext] at hstep
      exact absurd hstep (readShort_ne_next state next letter)
    · rw [step_value parameters hopen hvalue] at hstep
      exact hplace hstep

end Steps

/-! ## Requests for the version and for help -/

section Requests

variable {parameters : List (Parameter α)} {state : State α} {argument : String}

/-- A step that ends a reading without values. -/
def Step.IsShown : Step α → Prop
  | .next _ => False
  | .version => True
  | .help => True

/-- A reading is finished once what waits is stored. -/
theorem finishWith_eq_ok_iff {outcome ended : Step α} :
    state.finishWith outcome = .ok ended ↔
      (∃ resolved, state.resolve = .ok resolved) ∧ ended = outcome := by
  rw [State.finishWith, bind_eq_ok_iff]
  constructor
  · rintro ⟨resolved, hresolve, ⟨⟩⟩
    exact ⟨⟨resolved, hresolve⟩, rfl⟩
  · rintro ⟨⟨resolved, hresolve⟩, rfl⟩
    exact ⟨resolved, hresolve, rfl⟩

/-- A reading that goes on tells of nothing. -/
theorem not_shown_of_map_next {reading : Except UsageFault (State α)} {outcome : Step α}
    (hreading : reading.map .next = .ok outcome) : ¬outcome.IsShown := by
  cases reading with
  | error fault => cases hreading
  | ok next =>
      cases hreading
      exact not_false

/-- A letter ends a reading if it is one of two. -/
theorem readShort_shown_iff {letter : Char} :
    (∃ outcome, state.readShort letter = .ok outcome ∧ outcome.IsShown) ↔
      (letter = 'V' ∨ letter = 'h') ∧ ∃ resolved, state.resolve = .ok resolved := by
  unfold State.readShort
  by_cases hversion : letter = 'V'
  · simp [hversion, finishWith_eq_ok_iff, Step.IsShown]
  · by_cases hhelp : letter = 'h'
    · simp [hhelp, finishWith_eq_ok_iff, Step.IsShown]
    · simp [hversion, hhelp]

/-- A long argument ends a reading if it is one of two names. -/
theorem readLong_shown_iff (h : WellNamed parameters) {text : List Char} :
    (∃ outcome, state.readLong parameters text = .ok outcome ∧ outcome.IsShown) ↔
      (text = "version".toList ∨ text = "help".toList) ∧
        ∃ resolved, state.resolve = .ok resolved := by
  constructor
  · rintro ⟨outcome, hread, hshown⟩
    unfold State.readLong at hread
    rcases hsplit : splitEquals text with ⟨name, attached⟩
    simp only [hsplit] at hread
    split at hread
    · split at hread
      · exact absurd hshown (not_shown_of_map_next hread)
      · cases hread
    · split at hread
      · obtain ⟨resolved, -, hnext⟩ := bind_eq_ok_iff.mp hread
        cases hnext
        cases hshown
      · exact absurd hshown (not_shown_of_map_next hread)
    · split at hread
      · rename_i hname
        split at hread
        · cases hread
        · obtain ⟨hresolve, -⟩ := finishWith_eq_ok_iff.mp hread
          obtain ⟨rfl, -⟩ := splitEquals_eq_none_iff.mp hsplit
          rw [Bool.or_eq_true, decide_eq_true_iff, decide_eq_true_iff, ← String.toList_inj,
            ← String.toList_inj, String.toList_ofList] at hname
          exact ⟨hname, hresolve⟩
      · cases hread
  · rintro ⟨hname, hresolve⟩
    have hattached : '=' ∉ text := by
      rcases hname with rfl | rfl <;> decide
    have hsplit := splitEquals_eq_none_iff.mpr ⟨rfl, hattached⟩
    have hname' : String.ofList text = "version" ∨ String.ofList text = "help" := by
      rwa [← String.toList_inj, ← String.toList_inj, String.toList_ofList]
    have hfree : parameters.find? (fun parameter => parameter.long == some (String.ofList text)) =
        none := by
      rw [List.find?_eq_none]
      intro parameter hknown
      rw [beq_iff_eq]
      rcases hname' with hname | hname
      · rw [hname]
        exact (h.free parameter hknown).1
      · rw [hname]
        exact (h.free parameter hknown).2
    simp only [State.readLong, hsplit, hfree]
    rw [if_pos (by simpa using hname')]
    refine ⟨_, finishWith_eq_ok_iff.mpr ⟨hresolve, rfl⟩, ?_⟩
    split <;> trivial

/-- A long argument asks a command to tell of itself under one of two names. -/
theorem isRequest_long_iff {text : List Char} (htext : argument.toList = '-' :: '-' :: text) :
    IsRequest argument ↔ text = "version".toList ∨ text = "help".toList := by
  constructor
  · rintro (rfl | rfl | ⟨rest, hrest⟩ | ⟨rest, hrest⟩)
    · exact .inl (by simpa using htext.symm)
    · exact .inr (by simpa using htext.symm)
    · simp [htext] at hrest
    · simp [htext] at hrest
  · rintro (rfl | rfl)
    · exact .version (String.toList_injective htext)
    · exact .help (String.toList_injective htext)

/-- A letter asks a command to tell of itself if it is one of two. -/
theorem isRequest_short_iff {letter : Char} {rest : List Char} (hletter : letter ≠ '-')
    (htext : argument.toList = '-' :: letter :: rest) :
    IsRequest argument ↔ letter = 'V' ∨ letter = 'h' := by
  constructor
  · rintro (rfl | rfl | ⟨rest, hrest⟩ | ⟨rest, hrest⟩)
    · simp [eq_comm, hletter] at htext
    · simp [eq_comm, hletter] at htext
    · exact .inl (by simp_all [eq_comm])
    · exact .inr (by simp_all [eq_comm])
  · rintro (rfl | rfl)
    · exact .versionLetter rest htext
    · exact .helpLetter rest htext

/-- A value asks for nothing. -/
theorem not_isRequest_of_isValue (hvalue : IsValue argument) : ¬IsRequest argument := by
  rintro (rfl | rfl | ⟨rest, hrest⟩ | ⟨rest, hrest⟩)
  · exact hvalue _ _ rfl
  · exact hvalue _ _ rfl
  · exact hvalue _ _ hrest
  · exact hvalue _ _ hrest

/-- A value ends no reading. -/
theorem not_shown_of_readValue {outcome : Step α} (hread : state.readValue argument = .ok outcome) :
    ¬outcome.IsShown := by
  unfold State.readValue at hread
  split at hread
  · cases hread
    exact not_false
  · exact not_shown_of_map_next hread

/-- An argument ends a reading if it asks a command to tell of itself and what waits can be
stored. -/
theorem step_shown_iff (h : WellNamed parameters) (hopen : state.trailing = false) :
    (∃ outcome, state.step parameters argument = .ok outcome ∧ outcome.IsShown) ↔
      IsRequest argument ∧ ∃ resolved, state.resolve = .ok resolved := by
  rcases argument_cases argument with
    rfl | ⟨text, hne, htext⟩ | ⟨letter, rest, hletter, htext⟩ | hvalue
  · rw [step_hyphens parameters hopen]
    constructor
    · rintro ⟨outcome, ⟨⟩, ⟨⟩⟩
    · rintro ⟨hrequest, -⟩
      rcases (isRequest_long_iff rfl).mp hrequest with htext | htext <;> cases htext
  · rw [step_long parameters hopen hne htext, readLong_shown_iff h, isRequest_long_iff htext]
  · rw [step_short parameters hopen hletter htext, readShort_shown_iff,
      isRequest_short_iff hletter htext]
  · rw [step_value parameters hopen hvalue]
    constructor
    · rintro ⟨outcome, hread, hshown⟩
      exact absurd hshown (not_shown_of_readValue hread)
    · rintro ⟨hrequest, -⟩
      exact absurd hrequest (not_isRequest_of_isValue hvalue)

/-- How the rest is read changes with two hyphens alone. -/
theorem trailing_of_step {next : State α}
    (hstep : state.step parameters argument = .ok (.next next))
    (hargument : state.trailing = true ∨ argument ≠ "--") : next.trailing = state.trailing := by
  have hgive {parameter : Parameter α} {text : String} (h : state.give parameter text = .ok next) :
      next.trailing = state.trailing := by
    obtain ⟨resolved, hresolve, hstore⟩ := bind_eq_ok_iff.mp h
    exact (State.frame_of_resolve hstore).2.2.trans (State.frame_of_resolve hresolve).2.2
  have hvalue (h : state.readValue argument = .ok (.next next)) :
      next.trailing = state.trailing := by
    unfold State.readValue at h
    split at h
    · cases h
      rfl
    · have hplace := eq_ok_of_map_next h
      unfold State.place at hplace
      split at hplace
      · cases hplace
      · obtain ⟨resolved, hresolve, ⟨⟩⟩ := bind_eq_ok_iff.mp hplace
        exact (State.frame_of_resolve hresolve).2.2
  by_cases htrails : state.trailing = true
  · rw [State.step, if_pos htrails] at hstep
    exact hvalue hstep
  · have hopen : state.trailing = false := Bool.eq_false_iff.mpr htrails
    rcases argument_cases argument with
      rfl | ⟨text, hne, htext⟩ | ⟨letter, rest, hletter, htext⟩ | hvalued
    · exact absurd rfl (hargument.resolve_left htrails)
    · rw [step_long parameters hopen hne htext] at hstep
      cases longStep_of_readLong hstep with
      | flag parameter long hknown hlong hvalue hname h => exact hgive h
      | attached parameter long value hknown hlong hvalue hname h => exact hgive h
      | ask parameter long hknown hlong hvalue hname resolved hresolve hnext =>
          subst hnext
          exact (State.frame_of_resolve hresolve).2.2
    · rw [step_short parameters hopen hletter htext] at hstep
      exact absurd hstep (readShort_ne_next state next letter)
    · rw [step_value parameters hopen hvalued] at hstep
      exact hvalue hstep

end Requests

end Arguments
end Command
end IndexBench
