import IndexBench.Proofs.Command.Reading
import Mathlib.Data.List.Induction

/-!
# Synopses and readers

A reader whose parameters are those of a synopsis reads arguments as the values that they ask for.
It refuses arguments that ask for no values, unless they ask the command to tell of itself.

Main results:

- Theorem `Synopsis.Describes.takes_iff`: texts can be stored if they are given to different names
  and some values hold them.
- Theorem `Synopsis.Describes.read_eq_values_iff`: which values arguments are read as.
- Theorem `Synopsis.Describes.read_shown_iff`: when a command tells of itself.
-/

namespace IndexBench
namespace Command

open Arguments

variable {α : Type}

/-! ## Names that are given -/

/-- What is given is given to flags, options and places. -/
theorem Spelled.known {flags options places arguments : List String}
    {given : List (String × String)} (h : Spelled flags options places arguments given) :
    ∀ assigned ∈ given, assigned.1 ∈ flags ∨ assigned.1 ∈ options ∨ assigned.1 ∈ places := by
  induction h with
  | nil => exact List.forall_mem_nil _
  | flag hname _ ih => exact List.forall_mem_cons.mpr ⟨.inl hname, ih⟩
  | attached hname _ ih => exact List.forall_mem_cons.mpr ⟨.inr (.inl hname), ih⟩
  | separate hname _ _ ih => exact List.forall_mem_cons.mpr ⟨.inr (.inl hname), ih⟩
  | place _ _ ih =>
      refine List.forall_mem_cons.mpr ⟨.inr (.inr List.mem_cons_self), fun assigned hassigned => ?_⟩
      exact (ih assigned hassigned).imp_right (.imp_right (List.mem_cons_of_mem _))
  | trailing _ =>
      intro assigned hassigned
      exact .inr (.inr (List.of_mem_zip hassigned).1)

namespace Arguments

/-- Texts are stored in two parts as they are stored at once. -/
theorem takes_append {values values' : α} {stored stored' : List String}
    {given more : List (Assignment α)} :
    Takes values stored (given ++ more) values' stored' ↔
      ∃ middle between, Takes values stored given middle between ∧
        Takes middle between more values' stored' := by
  induction given generalizing values stored with
  | nil =>
      constructor
      · intro hmore
        exact ⟨values, stored, takes_nil.mpr ⟨rfl, rfl⟩, hmore⟩
      · rintro ⟨middle, between, hnothing, hmore⟩
        obtain ⟨rfl, rfl⟩ := takes_nil.mp hnothing
        exact hmore
  | cons assignment given ih =>
      rw [List.cons_append, takes_cons]
      simp only [takes_cons, ih]
      constructor
      · rintro ⟨hnew, first, hfirst, middle, between, hgiven, hmore⟩
        exact ⟨middle, between, ⟨hnew, first, hfirst, hgiven⟩, hmore⟩
      · rintro ⟨middle, between, ⟨hnew, first, hfirst, hgiven⟩, hmore⟩
        exact ⟨hnew, first, hfirst, middle, between, hgiven, hmore⟩

end Arguments

/-! ## Look-ups -/

/-- Nothing is found under a name that is not given. -/
theorem lookup_eq_none_iff_notMem {given : List (String × String)} {name : String} :
    given.lookup name = none ↔ name ∉ given.map Prod.fst := by
  simp only [List.lookup_eq_none_iff, bne_iff_ne, List.mem_map, not_exists, not_and, ne_comm, ne_eq]

/-- A name that is given has a text, whatever stands in for others. -/
theorem exists_lookup_append {given : List (String × String)} {name : String}
    (h : name ∈ given.map Prod.fst) (more : List (String × String)) :
    ∃ text, (given ++ more).lookup name = some text := by
  cases hgiven : (given ++ more).lookup name with
  | some text => exact ⟨text, rfl⟩
  | none =>
      refine absurd ?_ (lookup_eq_none_iff_notMem.mp hgiven)
      rw [List.map_append]
      exact List.mem_append_left _ h

/-- Values that are asked for hold a text under each place. -/
theorem Synopsis.Asks.exists_texts {synopsis : Synopsis α} {environment : Variables}
    {arguments : List String} {values : α} (h : synopsis.Asks environment arguments values) :
    ∃ texts : String → Option String, synopsis.Holds texts values ∧
      ∀ place ∈ synopsis.places, ∃ text, texts place = some text := by
  obtain ⟨given, -, hplaces, hholds⟩ := h
  exact ⟨_, hholds, fun place hplace => exists_lookup_append (hplaces place hplace) _⟩

/-- A name that is given last is looked up as such. -/
theorem lookup_concat {given : List (String × String)} {name text : String}
    (hnew : name ∉ given.map Prod.fst) :
    (fun key => (given ++ [(name, text)]).lookup key) =
      Function.update (fun key => given.lookup key) name (some text) := by
  funext key
  rw [List.lookup_append, List.lookup_cons]
  by_cases hkey : key = name
  · subst hkey
    simp [lookup_eq_none_iff_notMem.mpr hnew]
  · have hne : (key == name) = false := beq_eq_false_iff_ne.mpr hkey
    rw [hne, Function.update_of_ne hkey]
    simp

/-- The names of a list that are not given, with their texts. -/
def missingFrom (given more : List (String × String)) : List (String × String) :=
  more.filter fun assigned => assigned.1 ∉ given.map Prod.fst

/-- What stands in for a name does not count if the name is given. -/
theorem lookup_append_missingFrom (given more : List (String × String)) :
    (fun key => (given ++ missingFrom given more).lookup key) =
      fun key => (given ++ more).lookup key := by
  funext key
  rw [List.lookup_append, List.lookup_append]
  cases hgiven : given.lookup key with
  | some text => rfl
  | none =>
      have hnew := lookup_eq_none_iff_notMem.mp hgiven
      rw [Option.none_or, Option.none_or, missingFrom]
      induction more with
      | nil => rfl
      | cons assigned more ih =>
          obtain ⟨name, text⟩ := assigned
          rw [List.filter_cons, List.lookup_cons]
          by_cases hkey : key = name
          · subst hkey
            simp [hnew]
          · have hne : (key == name) = false := beq_eq_false_iff_ne.mpr hkey
            rw [hne, ← ih]
            split
            · rw [List.lookup_cons, hne]
            · rfl

/-- Names that are given once are still given once together with those that are missing. -/
theorem nodup_append_missingFrom_iff {given more : List (String × String)}
    (hmore : (more.map Prod.fst).Nodup) :
    ((given ++ missingFrom given more).map Prod.fst).Nodup ↔ (given.map Prod.fst).Nodup := by
  rw [List.map_append, List.nodup_append]
  constructor
  · rintro ⟨hgiven, -, -⟩
    exact hgiven
  · intro hgiven
    refine ⟨hgiven, hmore.sublist (List.filter_sublist.map _), ?_⟩
    rintro name hname _ hmissing rfl
    obtain ⟨assigned, hassigned, rfl⟩ := List.mem_map.mp hmissing
    have hnew := (List.mem_filter.mp hassigned).2
    simp only [decide_eq_true_eq] at hnew
    exact hnew hname

/-! ## Storing what is given -/

section Storing

variable {parameters : List (Parameter α)} (h : WellNamed parameters)
  {given : List (String × String)}
include h

/-- A parameter is stored exactly if its name is given. -/
theorem label_mem_assignments_iff {parameter : Parameter α} (hknown : parameter ∈ parameters) :
    parameter.label ∈ (assignments parameters given).map Assignment.label ↔
      parameter.key ∈ given.map Prod.fst := by
  constructor
  · intro hmem
    obtain ⟨⟨other, text⟩, hassigned, hlabel⟩ := List.mem_map.mp hmem
    obtain ⟨⟨name, text'⟩, hgiven, hfound⟩ := List.mem_filterMap.mp hassigned
    obtain ⟨found, hfind, heq⟩ := Option.map_eq_some_iff.mp hfound
    cases heq
    have hother : other = parameter :=
      List.inj_on_of_nodup_map h.labels (List.mem_of_find?_eq_some hfind) hknown hlabel
    have hname := List.find?_some hfind
    rw [beq_iff_eq] at hname
    rw [← hother, hname]
    exact List.mem_map_of_mem hgiven
  · intro hmem
    obtain ⟨⟨name, text⟩, hgiven, rfl⟩ := List.mem_map.mp hmem
    refine List.mem_map.mpr ⟨(parameter, text), List.mem_filterMap.mpr ⟨_, hgiven, ?_⟩, rfl⟩
    rw [h.find?_key hknown]
    rfl

omit h in
/-- What is given in two parts is given at once. -/
theorem assignments_append {more : List (String × String)} :
    assignments parameters (given ++ more) =
      assignments parameters given ++ assignments parameters more :=
  List.filterMap_append

/-- The labels of what is stored are those of the names that are given. -/
theorem label_mem_stored_iff {parameter : Parameter α} (hknown : parameter ∈ parameters)
    {defaults values : α} {stored : List String}
    (htakes : Takes defaults [] (assignments parameters given) values stored) :
    parameter.label ∈ stored ↔ parameter.key ∈ given.map Prod.fst := by
  rw [htakes.labels, List.append_nil, List.mem_reverse, label_mem_assignments_iff h hknown]

/-- What the environment gives is what it supplies for the names that are not given. -/
theorem dueFrom_eq {environment : Variables} {stored : List String}
    (hstored : ∀ parameter ∈ parameters,
      (parameter.label ∈ stored ↔ parameter.key ∈ given.map Prod.fst))
    {rest : List (Parameter α)} (hrest : ∀ parameter ∈ rest, parameter ∈ parameters) :
    dueFrom environment rest stored = assignments parameters (missingFrom given
      ((rest.filterMap fun parameter => parameter.environment.map (parameter.key, ·)).filterMap
        fun fallback => (environment fallback.2).map (fallback.1, ·))) := by
  unfold missingFrom
  induction rest with
  | nil => rfl
  | cons parameter rest ih =>
      obtain ⟨hknown, hrest⟩ := List.forall_mem_cons.mp hrest
      have hsame := hstored parameter hknown
      rw [dueFrom, List.filterMap_cons, ← dueFrom, List.filterMap_cons]
      cases hfallback : parameter.environment with
      | none => simpa using ih hrest
      | some name =>
          rw [Option.map_some, List.filterMap_cons, Option.bind_some]
          cases hvariable : environment name with
          | none => simpa [hvariable] using ih hrest
          | some text =>
              by_cases hgiven : parameter.key ∈ given.map Prod.fst
              · rw [if_pos (hsame.mpr hgiven)]
                simpa [hvariable, hgiven] using ih hrest
              · rw [if_neg (mt hsame.mp hgiven)]
                simp only [Option.map_some]
                rw [List.filter_cons_of_pos (by simpa using hgiven), assignments_cons h hknown,
                  ih hrest]

end Storing

namespace Synopsis.Describes

variable {synopsis : Synopsis α} {parameters : List (Parameter α)} {defaults : α}
  (h : synopsis.Describes parameters defaults)
include h

/-- Texts can be stored exactly if they are given to different names and some values hold them. -/
theorem takes_iff {given : List (String × String)} {values : α}
    (hknown : ∀ assigned ∈ given, ∃ parameter ∈ parameters, parameter.key = assigned.1) :
    (∃ stored, Takes defaults [] (assignments parameters given) values stored) ↔
      (given.map Prod.fst).Nodup ∧ synopsis.Holds (fun name => given.lookup name) values := by
  induction given using List.reverseRecOn generalizing values with
  | nil =>
      have hnone : (fun name => ([] : List (String × String)).lookup name) = fun _ => none := rfl
      rw [hnone, h.defaults]
      constructor
      · rintro ⟨stored, htakes⟩
        exact ⟨.nil, (takes_nil.mp htakes).1⟩
      · rintro ⟨-, rfl⟩
        exact ⟨[], takes_nil.mpr ⟨rfl, rfl⟩⟩
  | append_singleton given assigned ih =>
      obtain ⟨name, text⟩ := assigned
      obtain ⟨parameter, hparameter, rfl⟩ := hknown (name, text) (by simp)
      have hbefore := fun {values} => @ih values fun assigned hassigned =>
        hknown assigned (List.mem_append_left _ hassigned)
      have hsplit : assignments parameters (given ++ [(parameter.key, text)]) =
          assignments parameters given ++ [(parameter, text)] := by
        rw [assignments, List.filterMap_append]
        exact congrArg _ (assignments_cons h.named hparameter text [])
      have hnodup : ((given ++ [(parameter.key, text)]).map Prod.fst).Nodup ↔
          parameter.key ∉ given.map Prod.fst ∧ (given.map Prod.fst).Nodup := by
        rw [List.map_append, List.map_singleton, ← List.nodup_cons]
        exact List.perm_append_singleton _ _ |>.nodup_iff
      rw [hsplit, hnodup]
      constructor
      · rintro ⟨stored, htakes⟩
        obtain ⟨middle, between, hgiven, hlast⟩ := takes_append.mp htakes
        obtain ⟨hnew, first, hfirst, hnothing⟩ := takes_cons.mp hlast
        obtain ⟨rfl, -⟩ := takes_nil.mp hnothing
        have hkey := mt (label_mem_stored_iff h.named hparameter hgiven).mpr hnew
        obtain ⟨hnodup, hholds⟩ := hbefore.mp ⟨between, hgiven⟩
        rw [lookup_concat hkey]
        exact ⟨⟨hkey, hnodup⟩, (h.store parameter hparameter _ text values
          (lookup_eq_none_iff_notMem.mpr hkey)).mpr ⟨middle, hholds, store_eq_ok_iff.mp hfirst⟩⟩
      · rintro ⟨⟨hkey, hnodup⟩, hholds⟩
        rw [lookup_concat hkey] at hholds
        obtain ⟨middle, hmiddle, hstore⟩ := (h.store parameter hparameter _ text values
          (lookup_eq_none_iff_notMem.mpr hkey)).mp hholds
        obtain ⟨between, hgiven⟩ := hbefore.mpr ⟨hnodup, hmiddle⟩
        have hnew := mt (label_mem_stored_iff h.named hparameter hgiven).mp hkey
        exact ⟨_, takes_append.mpr ⟨middle, between, hgiven,
          takes_cons.mpr ⟨hnew, values, store_eq_ok_iff.mpr hstore, takes_nil.mpr ⟨rfl, rfl⟩⟩⟩⟩

/-- What arguments give is given to parameters. -/
theorem known_of_spelled {arguments : List String} {given : List (String × String)}
    (hspelled : Spelled synopsis.flags synopsis.options synopsis.places arguments given) :
    ∀ assigned ∈ given, ∃ parameter ∈ parameters, parameter.key = assigned.1 := by
  intro assigned hassigned
  have hname := hspelled.known assigned hassigned
  rw [← h.flags, ← h.options, ← h.places] at hname
  rcases hname with hname | hname | hname
  all_goals
    obtain ⟨parameter, hmem, hkey⟩ := List.mem_map.mp hname
    exact ⟨parameter, List.mem_of_mem_filter hmem, hkey⟩

/-- What the environment supplies is given to parameters that are no places. -/
theorem known_of_supplied {environment : Variables} :
    ∀ assigned ∈ synopsis.supplied environment,
      ∃ parameter ∈ parameters, parameter.key = assigned.1 ∧ parameter.long ≠ none := by
  intro assigned hassigned
  obtain ⟨fallback, hfallback, hvalue⟩ := List.mem_filterMap.mp hassigned
  obtain ⟨text, -, rfl⟩ := Option.map_eq_some_iff.mp hvalue
  rw [← h.fallbacks] at hfallback
  obtain ⟨parameter, hknown, hname⟩ := List.mem_filterMap.mp hfallback
  obtain ⟨name, hname, rfl⟩ := Option.map_eq_some_iff.mp hname
  refine ⟨parameter, hknown, rfl, fun hlong => ?_⟩
  rw [h.placed parameter hknown hlong] at hname
  cases hname

/-- The reader of a command starts with the places of its synopsis. -/
theorem reaches_iff {arguments stored : List String} {values : α} :
    Reaches parameters
        { values := defaults
          stored := []
          pending := none
          positional := parameters.filter fun parameter => parameter.long.isNone
          trailing := false }
        arguments values stored ↔
      ∃ given, Spelled synopsis.flags synopsis.options synopsis.places arguments given ∧
        Takes defaults [] (assignments parameters given) values stored := by
  rw [reaches_iff_spelled h.named ⟨rfl, rfl, fun _ hmem => List.mem_of_mem_filter hmem⟩,
    h.flags, h.options, ← h.places]
  rfl

/-- The environment supplies every name once. -/
theorem nodup_supplied (environment : Variables) :
    ((synopsis.supplied environment).map Prod.fst).Nodup := by
  rw [Synopsis.supplied, ← h.fallbacks, List.Nodup, List.pairwise_map, List.pairwise_filterMap,
    List.pairwise_filterMap]
  refine (List.pairwise_map.mp h.named.keys).imp ?_
  intro parameter other hne fallback hfallback fallback' hfallback' assigned hassigned assigned'
    hassigned'
  obtain ⟨name, -, rfl⟩ := Option.map_eq_some_iff.mp hfallback
  obtain ⟨name', -, rfl⟩ := Option.map_eq_some_iff.mp hfallback'
  obtain ⟨text, -, rfl⟩ := Option.map_eq_some_iff.mp hassigned
  obtain ⟨text', -, rfl⟩ := Option.map_eq_some_iff.mp hassigned'
  exact hne

/-- All that is required is given exactly if no place is left open. -/
theorem required_iff {environment : Variables} {given : List (String × String)} {values : α}
    {stored : List String}
    (htakes : Takes defaults []
      (assignments parameters (given ++ missingFrom given (synopsis.supplied environment)))
      values stored) :
    (∀ parameter ∈ parameters, parameter.required = true → parameter.label ∈ stored) ↔
      ∀ place ∈ synopsis.places, place ∈ given.map Prod.fst := by
  -- nothing stands in for a place
  have hplace {parameter : Parameter α} (hknown : parameter ∈ parameters)
      (hlong : parameter.long.isNone = true) :
      parameter.label ∈ stored ↔ parameter.key ∈ given.map Prod.fst := by
    rw [label_mem_stored_iff h.named hknown htakes, List.map_append, List.mem_append,
      or_iff_left]
    intro hmissing
    obtain ⟨assigned, hassigned, hkey⟩ := List.mem_map.mp hmissing
    obtain ⟨other, hother, hname, hoption⟩ :=
      h.known_of_supplied assigned (List.mem_of_mem_filter hassigned)
    obtain rfl := List.inj_on_of_nodup_map h.named.keys hother hknown (hname.trans hkey)
    exact hoption (Option.isNone_iff_eq_none.mp hlong)
  rw [← h.places]
  simp only [placeKeys, List.mem_map, List.mem_filter, forall_exists_index, and_imp]
  constructor
  · rintro hrequired _ parameter hknown hlong rfl
    exact List.mem_map.mp ((hplace hknown hlong).mp
      (hrequired parameter hknown ((h.required parameter hknown).trans hlong)))
  · intro hplaces parameter hknown hrequired
    have hlong := (h.required parameter hknown).symm.trans hrequired
    exact (hplace hknown hlong).mpr
      (List.mem_map.mpr (hplaces _ parameter hknown hlong rfl))

/-- Arguments are read as the values that they ask for. -/
theorem read_eq_values_iff {environment : Variables} {arguments : List String} {values : α} :
    Arguments.read environment parameters defaults arguments = .ok (.values values) ↔
      synopsis.Asks environment arguments values := by
  unfold Arguments.read
  rw [readFrom_eq_values_iff h.named.labels]
  simp only [h.reaches_iff]
  -- the environment is stored after the arguments
  have hdue {given : List (String × String)} {read : α} {stored : List String}
      (htakes : Takes defaults [] (assignments parameters given) read stored) :
      dueFrom environment parameters stored =
        assignments parameters (missingFrom given (synopsis.supplied environment)) := by
    rw [dueFrom_eq h.named (fun _ hknown => label_mem_stored_iff h.named hknown htakes)
      fun _ hmem => hmem, h.fallbacks]
    rfl
  have hall {given : List (String × String)}
      (hspelled : Spelled synopsis.flags synopsis.options synopsis.places arguments given) :
      ∀ assigned ∈ given ++ missingFrom given (synopsis.supplied environment),
        ∃ parameter ∈ parameters, parameter.key = assigned.1 := by
    intro assigned hassigned
    rcases List.mem_append.mp hassigned with hgiven | hmissing
    · exact h.known_of_spelled hspelled assigned hgiven
    · obtain ⟨parameter, hknown, hkey, -⟩ :=
        h.known_of_supplied assigned (List.mem_of_mem_filter hmissing)
      exact ⟨parameter, hknown, hkey⟩
  have hholds {given : List (String × String)}
      (hspelled : Spelled synopsis.flags synopsis.options synopsis.places arguments given) :=
    @takes_iff _ _ _ _ h _ values (hall hspelled)
  simp only [nodup_append_missingFrom_iff (h.nodup_supplied environment),
    lookup_append_missingFrom] at hholds
  constructor
  · rintro ⟨read, stored, ⟨given, hspelled, hread⟩, stored', hadded, hrequired⟩
    rw [hdue hread] at hadded
    have htakes := takes_append.mpr ⟨read, stored, hread, hadded⟩
    rw [← assignments_append] at htakes
    obtain ⟨hnodup, hvalues⟩ := (hholds hspelled).mp ⟨stored', htakes⟩
    exact ⟨given, ⟨hspelled, hnodup⟩, (h.required_iff htakes).mp hrequired, hvalues⟩
  · rintro ⟨given, ⟨hspelled, hnodup⟩, hplaces, hvalues⟩
    obtain ⟨stored', htakes⟩ := (hholds hspelled).mpr ⟨hnodup, hvalues⟩
    have hrequired := (h.required_iff htakes).mpr hplaces
    rw [assignments_append] at htakes
    obtain ⟨read, stored, hread, hadded⟩ := takes_append.mp htakes
    rw [← hdue hread] at hadded
    exact ⟨read, stored, ⟨given, hspelled, hread⟩, stored', hadded, hrequired⟩

/-- A command tells of itself exactly if its arguments ask for that. -/
theorem read_shown_iff {environment : Variables} {arguments : List String} :
    (∃ outcome, Arguments.read environment parameters defaults arguments = .ok outcome ∧
        outcome.IsShown) ↔ synopsis.AsksAboutItself arguments := by
  unfold Arguments.read
  rw [readFrom_shown_iff h.named rfl]
  simp only [h.reaches_iff]
  constructor
  · rintro ⟨before, request, after, values, stored, hsplit, hnone, hrequest, given, hspelled,
      htakes⟩
    obtain ⟨hnodup, hholds⟩ := (h.takes_iff (h.known_of_spelled hspelled)).mp ⟨stored, htakes⟩
    exact ⟨before, request, after, given, values, hsplit, hnone, hrequest, ⟨hspelled, hnodup⟩,
      hholds⟩
  · rintro ⟨before, request, after, given, values, hsplit, hnone, hrequest, ⟨hspelled, hnodup⟩,
      hholds⟩
    obtain ⟨stored, htakes⟩ := (h.takes_iff (h.known_of_spelled hspelled)).mpr ⟨hnodup, hholds⟩
    exact ⟨before, request, after, values, stored, hsplit, hnone, hrequest, given, hspelled, htakes⟩

end Synopsis.Describes

end Command
end IndexBench
