import IndexBench.Proofs.Run.Completeness

/-!
# Transcripts

Between the two reports of its configuration a run writes a line for each measurement,
and a blank line at the end of each repetition.

Main definitions:

- `Entry` is one of these lines, and `transcript` all of them.
- `lineEnds` says where the lines of measurements end.
- `finishedBy` is the measurements whose lines end by a given place.

Main results:

- Theorem `Plan.body_transcribes`: a session writes the transcript of what it measures,
  and on a console with too little room it measures what the console has shown in full.
-/

namespace IndexBench

open Script

/-! ## Entries -/

/-- A line between the two reports of a run. -/
inductive Entry where
  | measured (measurement : Measurement)
  /-- Ends a repetition. -/
  | blank
  deriving DecidableEq, Repr

/-- The text of an entry. -/
def Entry.text : Entry → String
  | .measured measurement => measurement.reading.line measurement.query
  | .blank => "\n"

/-- The measurement of an entry, if it is one. -/
def Entry.measurement? : Entry → Option Measurement
  | .measured measurement => some measurement
  | .blank => none

/-- The text of entries. -/
def entriesText (entries : List Entry) : String :=
  String.join (entries.map Entry.text)

/-- Number of bytes of entries. -/
def entriesSize (entries : List Entry) : Nat :=
  (Utf8.encode (entriesText entries)).length

/-- The entries of some repetitions, from the given one on: in each of them those of its
measurements, and a blank one. -/
def transcript (measurements : List Measurement) (repetition times : Nat) : List Entry :=
  (List.range' repetition times).flatMap fun repetition =>
    (measurements.filter fun measurement => measurement.repetition == repetition).map
      Entry.measured ++ [.blank]

/-- No entries have no text. -/
@[simp]
theorem entriesText_nil : entriesText [] = "" :=
  rfl

/-- The first entry is written first. -/
theorem entriesText_cons (entry : Entry) (entries : List Entry) :
    entriesText (entry :: entries) = entry.text ++ entriesText entries := by
  rw [entriesText, List.map_cons, String.join_cons]
  rfl

/-- Entries in a row are written one after the other. -/
theorem entriesText_append (entries others : List Entry) :
    entriesText (entries ++ others) = entriesText entries ++ entriesText others := by
  rw [entriesText, List.map_append, String.join_append]
  rfl

/-- The first entry takes its own bytes. -/
theorem entriesSize_cons (entry : Entry) (entries : List Entry) :
    entriesSize (entry :: entries) = (Utf8.encode entry.text).length + entriesSize entries := by
  rw [entriesSize, entriesText_cons, Utf8.encode_append, List.length_append]
  rfl

/-- Entries in a row take the bytes of each. -/
theorem entriesSize_append (entries others : List Entry) :
    entriesSize (entries ++ others) = entriesSize entries + entriesSize others := by
  rw [entriesSize, entriesText_append, Utf8.encode_append, List.length_append]
  rfl

/-- The measurements of other repetitions are no part of a transcript. -/
theorem transcript_append_of_lt {earlier : List Measurement} {repetition : Nat}
    (h : ∀ measurement ∈ earlier, measurement.repetition < repetition)
    (later : List Measurement) (times : Nat) :
    transcript (earlier ++ later) repetition times = transcript later repetition times := by
  rw [transcript, transcript, List.flatMap_def, List.flatMap_def]
  refine congrArg List.flatten (List.map_congr_left fun this hthis => ?_)
  have hfrom : repetition ≤ this := (List.mem_range'_1.mp hthis).1
  have hearlier : earlier.filter (fun measurement => measurement.repetition == this) = [] := by
    rw [List.filter_eq_nil_iff]
    intro measurement hmeasurement
    have hlt := h measurement hmeasurement
    rw [beq_iff_eq]
    omega
  rw [List.filter_append, hearlier, List.nil_append]

/-- A transcript starts with its first repetition. -/
theorem transcript_succ {first later : List Measurement} {repetition : Nat}
    (hfirst : ∀ measurement ∈ first, measurement.repetition = repetition)
    (hlater : ∀ measurement ∈ later, repetition < measurement.repetition) (times : Nat) :
    transcript (first ++ later) repetition (times + 1) =
      (first.map Entry.measured ++ [.blank]) ++ transcript later (repetition + 1) times := by
  have hthis : (first ++ later).filter
      (fun measurement => measurement.repetition == repetition) = first := by
    rw [List.filter_append, List.filter_eq_self.mpr, List.filter_eq_nil_iff.mpr,
      List.append_nil]
    · intro measurement hmeasurement
      have hlt := hlater measurement hmeasurement
      rw [beq_iff_eq]
      omega
    · intro measurement hmeasurement
      rw [beq_iff_eq]
      exact hfirst measurement hmeasurement
  have hearlier : ∀ measurement ∈ first, measurement.repetition < repetition + 1 := by
    intro measurement hmeasurement
    rw [hfirst measurement hmeasurement]
    exact Nat.lt_succ_self repetition
  rw [← transcript_append_of_lt hearlier later times]
  unfold transcript
  rw [List.range'_succ, List.flatMap_cons, hthis]

/-! ## Finished lines -/

/-- The measurements of entries from a given place on, each with the place where its
line ends. -/
def lineEnds : Nat → List Entry → List (Measurement × Nat)
  | _, [] => []
  | start, entry :: entries =>
      let stop := start + (Utf8.encode entry.text).length
      (entry.measurement?.map fun measurement => (measurement, stop)).toList ++
        lineEnds stop entries

/-- The measurements of entries from `start` on whose lines end by `stop`. -/
def finishedBy (stop start : Nat) (entries : List Entry) : List Measurement :=
  ((lineEnds start entries).filter fun line => line.2 ≤ stop).map Prod.fst

/-- Entries in a row lie one behind the other. -/
theorem lineEnds_append (start : Nat) (entries others : List Entry) :
    lineEnds start (entries ++ others) =
      lineEnds start entries ++ lineEnds (start + entriesSize entries) others := by
  induction entries generalizing start with
  | nil => rfl
  | cons entry entries ih =>
      rw [List.cons_append, lineEnds, lineEnds, ih, entriesSize_cons, Nat.add_assoc,
        List.append_assoc]

/-- A line ends after its start. -/
theorem le_of_mem_lineEnds {start : Nat} {entries : List Entry} {line : Measurement × Nat}
    (h : line ∈ lineEnds start entries) : start ≤ line.2 := by
  induction entries generalizing start with
  | nil => cases h
  | cons entry entries ih =>
      rcases List.mem_append.mp h with hfirst | hlater
      · obtain ⟨measurement, -, rfl⟩ := Option.map_eq_some_iff.mp (Option.mem_toList.mp hfirst)
        exact Nat.le_add_right _ _
      · exact Nat.le_trans (Nat.le_add_right _ _) (ih hlater)

/-- A line ends by the end of all entries. -/
theorem lineEnds_le {start : Nat} {entries : List Entry} {line : Measurement × Nat}
    (h : line ∈ lineEnds start entries) : line.2 ≤ start + entriesSize entries := by
  induction entries generalizing start with
  | nil => cases h
  | cons entry entries ih =>
      rw [entriesSize_cons, ← Nat.add_assoc]
      rcases List.mem_append.mp h with hfirst | hlater
      · obtain ⟨measurement, -, rfl⟩ := Option.map_eq_some_iff.mp (Option.mem_toList.mp hfirst)
        exact Nat.le_add_right _ _
      · exact ih hlater

/-- The measurements with a line are those of the entries. -/
theorem map_fst_lineEnds (start : Nat) (entries : List Entry) :
    (lineEnds start entries).map Prod.fst = entries.filterMap Entry.measurement? := by
  induction entries generalizing start with
  | nil => rfl
  | cons entry entries ih =>
      rw [lineEnds, List.map_append, ih, List.filterMap_cons]
      cases entry.measurement? <;> rfl

/-- What is finished of entries in a row is what is finished of each. -/
theorem finishedBy_append (stop start : Nat) (entries others : List Entry) :
    finishedBy stop start (entries ++ others) =
      finishedBy stop start entries ++
        finishedBy stop (start + entriesSize entries) others := by
  rw [finishedBy, lineEnds_append, List.filter_append, List.map_append]
  rfl

/-- Nothing is finished before it starts. -/
theorem finishedBy_eq_nil {stop start : Nat} (h : stop < start) (entries : List Entry) :
    finishedBy stop start entries = [] := by
  rw [finishedBy, List.map_eq_nil_iff, List.filter_eq_nil_iff]
  intro line hline
  have hstart := le_of_mem_lineEnds hline
  rw [decide_eq_true_eq]
  omega

/-- Everything is finished in the end. -/
theorem finishedBy_of_le {stop start : Nat} {entries : List Entry}
    (h : start + entriesSize entries ≤ stop) :
    finishedBy stop start entries = entries.filterMap Entry.measurement? := by
  rw [finishedBy, List.filter_eq_self.mpr, map_fst_lineEnds]
  intro line hline
  have hstop := lineEnds_le hline
  rw [decide_eq_true_eq]
  omega

/-- If the first entry does not end in time nothing is finished. -/
theorem finishedBy_cons_eq_nil {stop start : Nat} (entry : Entry) (entries : List Entry)
    (h : stop < start + (Utf8.encode entry.text).length) :
    finishedBy stop start (entry :: entries) = [] := by
  have hlater := finishedBy_eq_nil h entries
  rw [finishedBy] at hlater ⊢
  cases entry with
  | blank => exact hlater
  | measured measurement =>
      have hends : lineEnds start (.measured measurement :: entries) =
          (measurement, start + (Utf8.encode (Entry.measured measurement).text).length) ::
            lineEnds (start + (Utf8.encode (Entry.measured measurement).text).length)
              entries := rfl
      rw [hends, List.filter_cons_of_neg (by rw [decide_eq_true_eq]; omega)]
      exact hlater

/-- The entries of measurements are those of these measurements. -/
theorem filterMap_measured (measurements : List Measurement) :
    (measurements.map Entry.measured).filterMap Entry.measurement? = measurements := by
  rw [List.filterMap_map]
  exact List.filterMap_some

/-! ## Writing entries -/

/-- Writes an entry and measures what it says. -/
def enter (entry : Entry) : Script (List Measurement × Except IoFault Unit) := do
  match ← write entry.text with
  | .error fault => return ([], .error fault)
  | .ok () => return (entry.measurement?.toList, .ok ())

/-- Measures with one script and then, unless the console has ended it, with another. -/
def followedBy (first next : Script (List Measurement × Except IoFault Unit)) :
    Script (List Measurement × Except IoFault Unit) := do
  match ← first with
  | (measurements, .error fault) => return (measurements, .error fault)
  | (measurements, .ok ()) =>
      let (later, written) ← next
      return (measurements ++ later, written)

/-- Whether a script writes entries and measures what they say: all of them on a console
that takes everything, and on any other it measures what is finished. -/
structure Transcribes {σ : Type} (env : Environment σ)
    (script : Script (List Measurement × Except IoFault Unit)) (world : World σ)
    (entries : List Entry) : Prop where
  result : (script.run env world).1 = (entries.filterMap Entry.measurement?, .ok ())
  printed : script.printed env world = entriesText entries
  cut : ∀ room < entriesSize entries, ∀ start,
    (script.run env (world.limit room)).1 =
      (finishedBy (start + room) start entries, .error Console.full)

namespace Transcribes

variable {σ : Type} {env : Environment σ} {world : World σ}
  {first next : Script (List Measurement × Except IoFault Unit)} {entries others : List Entry}

/-- A script writes as many bytes as its entries take. -/
theorem printedSize_eq (h : Transcribes env first world entries) :
    first.printedSize env world = entriesSize entries := by
  rw [printedSize, h.printed]
  rfl

/-- A script that does nothing writes no entries. -/
theorem nothing : Transcribes env (pure ([], .ok ())) world [] where
  result := rfl
  printed := rfl
  cut room hroom := absurd hroom (Nat.not_lt_zero room)

/-- An entry is written and measured at once, or not at all. -/
theorem enter (hworld : world.Unlimited) (entry : Entry) :
    Transcribes env (enter entry) world [entry] where
  result := by
    simp only [IndexBench.enter, run_bind, run_write env _ hworld, run_pure]
    cases entry <;> rfl
  printed := by
    simp only [IndexBench.enter, printed_bind, printed_write env _ hworld,
      run_write env _ hworld, printed_pure, entriesText_cons, entriesText_nil]
  cut room hroom start := by
    rw [entriesSize_cons] at hroom
    have hlong : room < (Utf8.encode entry.text).length := hroom
    have hlimited : (write entry.text).run env (world.limit room) = _ :=
      World.perform_write_limit_of_lt hlong env world
    rw [finishedBy_cons_eq_nil entry [] (Nat.add_lt_add_left hlong start)]
    simp only [IndexBench.enter, run_bind, hlimited, run_pure]

/-- Scripts that follow one another write their entries in a row. -/
theorem followedBy (h : Transcribes env first world entries)
    (hnext : Transcribes env next (first.run env world).2 others) (hworld : world.Unlimited) :
    Transcribes env (followedBy first next) world (entries ++ others) where
  result := by
    simp only [IndexBench.followedBy, run_bind, h.result, hnext.result, run_pure,
      List.filterMap_append]
  printed := by
    simp only [IndexBench.followedBy, printed_bind, h.result, h.printed, hnext.printed,
      printed_pure, String.append_empty, entriesText_append]
  cut room hroom start := by
    rw [entriesSize_append] at hroom
    rw [finishedBy_append, IndexBench.followedBy, run_bind]
    -- the first script fits and the next one is cut, or the first one is cut
    by_cases hfits : entriesSize entries ≤ room
    · have hrest := hnext.cut (room - entriesSize entries)
        (Nat.sub_lt_left_of_lt_add hfits hroom) (start + entriesSize entries)
      have hstop : start + entriesSize entries + (room - entriesSize entries) = start + room := by
        omega
      rw [hstop] at hrest
      rw [(run_limit_of_le env first hworld (by rwa [h.printedSize_eq])).1,
        h.printedSize_eq, finishedBy_of_le (Nat.add_le_add_left hfits start)]
      simp only [run_bind, h.result, hrest, run_pure]
    · have hlong := Nat.lt_of_not_le hfits
      rw [h.cut room hlong start, finishedBy_eq_nil (Nat.add_lt_add_left hlong start),
        List.append_nil]
      rfl

/-- What does not write leaves the entries to what comes after it. -/
theorem after {α : Type} {kinds : List Action.Kind} {silent : Script α}
    {f : α → Script (List Measurement × Except IoFault Unit)} (h : silent.Uses kinds)
    (hkinds : .write ∉ kinds) (hworld : world.Unlimited)
    (hf : Transcribes env (f (silent.run env world).1) (silent.run env world).2 entries) :
    Transcribes env (silent >>= f) world entries where
  result := by rw [run_bind, hf.result]
  printed := by
    rw [printed_bind, h.printed_eq hkinds, hf.printed, String.empty_append]
  cut room hroom start := by
    rw [run_bind, h.run_limit hkinds env hworld, hf.cut room hroom start]

end Transcribes

namespace Plan

variable {σ : Type}

/-- Measuring enters the reading of the first query and goes on. -/
theorem measureFrom_cons (plan : Plan) (repetition place : Nat) (query : RangeQuery)
    (queries : List RangeQuery) :
    plan.measureFrom repetition place (query :: queries) =
      (do
        match ← execute plan.shape plan.table query with
        | .error failure =>
            note (.failed (.measure place query) failure)
            plan.measureFrom repetition (place + 1) queries
        | .ok reading =>
            followedBy (enter (.measured ⟨repetition, place, reading⟩))
              (plan.measureFrom repetition (place + 1) queries)) := by
  rw [measureFrom]
  refine congrArg _ (funext fun outcome => ?_)
  cases outcome with
  | error failure => rfl
  | ok reading =>
      simp only [followedBy, enter, LawfulMonad.bind_assoc]
      refine congrArg _ (funext fun written => ?_)
      cases written with
      | error fault => rfl
      | ok _ => rfl

/-- A repetition enters its readings and a blank line. -/
theorem measureOnce_eq (plan : Plan) (repetition : Nat) :
    plan.measureOnce repetition =
      followedBy (plan.measureFrom repetition 0 plan.catalog)
        (followedBy (enter .blank)
          (do note (.repetitionFinished repetition); return ([], .ok ()))) := by
  rw [measureOnce, followedBy]
  refine congrArg _ (funext fun measured => ?_)
  rcases measured with ⟨measurements, fault | _⟩
  · rfl
  · simp only [followedBy, enter, LawfulMonad.bind_assoc]
    refine congrArg _ (funext fun written => ?_)
    cases written with
    | error fault => simp
    | ok _ => simp [Entry.measurement?]

/-- Queries are transcribed as they are measured. -/
theorem measureFrom_transcribes (plan : Plan) (env : Environment σ) (repetition place : Nat)
    (queries : List RangeQuery) {world : World σ} (h : world.Unlimited) :
    ∃ measurements : List Measurement,
      (∀ measurement ∈ measurements, measurement.repetition = repetition) ∧
      Transcribes env (plan.measureFrom repetition place queries) world
        (measurements.map Entry.measured) := by
  induction queries generalizing place world with
  | nil => exact ⟨[], List.forall_mem_nil _, .nothing⟩
  | cons query queries ih =>
      have hexecute := execute_uses plan.shape plan.table query
      have hstill := unlimited_run env (execute plan.shape plan.table query) h
      rw [measureFrom_cons]
      rcases hexecuted : (execute plan.shape plan.table query).run env world with
        ⟨failure | reading, executed⟩
      · rw [hexecuted] at hstill
        have hnote : (note (.failed (.measure place query) failure)).Uses [.note] :=
          .perform .note rfl (by decide)
        obtain ⟨measurements, hrepetition, hrest⟩ := ih (place + 1) (unlimited_run env
          (note (.failed (.measure place query) failure)) hstill)
        refine ⟨measurements, hrepetition, .after hexecute (by decide) h ?_⟩
        rw [hexecuted]
        exact .after hnote (by decide) hstill hrest
      · rw [hexecuted] at hstill
        obtain ⟨measurements, hrepetition, hrest⟩ := ih (place + 1) (unlimited_run env
          (enter (.measured ⟨repetition, place, reading⟩)) hstill)
        refine ⟨⟨repetition, place, reading⟩ :: measurements,
          List.forall_mem_cons.mpr ⟨rfl, hrepetition⟩, .after hexecute (by decide) h ?_⟩
        rw [hexecuted]
        exact (Transcribes.enter hstill _).followedBy hrest hstill

/-- A repetition is transcribed as it is measured, with a blank entry at its end. -/
theorem measureOnce_transcribes (plan : Plan) (env : Environment σ) (repetition : Nat)
    {world : World σ} (h : world.Unlimited) :
    ∃ measurements : List Measurement,
      (∀ measurement ∈ measurements, measurement.repetition = repetition) ∧
      Transcribes env (plan.measureOnce repetition) world
        (measurements.map Entry.measured ++ [.blank]) := by
  obtain ⟨measurements, hrepetition, hmeasured⟩ :=
    plan.measureFrom_transcribes env repetition 0 plan.catalog h
  have hstill := unlimited_run env (plan.measureFrom repetition 0 plan.catalog) h
  have hnote : (note (.repetitionFinished repetition)).Uses [.note] :=
    .perform .note rfl (by decide)
  refine ⟨measurements, hrepetition, ?_⟩
  rw [measureOnce_eq]
  refine hmeasured.followedBy ?_ h
  exact (Transcribes.enter hstill .blank).followedBy
    (.after hnote (by decide) (unlimited_run env (enter .blank) hstill) .nothing) hstill

/-- Repetitions are transcribed one after the other. -/
theorem measureTimes_transcribes (plan : Plan) (env : Environment σ) (times repetition : Nat)
    {world : World σ} (h : world.Unlimited) :
    ∃ measurements : List Measurement,
      (∀ measurement ∈ measurements, repetition ≤ measurement.repetition) ∧
      (transcript measurements repetition times).filterMap Entry.measurement? = measurements ∧
      Transcribes env (plan.measureTimes times repetition) world
        (transcript measurements repetition times) := by
  induction times generalizing repetition world with
  | zero => exact ⟨[], List.forall_mem_nil _, rfl, .nothing⟩
  | succ times ih =>
      obtain ⟨first, hfirst, honce⟩ := plan.measureOnce_transcribes env repetition h
      obtain ⟨later, hlater, hmeasured, htimes⟩ :=
        ih (repetition + 1) (unlimited_run env (plan.measureOnce repetition) h)
      refine ⟨first ++ later, fun measurement hmem => ?_, ?_⟩
      · rcases List.mem_append.mp hmem with hmem | hmem
        · exact Nat.le_of_eq (hfirst measurement hmem).symm
        · exact Nat.le_of_succ_le (hlater measurement hmem)
      · rw [transcript_succ hfirst hlater]
        refine ⟨?_, honce.followedBy htimes h⟩
        rw [List.filterMap_append, List.filterMap_append, filterMap_measured, hmeasured]
        simp [Entry.measurement?]

/-- A session writes the transcript of what it measures. -/
theorem body_transcribes (plan : Plan) (env : Environment σ) {world : World σ}
    (h : world.Unlimited) :
    (plan.body.run env world).1.2 = .ok () ∧
      Transcribes env plan.body world
        (transcript (plan.body.run env world).1.1 0 plan.repetitions) := by
  have hwhole : ∃ measurements,
      (transcript measurements 0 plan.repetitions).filterMap Entry.measurement? =
          measurements ∧
        Transcribes env plan.body world (transcript measurements 0 plan.repetitions) := by
    unfold body
    cases plan.warmup with
    | false =>
        obtain ⟨measurements, -, hmeasured, htimes⟩ :=
          plan.measureTimes_transcribes env plan.repetitions 0 h
        exact ⟨measurements, hmeasured, htimes⟩
    | true =>
        obtain ⟨measurements, -, hmeasured, htimes⟩ := plan.measureTimes_transcribes env
          plan.repetitions 0 (unlimited_run env plan.warmUp h)
        exact ⟨measurements, hmeasured, .after (warmUp_uses plan) (by decide) h htimes⟩
  obtain ⟨measurements, hmeasured, hbody⟩ := hwhole
  have hresult := hbody.result
  rw [hmeasured] at hresult
  rw [hresult]
  exact ⟨rfl, hbody⟩

/-- The transcript of what a session has measured has these measurements. -/
theorem body_transcribes_of_run {plan : Plan} {env : Environment σ} {world ended : World σ}
    {measurements : List Measurement} (h : world.Unlimited)
    (hrun : plan.body.run env world = ((measurements, .ok ()), ended)) :
    (transcript measurements 0 plan.repetitions).filterMap Entry.measurement? = measurements ∧
      Transcribes env plan.body world (transcript measurements 0 plan.repetitions) := by
  obtain ⟨-, hbody⟩ := plan.body_transcribes env h
  have hresult := hbody.result
  rw [hrun] at hbody hresult
  exact ⟨(congrArg Prod.fst hresult).symm, hbody⟩

end Plan
end IndexBench
