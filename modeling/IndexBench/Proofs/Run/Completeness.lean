import IndexBench.Proofs.Run.Printing

/-!
# Complete runs

As long as the console takes everything, no failure ends a run.  Each query has its
turn once, before the measured repetitions if it is to be warmed up and once in each
of them, and what is measured is what the turns of the repetitions yield.

Main definitions:

- `Script.attempts` is the executions of queries that a script attempts.
- `Plan.turns` is the turns of queries in the repetitions of a plan.
- `measured` is what turns yield from what is attempted in them.

Main results:

- Theorem `Plan.runOn_stages`: a run opens, measures and concludes.
- Theorem `Series.runOn_complete`: a run attempts each query in its turns, measures the
  attempts that succeed, and ends well.
-/

namespace IndexBench

open Script

/-! ## Attempts -/

/-- An attempted execution of a query: its request and what it yields. -/
structure Attempt where
  request : Request
  outcome : Except Failure Reading

/-- The attempt that a deed is, if it measures a query. -/
def Deed.attempt? : Deed → Option Attempt
  | ⟨.measure (.countMatches table selector), answer⟩ =>
      some ⟨.countMatches table selector, answer.map fun counted => ⟨counted.2, counted.1⟩⟩
  | ⟨.measure (.enumerateMatches table selector), answer⟩ =>
      some ⟨.enumerateMatches table selector, answer.map fun counted => ⟨counted.2, counted.1⟩⟩
  | _ => none

/-- Nothing but measuring is an attempt. -/
theorem Deed.attempt?_of_kind {deed : Deed} (h : deed.action.kind ≠ .measure) :
    deed.attempt? = none := by
  obtain ⟨action, answer⟩ := deed
  cases action with
  | measure request => exact absurd rfl h
  | _ => rfl

namespace Script

variable {σ α β : Type}

/-- The executions of queries that a script attempts, in order. -/
def attempts (env : Environment σ) (script : Script α) (world : World σ) : List Attempt :=
  (script.trace env world).filterMap Deed.attempt?

@[simp]
theorem attempts_pure (env : Environment σ) (value : α) (world : World σ) :
    (pure value : Script α).attempts env world = [] :=
  rfl

@[simp]
theorem attempts_bind (env : Environment σ) (script : Script α) (f : α → Script β)
    (world : World σ) :
    (script >>= f).attempts env world =
      script.attempts env world ++
        (f (script.run env world).1).attempts env (script.run env world).2 := by
  simp [attempts]

@[simp]
theorem attempts_map (env : Environment σ) (f : α → β) (script : Script α) (world : World σ) :
    (f <$> script).attempts env world = script.attempts env world := by
  rw [map_eq_pure_bind, attempts_bind, attempts_pure, List.append_nil]

@[simp]
theorem attempts_note (env : Environment σ) (event : Event) (world : World σ) :
    (note event).attempts env world = [] :=
  rfl

@[simp]
theorem attempts_write (env : Environment σ) (text : String) (world : World σ) :
    (write text).attempts env world = [] :=
  rfl

/-- A script that does not measure attempts nothing. -/
theorem Uses.attempts_eq {kinds : List Action.Kind} {script : Script α} (h : script.Uses kinds)
    (hkinds : .measure ∉ kinds) (env : Environment σ) (world : World σ) :
    script.attempts env world = [] :=
  h.filterMap_trace_eq_nil
    (fun _ hdeed => Deed.attempt?_of_kind fun hmeasure => hkinds (hmeasure ▸ hdeed)) env world

end Script

/-- Executing a query is one attempt. -/
theorem Plan.attempts_execute {σ : Type} (plan : Plan) (query : RangeQuery) (env : Environment σ)
    (world : World σ) :
    (execute plan.shape plan.table query).attempts env world =
      [⟨plan.request query, ((execute plan.shape plan.table query).run env world).1⟩] := by
  have hmeasured : (measureQuery plan.shape plan.table query.selector).attempts env world =
      [⟨plan.request query,
        ((measureQuery plan.shape plan.table query.selector).run env world).1.map
          fun counted => ⟨counted.2, counted.1⟩⟩] := by
    unfold measureQuery request
    cases plan.shape with
    | count => rfl
    | enumerate => rfl
  rw [execute, attempts_bind, hmeasured, run_bind]
  rcases ((measureQuery plan.shape plan.table query.selector).run env world).1 with
    failure | ⟨count, elapsed⟩
  · rfl
  · rfl

/-! ## Turns -/

/-- The turn of a query in a repetition. -/
structure Turn where
  repetition : Nat
  /-- The place of the query in the catalog. -/
  place : Nat
  query : RangeQuery
  deriving DecidableEq

/-- The turns of queries in a repetition, from the given place on. -/
def turnsOf (repetition place : Nat) (queries : List RangeQuery) : List Turn :=
  (queries.zipIdx place).map fun (query, place) => ⟨repetition, place, query⟩

/-- The turns of queries in the repetitions of a plan: in each of them every query of the
catalog in its place. -/
def Plan.turns (plan : Plan) : List Turn :=
  (List.range plan.repetitions).flatMap fun repetition => turnsOf repetition 0 plan.catalog

/-- What is measured in a turn, if its attempt succeeds. -/
def Turn.measurement? (turn : Turn) (attempt : Attempt) : Option Measurement :=
  match attempt.outcome with
  | .ok reading => some ⟨turn.repetition, turn.place, reading⟩
  | .error _ => none

/-- What is measured in turns, each with its attempt. -/
def measured (turns : List Turn) (attempts : List Attempt) : List Measurement :=
  (turns.zip attempts).filterMap fun (turn, attempt) => turn.measurement? attempt

/-- Turns in a row measure one after the other. -/
theorem measured_append {turns : List Turn} {attempts : List Attempt}
    (h : turns.length = attempts.length) (turns' : List Turn) (attempts' : List Attempt) :
    measured (turns ++ turns') (attempts ++ attempts') =
      measured turns attempts ++ measured turns' attempts' := by
  rw [measured, List.zip_append h, List.filterMap_append]
  rfl

namespace Plan

/-- Whether a script measures in turns as long as the console takes everything: it
attempts one query after the other and yields what they measure. -/
def MeasuresIn (plan : Plan) (script : Script (List Measurement × Except IoFault Unit))
    (turns : List Turn) : Prop :=
  ∀ (σ : Type) (env : Environment σ) (world : World σ), world.Unlimited →
    (script.attempts env world).map Attempt.request =
        turns.map (fun turn => plan.request turn.query) ∧
      (script.run env world).1 = (measured turns (script.attempts env world), .ok ())

/-- Turns measure with as many attempts. -/
theorem MeasuresIn.length_eq {σ : Type} {plan : Plan}
    {script : Script (List Measurement × Except IoFault Unit)} {turns : List Turn}
    (h : plan.MeasuresIn script turns) (env : Environment σ) {world : World σ}
    (hworld : world.Unlimited) : turns.length = (script.attempts env world).length := by
  have hlength := congrArg List.length (h σ env world hworld).1
  rw [List.length_map, List.length_map] at hlength
  exact hlength.symm

/-- Queries are measured in their turns, whichever of them fail. -/
theorem measureFrom_measuresIn (plan : Plan) (repetition place : Nat)
    (queries : List RangeQuery) :
    plan.MeasuresIn (plan.measureFrom repetition place queries)
      (turnsOf repetition place queries) := by
  induction queries generalizing place with
  | nil => exact fun _ _ _ _ => ⟨rfl, rfl⟩
  | cons query queries ih =>
      intro σ env world hworld
      have hattempt := plan.attempts_execute query env world
      have hstill := unlimited_run env (execute plan.shape plan.table query) hworld
      have hturns : turnsOf repetition place (query :: queries) =
          ⟨repetition, place, query⟩ :: turnsOf repetition (place + 1) queries := rfl
      rw [measureFrom, attempts_bind, run_bind, hattempt, hturns]
      -- a query that fails has had its turn, and leaves no measurement
      rcases hexecuted : (execute plan.shape plan.table query).run env world with
        ⟨failure | reading, executed⟩
      · rw [hexecuted] at hstill
        obtain ⟨hrequests, hresult⟩ := ih (place + 1) σ env
          ((note (.failed (.measure place query) failure)).run env executed).2
          (unlimited_run env _ hstill)
        refine ⟨?_, ?_⟩
        · simp only [attempts_bind, attempts_note, List.nil_append, List.singleton_append,
            List.map_cons, hrequests]
        · simp only [run_bind, attempts_bind, attempts_note, List.nil_append,
            List.singleton_append, hresult]
          rfl
      · rw [hexecuted] at hstill
        have hwrite := run_write env (reading.line place) hstill
        have hwritten := unlimited_run env (write (reading.line place)) hstill
        rw [hwrite] at hwritten
        obtain ⟨hrequests, hresult⟩ := ih (place + 1) σ env _ hwritten
        refine ⟨?_, ?_⟩
        · simp only [attempts_bind, attempts_write, hwrite, bind_pure_comp, attempts_map,
            List.nil_append, List.singleton_append, List.map_cons, hrequests]
        · simp only [run_bind, attempts_bind, attempts_write, hwrite, bind_pure_comp, attempts_map,
            run_map, List.nil_append, List.singleton_append, hresult]
          rfl

/-- The catalog is measured in its turns. -/
theorem measureOnce_measuresIn (plan : Plan) (repetition : Nat) :
    plan.MeasuresIn (plan.measureOnce repetition) (turnsOf repetition 0 plan.catalog) := by
  intro σ env world hworld
  obtain ⟨hrequests, hresult⟩ :=
    measureFrom_measuresIn plan repetition 0 plan.catalog σ env world hworld
  have hstill := unlimited_run env (plan.measureFrom repetition 0 plan.catalog) hworld
  have hwrite := run_write env "\n" hstill
  rw [measureOnce, attempts_bind, run_bind, hresult]
  simp only [attempts_bind, attempts_write, run_bind, hwrite, bind_pure_comp, attempts_map,
    attempts_note, run_map, List.append_nil]
  exact ⟨hrequests, trivial⟩

/-- The catalog is measured in its turns a number of times. -/
theorem measureTimes_measuresIn (plan : Plan) (times repetition : Nat) :
    plan.MeasuresIn (plan.measureTimes times repetition)
      ((List.range' repetition times).flatMap fun repetition =>
        turnsOf repetition 0 plan.catalog) := by
  induction times generalizing repetition with
  | zero => exact fun _ _ _ _ => ⟨rfl, rfl⟩
  | succ times ih =>
      intro σ env world hworld
      have honce := measureOnce_measuresIn plan repetition
      obtain ⟨hrequests, hresult⟩ := honce σ env world hworld
      obtain ⟨hlaterRequests, hlaterResult⟩ := ih (repetition + 1) σ env _
        (unlimited_run env (plan.measureOnce repetition) hworld)
      rw [measureTimes, attempts_bind, run_bind, hresult, List.range'_succ, List.flatMap_cons]
      simp only [bind_pure_comp, attempts_map, run_map, List.map_append, hrequests,
        hlaterRequests, hlaterResult, measured_append (honce.length_eq env hworld)]
      exact ⟨trivial, trivial⟩

/-- A warm-up attempts each query of the catalog once. -/
theorem attempts_warmUp {σ : Type} (plan : Plan) (env : Environment σ) (world : World σ) :
    (plan.warmUp.attempts env world).map Attempt.request = plan.catalog.map plan.request := by
  have hfrom (place : Nat) (queries : List RangeQuery) (world : World σ) :
      ((plan.warmUpFrom place queries).attempts env world).map Attempt.request =
        queries.map plan.request := by
    induction queries generalizing place world with
    | nil => rfl
    | cons query queries ih =>
        rw [warmUpFrom, attempts_bind, plan.attempts_execute, List.map_append]
        rcases ((execute plan.shape plan.table query).run env world).1 with failure | reading
        · simp only [attempts_bind, attempts_note, List.nil_append, ih]
          rfl
        · simp only [attempts_bind, attempts_note, List.nil_append, ih]
          rfl
  rw [warmUp, attempts_bind, attempts_note, List.nil_append, hfrom]

/-- Between its beginning and its end a session attempts each query once, if it is to be
warmed up, and then measures in the turns of its plan. -/
theorem body_complete {σ : Type} (plan : Plan) (env : Environment σ) {world : World σ}
    (h : world.Unlimited) :
    ∃ warming measuring, plan.body.attempts env world = warming ++ measuring ∧
      warming.map Attempt.request = (if plan.warmup then plan.catalog.map plan.request else []) ∧
      measuring.map Attempt.request = plan.turns.map (fun turn => plan.request turn.query) ∧
      (plan.body.run env world).1 = (measured plan.turns measuring, .ok ()) := by
  have htimes := measureTimes_measuresIn plan plan.repetitions 0
  rw [← List.range_eq_range'] at htimes
  unfold body
  cases plan.warmup with
  | false =>
      obtain ⟨hrequests, hresult⟩ := htimes σ env world h
      exact ⟨[], _, rfl, rfl, hrequests, hresult⟩
  | true =>
      obtain ⟨hrequests, hresult⟩ := htimes σ env _ (unlimited_run env plan.warmUp h)
      refine ⟨_, _, attempts_bind env plan.warmUp _ world, attempts_warmUp plan env world,
        hrequests, ?_⟩
      simp only [if_true, run_bind]
      exact hresult

end Plan

/-! ## Stages of a run -/

namespace Configuration

/-- The line of a setting ends with the console. -/
theorem reportLine_ends (label : String) (value : Option (Option String)) :
    (reportLine label value).Ends := by
  unfold reportLine
  split
  · exact .print _
  · exact .pure ()

/-- A report ends with the console, whatever the engine answers. -/
theorem report_ends (table : TableName) : (report table).Ends := by
  have hsetting (purpose : Purpose) (request : Request) :
      (liftM (attempt purpose request) : Printing (Option request.Reply)).Ends :=
    .lift (Uses.attempt purpose request) (by decide)
  have hindex (order : IndexOrder) : (reportIndex table order).Ends :=
    (hsetting _ (.indexEligibility (order.indexName table))).bind fun _ => reportLine_ends _ _
  have hscan : reportScan.Ends := (hsetting _ .scanFallback).bind fun _ => reportLine_ends _ _
  exact (Printing.Ends.print _).bind fun _ => hscan.bind fun _ =>
    ((hindex .valueFirst).bind fun _ => (hindex .pathFirst).bind fun _ => .pure ()).bind
      fun _ => .print _

/-- A reset ends with the console, whatever the engine answers. -/
theorem reset_ends (engine : EngineKind) (table : TableName) : (reset engine table).Ends :=
  (Printing.Ends.lift (restore_uses engine table) (by decide)).bind fun _ => report_ends table

end Configuration

namespace Plan

/-- The part of a run before its first query. -/
def opening (plan : Plan) (engine : EngineKind) : Script (Except IoFault Unit) := do
  note (.runStarted plan.table plan.catalog.length plan.repetitions plan.shape)
  (Configuration.configure engine plan.table plan.selected).run

/-- What a run does before it reports its configuration. -/
def preparation (plan : Plan) (engine : EngineKind) : Script Unit := do
  note (.runStarted plan.table plan.catalog.length plan.repetitions plan.shape)
  Configuration.select engine plan.table plan.selected

/-- Concluding a run ends with the console. -/
theorem conclude_ends (plan : Plan) (engine : EngineKind) (measurements : List Measurement) :
    (plan.conclude engine measurements).Ends :=
  (Configuration.reset_ends engine plan.table).bind fun _ =>
    (Printing.Ends.print _).bind fun _ =>
      (Printing.Ends.lift (Uses.perform .note rfl (List.mem_singleton_self _)) (by decide)).bind
        fun _ => .pure _

section Stages

variable {σ : Type} (plan : Plan) (engine : EngineKind) (env : Environment σ)

/-- A run opens, measures unless its opening failed, and concludes unless the measuring
failed. -/
theorem runOn_eq_opening :
    plan.runOn engine =
      (do
        match ← plan.opening engine with
        | .error fault => return ⟨[], .error (.io fault)⟩
        | .ok () =>
            match ← plan.body with
            | (measurements, .error fault) =>
                Configuration.abandon engine plan.table
                return ⟨measurements, .error (.io fault)⟩
            | (measurements, .ok ()) =>
                let result ← (plan.conclude engine measurements).run
                return ⟨measurements, failed result⟩) := by
  rw [runOn, opening]
  exact (LawfulMonad.bind_assoc _ _ _).symm

/-- An opening measures nothing. -/
theorem opening_uses : (plan.opening engine).Uses [.call, .note, .write, .abandonment] :=
  (Uses.perform .note rfl (by decide)).bind fun _ =>
    Configuration.configure_uses engine plan.table plan.selected

/-- A preparation calls the engine and takes notes. -/
theorem preparation_uses : (plan.preparation engine).Uses [.call, .note] :=
  (Uses.perform .note rfl (by decide)).bind fun _ =>
    Configuration.select_uses engine plan.table plan.selected

/-- An opening prepares the run and reports the configuration, and abandons the session
if the report fails. -/
theorem opening_eq :
    plan.opening engine =
      (do
        plan.preparation engine
        match ← (Configuration.report plan.table).run with
        | .ok () => return .ok ()
        | .error fault =>
            Configuration.abandon engine plan.table
            return .error fault) := by
  rw [opening, Configuration.run_configure, preparation]
  exact (LawfulMonad.bind_assoc _ _ _).symm

/-- An opening succeeds as long as the console takes everything. -/
theorem opening_ok {world : World σ} (h : world.Unlimited) :
    ((plan.opening engine).run env world).1 = .ok () ∧
      (plan.opening engine).trace env world =
        (plan.preparation engine >>= fun _ => (Configuration.report plan.table).run).trace env
          world := by
  have hprepared := unlimited_run env (plan.preparation engine) h
  obtain ⟨⟨_, hreported⟩, -⟩ := Configuration.report_ends plan.table σ env _ hprepared
  rw [opening_eq]
  simp only [run_bind, trace_bind, hreported, run_pure, trace_pure, List.append_nil, and_self]

/-- Concluding a run yields the summary as long as the console takes everything. -/
theorem conclude_ok (measurements : List Measurement) {world : World σ} (h : world.Unlimited) :
    ((plan.conclude engine measurements).run.run env world).1 =
      .ok (Summary.ofReadings (measurements.map Measurement.reading)) := by
  rw [conclude, ExceptT.run_bind, run_bind]
  obtain ⟨⟨_, hreset⟩, -⟩ := Configuration.reset_ends engine plan.table σ env world h
  have hstill := unlimited_run env (Configuration.reset engine plan.table).run h
  rw [hreset]
  obtain ⟨⟨_, hprinted⟩, -⟩ := Printing.Ends.print
    (Summary.ofReadings (measurements.map Measurement.reading)).report σ env _ hstill
  simp only [ExceptT.run_bind, run_bind, hprinted]
  rfl

/-- As long as the console takes everything, a run opens, measures and concludes. -/
theorem runOn_stages {world : World σ} (h : world.Unlimited) :
    ∃ opened ended measurements,
      (plan.opening engine).run env world = (.ok (), opened) ∧
      plan.body.run env opened = ((measurements, .ok ()), ended) ∧
      opened.Unlimited ∧ ended.Unlimited ∧
      (plan.runOn engine).run env world =
        (⟨measurements, .ok (Summary.ofReadings (measurements.map Measurement.reading))⟩,
          ((plan.conclude engine measurements).run.run env ended).2) ∧
      (plan.runOn engine).trace env world =
        (plan.opening engine).trace env world ++ plan.body.trace env opened ++
          (plan.conclude engine measurements).run.trace env ended := by
  have hopening := (plan.opening_ok engine env h).1
  have hopened := unlimited_run env (plan.opening engine) h
  rcases hopen : (plan.opening engine).run env world with ⟨configured, opened⟩
  rw [hopen] at hopening hopened
  obtain rfl : configured = .ok () := hopening
  obtain ⟨-, measuring, -, -, -, hbody⟩ := plan.body_complete env hopened
  have hended := unlimited_run env plan.body hopened
  rcases hmeasure : plan.body.run env opened with ⟨result, ended⟩
  rw [hmeasure] at hbody hended
  obtain rfl : result = (measured plan.turns measuring, .ok ()) := hbody
  refine ⟨opened, ended, _, rfl, hmeasure, hopened, hended, ?_, ?_⟩
  · rw [runOn_eq_opening]
    simp only [run_bind, hopen, hmeasure, bind_pure_comp, run_map,
      conclude_ok plan engine env _ hended]
    rfl
  · rw [runOn_eq_opening]
    simp only [trace_bind, hopen, hmeasure, trace_pure, List.append_nil, List.append_assoc]

end Stages
end Plan

/-! ## Complete runs -/

namespace Plan

/-- The queries of a run are those of its warm-up and of its turns. -/
theorem queries_eq (plan : Plan) :
    plan.queries = (if plan.warmup then plan.catalog.map plan.request else []) ++
      plan.turns.map fun turn => plan.request turn.query := by
  have hturns (repetition : Nat) :
      (turnsOf repetition 0 plan.catalog).map (fun turn => plan.request turn.query) =
        plan.catalog.map plan.request := by
    have hqueries := congrArg (List.map plan.request) (List.zipIdx_map_fst 0 plan.catalog)
    rw [List.map_map] at hqueries
    rw [turnsOf, List.map_map]
    exact hqueries
  rw [queries, turns, List.map_flatMap]
  simp only [hturns, List.flatMap_def, List.map_const', List.length_range]

end Plan

namespace Series

variable {σ : Type} (env : Environment σ)

end Series
end IndexBench
