import IndexBench.Proofs.Run.Trace
import IndexBench.Series

/-!
# The bracket around a run

A run selects an index before its queries and gives both indexes and scans back
after them.  However it ends, the requests that it sends form this bracket once.

Main definitions:

- `Configuration.selection`, `Configuration.lookups` and
  `Configuration.restoration` are the requests that select an index, report the
  configuration and restore it.
- `Plan.queries` is every query that a run means to send.
- `Plan.session` is the part of a run before its configuration is reset.
- `Plan.Bracketed` is the form of all requests of a run.

Main results:

- Theorem `Plan.requests_runOn`: the requests of a run have this form, with all of
  its queries if the reset was reached.
- Theorem `Series.run_bracketed`: that, and a run that connects closes its
  connection last and only once, while one that does not connect does nothing.
-/

namespace IndexBench

open Script

/-! ## Configurations -/

namespace Configuration

/-- The requests that forbid scans and leave only the selected index eligible. -/
def selection (table : TableName) (selected : IndexOrder) : List Request :=
  [ .setScanFallback false,
    .setIndexEligible (IndexOrder.valueFirst.indexName table) (selected.enables .valueFirst),
    .setIndexEligible (IndexOrder.pathFirst.indexName table) (selected.enables .pathFirst) ]

/-- The requests of a report. -/
def lookups (table : TableName) : List Request :=
  [ .scanFallback,
    .indexEligibility (IndexOrder.valueFirst.indexName table),
    .indexEligibility (IndexOrder.pathFirst.indexName table) ]

/-- The requests that make both indexes eligible and allow scans. -/
def restoration (table : TableName) : List Request :=
  [ .setIndexEligible (IndexOrder.pathFirst.indexName table) true,
    .setIndexEligible (IndexOrder.valueFirst.indexName table) true,
    .setScanFallback true ]

/-- The line of a setting sends nothing. -/
theorem reportLine_sends (label : String) (value : Option (Option String)) :
    (reportLine label value).Sends [] := by
  unfold reportLine
  split
  · exact .print _
  · exact .pure ()

/-- A report sends its lookups in order, until the console ends it. -/
theorem report_sends (table : TableName) : (report table).Sends (lookups table) := by
  have hscan : reportScan.Sends [.scanFallback] :=
    (Printing.Sends.lift (.attempt .readScan .scanFallback)).bind fun _ => reportLine_sends _ _
  have hindex : ∀ order, (reportIndex table order).Sends
      [.indexEligibility (order.indexName table)] := fun order =>
    (Printing.Sends.lift (.attempt _ (.indexEligibility (order.indexName table)))).bind
      fun _ => reportLine_sends _ _
  exact (Printing.Sends.print _).bind fun _ => hscan.bind fun _ =>
    ((hindex .valueFirst).bind fun _ => (hindex .pathFirst).bind fun _ => .pure ()).bind
      fun _ => .print _

/-- Making an index eligible or not sends one request. -/
theorem setEligible_sends (table : TableName) (eligible : Bool) (order : IndexOrder) :
    (setEligible table eligible order).AlwaysSends
      [.setIndexEligible (order.indexName table) eligible] :=
  (Sends.attempt _ (.setIndexEligible (order.indexName table) eligible)).map _ fun _ h => h

/-- A selection always sends its requests. -/
theorem select_sends (engine : EngineKind) (table : TableName) (selected : IndexOrder) :
    (select engine table selected).AlwaysSends (selection table selected) :=
  (Sends.note _).always_bind fun _ =>
    (Sends.attempt .disableScan (.setScanFallback false)).always_bind fun _ =>
      (setEligible_sends table _ .valueFirst).always_bind fun _ =>
        (setEligible_sends table _ .pathFirst).always_bind fun _ => .pure ()

/-- A restoration always sends its requests. -/
theorem restore_sends (engine : EngineKind) (table : TableName) :
    (restore engine table).AlwaysSends (restoration table) := by
  have hindexes : (IndexOrder.reportSequence.reverse.forM (setEligible table true)).AlwaysSends
      [ .setIndexEligible (IndexOrder.pathFirst.indexName table) true,
        .setIndexEligible (IndexOrder.valueFirst.indexName table) true ] :=
    (setEligible_sends table true .pathFirst).always_bind fun _ =>
      (setEligible_sends table true .valueFirst).always_bind fun _ => .pure ()
  exact (Sends.note _).always_bind fun _ => hindexes.always_bind fun _ =>
    (Sends.attempt .enableScan (.setScanFallback true)).map _ fun _ h => h

/-- An abandoned session sends the restoration. -/
theorem abandon_sends (engine : EngineKind) (table : TableName) :
    (abandon engine table).AlwaysSends (restoration table) :=
  (Sends.note _).always_bind fun _ => restore_sends engine table

end Configuration

/-! ## Queries -/

namespace Plan

/-- The request of a query of a plan. -/
def request (plan : Plan) (query : RangeQuery) : Request :=
  match plan.shape with
  | .count => .countMatches plan.table query.selector
  | .enumerate => .enumerateMatches plan.table query.selector

/-- Every query that a run means to send: the catalog once before it is measured,
if it is to be warmed up, and then once for each repetition. -/
def queries (plan : Plan) : List Request :=
  (if plan.warmup then plan.catalog.map plan.request else []) ++
    (List.replicate plan.repetitions (plan.catalog.map plan.request)).flatten

/-- Executing a query sends it once, whether or not it fails. -/
theorem execute_sends (plan : Plan) (query : RangeQuery) :
    (execute plan.shape plan.table query).AlwaysSends [plan.request query] := by
  have hmeasure : (measureQuery plan.shape plan.table query.selector).AlwaysSends
      [plan.request query] := by
    unfold measureQuery request
    cases plan.shape with
    | count => exact .measure _
    | enumerate => exact .measure _
  change (execute plan.shape plan.table query).AlwaysSends ([plan.request query] ++ [])
  refine hmeasure.always_bind fun outcome => ?_
  cases outcome with
  | error failure => exact .pure _
  | ok value => exact (Sends.note _).map _ fun _ h => h

/-- A warm-up sends the queries from its place on. -/
theorem warmUpFrom_sends (plan : Plan) (place : Nat) (queries : List RangeQuery) :
    (plan.warmUpFrom place queries).AlwaysSends (queries.map plan.request) := by
  induction queries generalizing place with
  | nil => exact .pure ()
  | cons query queries ih =>
      refine (execute_sends plan query).always_bind fun outcome => ?_
      cases outcome with
      | error failure => exact (Sends.note _).always_bind fun _ => ih (place + 1)
      | ok reading => exact (Sends.note _).always_bind fun _ => ih (place + 1)

/-- Whether measuring was not cut short by the console. -/
def Written (measured : List Measurement × Except IoFault Unit) : Prop :=
  measured.2 = .ok ()

/-- What the console has cut short ends with a fault. -/
theorem exists_fault {written : Except IoFault Unit} (h : written ≠ .ok ()) :
    ∃ fault, written = .error fault := by
  cases written with
  | ok _ => exact absurd rfl h
  | error fault => exact ⟨fault, rfl⟩

/-- Measuring sends the queries from its place on, each of them once, until the
console ends it. -/
theorem measureFrom_sends (plan : Plan) (repetition place : Nat) (queries : List RangeQuery) :
    (plan.measureFrom repetition place queries).Sends Written (queries.map plan.request) := by
  induction queries generalizing place with
  | nil => exact .pure _
  | cons query queries ih =>
      refine (execute_sends plan query).always_bind fun outcome => ?_
      cases outcome with
      | error failure => exact (Sends.note _).always_bind fun _ => ih (place + 1)
      | ok reading =>
          have hwrite : (write (reading.line place)).Sends (· = .ok ()) [] :=
            .of_requests fun _ _ _ => rfl
          refine hwrite.bind (fun written hwritten => ?_) fun written hwritten => ?_
          · subst hwritten
            exact (ih (place + 1)).map _ fun _ h => h
          · obtain ⟨fault, rfl⟩ := exists_fault hwritten
            exact ⟨([], .error fault), rfl, by simp [Written]⟩

/-- Measuring the catalog once sends its queries. -/
theorem measureOnce_sends (plan : Plan) (repetition : Nat) :
    (plan.measureOnce repetition).Sends Written (plan.catalog.map plan.request) := by
  have hblank : (write "\n").Sends (· = .ok ()) [] := .of_requests fun _ _ _ => rfl
  have hwhole : (plan.measureOnce repetition).Sends Written
      (plan.catalog.map plan.request ++ []) := by
    refine (measureFrom_sends plan repetition 0 plan.catalog).bind ?_ ?_
    · rintro ⟨measurements, _⟩ rfl
      change Sends _ Written ([] ++ [])
      refine hblank.bind (fun written hwritten => ?_) fun written hwritten => ?_
      · subst hwritten
        exact (Sends.note _).map _ fun _ _ => trivial
      · obtain ⟨fault, rfl⟩ := exists_fault hwritten
        exact ⟨(measurements, .error fault), rfl, by simp [Written]⟩
    · rintro ⟨measurements, written⟩ hwritten
      obtain ⟨fault, rfl⟩ := exists_fault hwritten
      exact ⟨(measurements, .error fault), rfl, by simp [Written]⟩
  rwa [List.append_nil] at hwhole

/-- Measuring the catalog a number of times sends its queries as often. -/
theorem measureTimes_sends (plan : Plan) (times repetition : Nat) :
    (plan.measureTimes times repetition).Sends Written
      (List.replicate times (plan.catalog.map plan.request)).flatten := by
  induction times generalizing repetition with
  | zero => exact .pure _
  | succ times ih =>
      rw [List.replicate_succ, List.flatten_cons]
      refine (measureOnce_sends plan repetition).bind ?_ ?_
      · rintro ⟨measurements, _⟩ rfl
        exact (ih (repetition + 1)).map _ fun _ h => h
      · rintro ⟨measurements, written⟩ hwritten
        obtain ⟨fault, rfl⟩ := exists_fault hwritten
        exact ⟨(measurements, .error fault), rfl, by simp [Written]⟩

/-- Between its beginning and its end a session sends the queries of its plan. -/
theorem body_sends (plan : Plan) : plan.body.Sends Written plan.queries := by
  have htimes := measureTimes_sends plan plan.repetitions 0
  unfold body queries
  cases plan.warmup with
  | false => exact htimes
  | true =>
      have hwarm : plan.warmUp.AlwaysSends (plan.catalog.map plan.request) :=
        (Sends.note _).always_bind fun _ => warmUpFrom_sends plan 0 plan.catalog
      exact hwarm.always_bind fun _ => htimes

end Plan

/-! ## Sessions -/

/-- A configuration ends at once if it cannot be reported. -/
theorem Configuration.run_configure (engine : EngineKind) (table : TableName)
    (selected : IndexOrder) :
    (configure engine table selected).run =
      (do
        select engine table selected
        match ← (report table).run with
        | .ok () => return .ok ()
        | .error fault =>
            abandon engine table
            return .error fault) := by
  rw [configure, Printing.run_lift_bind]
  refine congrArg _ (funext fun _ => ?_)
  rw [ExceptT.run_tryCatch]
  refine congrArg _ (funext fun result => ?_)
  cases result with
  | ok _ => rfl
  | error fault => exact Printing.run_lift_bind (abandon engine table) fun _ => throw fault

namespace Plan

/-- The part of a run before its configuration is reset.  If the console ends it
the configuration has been restored. -/
def session (plan : Plan) (engine : EngineKind) :
    Script (List Measurement × Except IoFault Unit) := do
  note (.runStarted plan.table plan.catalog.length plan.repetitions plan.shape)
  match ← (Configuration.configure engine plan.table plan.selected).run with
  | .error fault => return ([], .error fault)
  | .ok () =>
      match ← plan.body with
      | (measurements, .error fault) =>
          Configuration.abandon engine plan.table
          return (measurements, .error fault)
      | (measurements, .ok ()) => return (measurements, .ok ())

/-- A run concludes its session if the console did not end it. -/
theorem runOn_eq (plan : Plan) (engine : EngineKind) :
    plan.runOn engine =
      (do
        match ← plan.session engine with
        | (measurements, .error fault) => return ⟨measurements, .error (.io fault)⟩
        | (measurements, .ok ()) =>
            let result ← (plan.conclude engine measurements).run
            return ⟨measurements, failed result⟩) := by
  rw [runOn, session, LawfulMonad.bind_assoc]
  refine congrArg _ (funext fun _ => ?_)
  rw [LawfulMonad.bind_assoc]
  refine congrArg _ (funext fun configured => ?_)
  cases configured with
  | error fault => rfl
  | ok _ =>
      refine Eq.trans (congrArg (Bind.bind plan.body) (funext fun measured => ?_))
        (LawfulMonad.bind_assoc _ _ _).symm
      obtain ⟨measurements, written⟩ := measured
      cases written with
      | error fault => simp only [LawfulMonad.bind_assoc, pure_bind]
      | ok _ => rfl

/-! ## The bracket -/

/-- The form of the requests of a run, and whether the run got as far as its
reset.  The console can end a run in a report or among the queries, and the
report of the reset can itself be cut short. -/
inductive Bracketed (plan : Plan) : Bool → List Request → Prop where
  | unreported {looked : List Request} (h : looked <+: Configuration.lookups plan.table) :
      Bracketed plan false
        (Configuration.selection plan.table plan.selected ++ looked ++
          Configuration.restoration plan.table)
  | interrupted {asked : List Request} (h : asked <+: plan.queries) :
      Bracketed plan false
        (Configuration.selection plan.table plan.selected ++ Configuration.lookups plan.table ++
          asked ++ Configuration.restoration plan.table)
  | reset {looked : List Request} (h : looked <+: Configuration.lookups plan.table) :
      Bracketed plan true
        (Configuration.selection plan.table plan.selected ++ Configuration.lookups plan.table ++
          plan.queries ++ Configuration.restoration plan.table ++ looked)

end Plan

section Bracket

variable {σ : Type} (env : Environment σ)

/-- A configuration sends its selection and looks it up; if it cannot be reported
it is restored. -/
theorem Configuration.configure_cases (engine : EngineKind) (table : TableName)
    (selected : IndexOrder) (world : World σ) :
    (((configure engine table selected).run.run env world).1 = .ok () ∧
        (configure engine table selected).run.requests env world =
          selection table selected ++ lookups table) ∨
      ∃ fault looked, ((configure engine table selected).run.run env world).1 = .error fault ∧
        looked <+: lookups table ∧
        (configure engine table selected).run.requests env world =
          selection table selected ++ looked ++ restoration table := by
  rw [run_configure, requests_bind, run_bind, (select_sends engine table selected).requests_eq]
  generalize ((select engine table selected).run env world).2 = world
  obtain ⟨hlooks, hall⟩ := report_sends table σ env world
  rw [requests_bind, run_bind]
  cases hreport : ((report table).run.run env world).1 with
  | ok _ =>
      left
      rw [hall ⟨_, hreport⟩]
      exact ⟨rfl, by simp⟩
  | error fault =>
      right
      refine ⟨fault, _, by simp, hlooks, ?_⟩
      rw [requests_bind, (abandon_sends engine table).requests_eq]
      simp [List.append_assoc]

namespace Plan

/-- A session ends with all its queries, or the console has ended it and its
configuration is restored. -/
theorem session_cases (plan : Plan) (engine : EngineKind) (world : World σ) :
    (((plan.session engine).run env world).1.2 = .ok () ∧
        (plan.session engine).requests env world =
          Configuration.selection plan.table plan.selected ++ Configuration.lookups plan.table ++
            plan.queries) ∨
      ∃ fault, ((plan.session engine).run env world).1.2 = .error fault ∧
        plan.Bracketed false ((plan.session engine).requests env world) := by
  rw [session, requests_bind, run_bind, requests_note, List.nil_append]
  generalize ((note _).run env world).2 = world
  rw [requests_bind, run_bind]
  rcases Configuration.configure_cases env engine plan.table plan.selected world with
    ⟨hresult, hsent⟩ | ⟨fault, looked, hresult, hlooked, hsent⟩
  · rw [hresult, hsent]
    generalize ((Configuration.configure _ _ _).run.run env world).2 = world
    obtain ⟨hasked, hall⟩ := body_sends plan σ env world
    simp only [requests_bind, run_bind]
    rcases hbody : (plan.body.run env world).1 with ⟨measurements, fault | _⟩
    · right
      refine ⟨fault, by simp, ?_⟩
      simp only [requests_bind, (Configuration.abandon_sends engine plan.table).requests_eq,
        requests_pure, List.append_nil]
      rw [← List.append_assoc]
      exact .interrupted hasked
    · left
      rw [hall (by rw [Written, hbody])]
      exact ⟨rfl, by simp⟩
  · right
    rw [hresult, hsent]
    refine ⟨fault, rfl, ?_⟩
    rw [requests_pure, List.append_nil]
    exact .unreported hlooked

/-- Concluding a session restores its configuration and looks it up again, all of it
unless the console ends it. -/
theorem requests_conclude (plan : Plan) (engine : EngineKind) (measurements : List Measurement)
    (world : World σ) :
    ∃ looked, looked <+: Configuration.lookups plan.table ∧
      ((∃ summary, ((plan.conclude engine measurements).run.run env world).1 = .ok summary) →
        looked = Configuration.lookups plan.table) ∧
      (plan.conclude engine measurements).run.requests env world =
        Configuration.restoration plan.table ++ looked := by
  have hrest (summary : Summary) : Printing.Sends (do
        Configuration.report plan.table
        print summary.report
        note (.runFinished summary.queries summary.totalElapsed)
        return summary) (Configuration.lookups plan.table) := by
    have hwhole := (Configuration.report_sends plan.table).bind fun _ =>
      (Printing.Sends.print summary.report).bind fun _ =>
        (Printing.Sends.lift (Sends.note
          (.runFinished summary.queries summary.totalElapsed))).bind fun _ =>
            Printing.Sends.pure summary
    rwa [List.append_nil] at hwhole
  rw [conclude, Configuration.reset, LawfulMonad.bind_assoc, Printing.run_lift_bind,
    requests_bind, run_bind, (Configuration.restore_sends engine plan.table).requests_eq]
  obtain ⟨hlooked, hall⟩ := hrest _ σ env _
  exact ⟨_, hlooked, hall, rfl⟩

/-- The requests of a run form the bracket, with all its queries if it gets as far as
its reset. -/
theorem requests_runOn (plan : Plan) (engine : EngineKind) (world : World σ) :
    plan.Bracketed ((plan.session engine).run env world).1.2.isOk
      ((plan.runOn engine).requests env world) := by
  rw [runOn_eq, requests_bind]
  generalize ((plan.session engine).run env world).2 = ended
  rcases hsession : ((plan.session engine).run env world).1 with ⟨measurements, written⟩
  rcases session_cases env plan engine world with ⟨hresult, hsent⟩ | ⟨fault, hresult, hsent⟩
  · rw [hsession] at hresult
    obtain rfl : written = .ok () := hresult
    obtain ⟨looked, hlooked, -, hconcluded⟩ :=
      requests_conclude env plan engine measurements ended
    rw [hsent]
    simp only [requests_map, bind_pure_comp, hconcluded]
    rw [← List.append_assoc]
    exact .reset hlooked
  · rw [hsession] at hresult
    obtain rfl : written = .error fault := hresult
    rw [requests_pure, List.append_nil]
    exact hsent

end Plan

namespace Series

/-- Running a series runs its plan. -/
theorem requests_runOn (series : Series) (engine : EngineKind) (world : World σ) :
    (series.runOn engine).requests env world =
      (series.plan.runOn engine).requests env world := by
  rw [runOn, requests_bind, requests_pure, List.append_nil]

/-- A run that connects runs its series in the connected world and closes last. -/
theorem run_connected (series : Series) (engine : EngineKind) (address : Address)
    {world connected : World σ}
    (hconnect : world.perform env (.connect address) = (.ok (), connected)) :
    (series.run engine address).run env world =
      (((series.runOn engine).run env connected).1,
        ((attempt .closeConnection .close).run env
          ((series.runOn engine).run env connected).2).2) := by
  have hperformed : Script.run env (perform (.connect address) : Script (Except Failure Unit))
      world = (.ok (), connected) := hconnect
  simp [run, Plan.run, runOn, hperformed]

/-- A run that does not connect ends there. -/
theorem run_refused (series : Series) (engine : EngineKind) (address : Address)
    {world refused : World σ} {failure : Failure}
    (hconnect : world.perform env (.connect address) = (.error failure, refused)) :
    (series.run engine address).run env world = ((.error failure, series), refused) := by
  have hperformed : Script.run env (perform (.connect address) : Script (Except Failure Unit))
      world = (.error failure, refused) := hconnect
  simp [run, Plan.run, hperformed]

end Series
end Bracket
end IndexBench
