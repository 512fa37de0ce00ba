import IndexBench.Proofs.Run.Untimed
import IndexBench.Proofs.Store.Statements

/-!
# Repetitions

A query of a run about a store yields what it yields alone, as the first one after the
selection.  Whatever was executed before it, in a warm-up, in an earlier repetition or by
another statement, does not matter.

Main definitions:

- `Plan.rounds` is the queries that a run executes.
- `yields` is what a catalog yields in a repetition, without figures of time.

Main results:

- Theorem `Script.counts_of_mem_attempts`: what is attempted yields what the store counts.
- Theorem `Plan.attempts_runOn_store`: what a run attempts and measures on a store.
- Theorem `Series.runOn_repeats`: every execution of a query in a run yields the same count or
  the same failure, and a warm-up changes nothing of the console but figures of time.
-/

namespace IndexBench

open Script

/-! ## Attempts on a store -/

section Stored

variable {stopwatch : Nat → Nat} {world : World Machine} {anchor : Anchor}
  {pages : Option Store.Pages} {connection : Store.Connection}

/-- A measured query on a store yields what the store counts. -/
theorem Deed.counts_of_attempt? {action : Action} {attempt : Attempt}
    (h : Deed.attempt? ⟨action, (world.perform (Machine.environment stopwatch) action).1⟩ =
      some attempt)
    (hlink : world.state.link = some (.store anchor pages connection)) {inquiry : Store.Inquiry}
    (hrequest : attempt.request = inquiry.request) :
    attempt.outcome.map Reading.count =
      connection.counts inquiry.table inquiry.selector inquiry.shape := by
  have hcount {outcome : Except Failure (Nat × Nat)} : (outcome.map fun counted =>
      (⟨counted.2, counted.1⟩ : Reading)).map Reading.count = outcome.map Prod.fst := by
    cases outcome <;> rfl
  have hanswer (request : Request) :
      ((measure request).run (Machine.environment stopwatch) world).1.map Prod.fst =
        (connection.answer request).outcome := by
    rw [outcome_measure]
    simp [Machine.environment, Machine.answer, hlink]
  obtain ⟨shape, table, selector⟩ := inquiry
  cases action with
  | measure request =>
      cases request with
      | countMatches counted _ =>
          cases h
          cases shape with
          | count =>
              cases hrequest
              exact hcount.trans (hanswer (.countMatches table selector))
          | enumerate => cases hrequest
      | enumerateMatches counted _ =>
          cases h
          cases shape with
          | count => cases hrequest
          | enumerate =>
              cases hrequest
              exact hcount.trans (hanswer (.enumerateMatches table selector))
      | _ => cases h
  | _ => cases h

/-- What a script attempts on a store yields what the store counts, as long as nothing but
questions were asked before. -/
theorem Script.counts_of_mem_attempts {α : Type} {kinds : List Action.Kind} {script : Script α}
    (huses : script.Uses kinds) (hconnect : .connect ∉ kinds) (hfile : .file ∉ kinds)
    (hasks : ∀ request ∈ script.requests (Machine.environment stopwatch) world,
      request.asks = true)
    (hlink : world.state.link = some (.store anchor pages connection)) :
    ∀ attempt ∈ script.attempts (Machine.environment stopwatch) world, ∀ inquiry : Store.Inquiry,
      attempt.request = inquiry.request →
        attempt.outcome.map Reading.count =
          connection.counts inquiry.table inquiry.selector inquiry.shape := by
  induction script generalizing world connection with
  | done value => exact fun _ hattempt => absurd hattempt List.not_mem_nil
  | step action next ih =>
      rw [requests_step, List.forall_mem_append] at hasks
      -- the store stays as it is but for the uses of tables, which no query depends on
      have hlinked : (world.perform (Machine.environment stopwatch) action).2.state.link =
          some (.store anchor pages
            (connection.noteUses (action.request?.toList.filterMap Request.table?))) := by
        rw [← Store.Connection.after_of_asks hasks.1]
        exact Machine.link_perform hlink (fun hkind => hconnect (hkind ▸ huses.1))
          fun hkind => hfile (hkind ▸ huses.1)
      intro attempt hattempt inquiry hrequest
      rw [attempts, trace, ← List.singleton_append, List.filterMap_append] at hattempt
      rcases List.mem_append.mp hattempt with hfirst | hlater
      · obtain ⟨deed, hdeed, hmeasured⟩ := List.mem_filterMap.mp hfirst
        rw [List.mem_singleton.mp hdeed] at hmeasured
        exact Deed.counts_of_attempt? hmeasured hlink hrequest
      · rw [ih _ (huses.2 _) hasks.2 hlinked attempt hlater inquiry hrequest,
          Store.Connection.counts_noteUses]

end Stored

/-! ## What queries yield -/

/-- What is measured in a turn, without its figure of time, if its query yields a count. -/
def Turn.untimed? (turn : Turn) (counted : Except Failure Nat) : Option Measurement :=
  counted.toOption.map fun count => ⟨turn.repetition, turn.place, ⟨0, count⟩⟩

/-- What a catalog yields in a repetition, without figures of time, if its queries yield given
counts or failures. -/
def yields (counted : RangeQuery → Except Failure Nat) (repetition : Nat) (catalog : Catalog) :
    List Measurement :=
  (turnsOf repetition 0 catalog).filterMap fun turn => turn.untimed? (counted turn.query)

/-- Without its figure of time, a turn measures the count of its attempt. -/
theorem Turn.untimed_measurement? (turn : Turn) (attempt : Attempt) :
    (turn.measurement? attempt).map Measurement.untimed =
      turn.untimed? (attempt.outcome.map Reading.count) := by
  unfold measurement?
  cases attempt.outcome <;> rfl

/-- Without figures of time, turns measure what their queries yield. -/
theorem map_untimed_measured {counted : RangeQuery → Except Failure Nat} {turns : List Turn}
    {attempts : List Attempt}
    (h : attempts.map (fun attempt => attempt.outcome.map Reading.count) =
      turns.map fun turn => counted turn.query) :
    (measured turns attempts).map Measurement.untimed =
      turns.filterMap fun turn => turn.untimed? (counted turn.query) := by
  have hzip : turns.zip (turns.map fun turn => counted turn.query) =
      turns.map fun turn => (turn, counted turn.query) := by
    have hpairs : (turns.map id).zip (turns.map fun turn => counted turn.query) =
        turns.map fun turn => (id turn, counted turn.query) := List.zip_map'
    rwa [List.map_id] at hpairs
  calc (measured turns attempts).map Measurement.untimed
    _ = (turns.zip (attempts.map fun attempt => attempt.outcome.map Reading.count)).filterMap
          fun turned => turned.1.untimed? turned.2 := by
        rw [measured, List.map_filterMap, List.zip_map_right, List.filterMap_map]
        exact congrArg (List.filterMap · _) (funext fun turned =>
          turned.1.untimed_measurement? turned.2)
    _ = turns.filterMap fun turn => turn.untimed? (counted turn.query) := by
        rw [h, hzip, List.filterMap_map]
        rfl

namespace Plan

/-- The queries that a run executes, in order. -/
def rounds (plan : Plan) : List RangeQuery :=
  (if plan.warmup then plan.catalog else []) ++
    (List.replicate plan.repetitions plan.catalog).flatten

/-- The requests of a run are those of its queries. -/
theorem queries_eq_rounds (plan : Plan) : plan.queries = plan.rounds.map plan.request := by
  rw [queries, rounds, List.map_append, List.map_flatten, List.map_replicate,
    apply_ite (List.map _)]
  rfl

/-- What turns yield is what each repetition yields. -/
theorem filterMap_turns (plan : Plan) (counted : RangeQuery → Except Failure Nat) :
    (plan.turns.filterMap fun turn => turn.untimed? (counted turn.query)) =
      (List.range plan.repetitions).flatMap fun repetition =>
        yields counted repetition plan.catalog :=
  List.filterMap_flatMap

/-- A query of a plan, in its shape and on its table. -/
def inquiry (plan : Plan) (query : RangeQuery) : Store.Inquiry :=
  ⟨plan.shape, plan.table, query.selector⟩

/-- A query of a plan is sent as its request. -/
theorem request_inquiry (plan : Plan) (query : RangeQuery) :
    plan.request query = (plan.inquiry query).request := by
  unfold inquiry Store.Inquiry.request request
  cases plan.shape <;> rfl

/-- Attempts of known queries that yield known counts are known. -/
theorem map_attempts {plan : Plan} {attempts : List Attempt} {queries : List RangeQuery}
    {counted : RangeQuery → Except Failure Nat}
    (hrequests : attempts.map Attempt.request = queries.map plan.request)
    (hcounts : ∀ attempt ∈ attempts, ∀ query, attempt.request = plan.request query →
      attempt.outcome.map Reading.count = counted query) :
    attempts.map (fun attempt => (attempt.request, attempt.outcome.map Reading.count)) =
      queries.map fun query => (plan.request query, counted query) := by
  induction attempts generalizing queries with
  | nil =>
      rw [List.map_eq_nil_iff.mp hrequests.symm]
      rfl
  | cons attempt attempts ih =>
      cases queries with
      | nil => cases hrequests
      | cons query queries =>
          obtain ⟨hfirst, hlater⟩ := List.cons_eq_cons.mp hrequests
          obtain ⟨hcount, hcounts⟩ := List.forall_mem_cons.mp hcounts
          rw [List.map_cons, List.map_cons, ih hlater hcounts, hcount query hfirst, hfirst]

section Stored

variable (plan : Plan) (engine : EngineKind) (stopwatch : Nat → Nat) {world : World Machine}
  {anchor : Anchor} {pages : Option Store.Pages} {connection : Store.Connection}

/-- What a query of a plan counts on a connection once the plan has selected its index. -/
def counted (connection : Store.Connection) (query : RangeQuery) : Except Failure Nat :=
  (connection.after (Configuration.selection plan.table plan.selected)).counts plan.table
    query.selector plan.shape

/-- What a run attempts on a store is its queries in order, and each of them yields what it
counts after the selection. -/
theorem attempts_runOn_store (hlink : world.state.link = some (.store anchor pages connection))
    (hworld : world.Unlimited) :
    ((plan.runOn engine).attempts (Machine.environment stopwatch) world).map
        (fun attempt => (attempt.request, attempt.outcome.map Reading.count)) =
      plan.rounds.map (fun query => (plan.request query, plan.counted connection query)) ∧
    ((plan.runOn engine).run (Machine.environment stopwatch) world).1.measurements.map
        Measurement.untimed =
      (List.range plan.repetitions).flatMap fun repetition =>
        yields (plan.counted connection) repetition plan.catalog := by
  obtain ⟨opened, ended, measurements, hopen, hmeasure, hopened, -, hrun, htrace⟩ :=
    plan.runOn_stages engine (Machine.environment stopwatch) hworld
  have hlinkOpened := plan.link_opening engine stopwatch hlink hworld
  rw [hopen] at hlinkOpened
  obtain ⟨warming, measuring, hattempts, hwarming, hmeasuring, hbody⟩ :=
    plan.body_complete (Machine.environment stopwatch) hopened
  have hcounts : ∀ attempt ∈ warming ++ measuring, ∀ query,
      attempt.request = plan.request query →
        attempt.outcome.map Reading.count = plan.counted connection query := by
    intro attempt hattempt query hrequest
    rw [← hattempts] at hattempt
    exact Script.counts_of_mem_attempts plan.body_uses (by decide) (by decide)
      (plan.inquires_body.asks _ opened) hlinkOpened attempt hattempt (plan.inquiry query)
      (hrequest.trans (plan.request_inquiry query))
  refine ⟨?_, ?_⟩
  · have hrequests : (warming ++ measuring).map Attempt.request =
        plan.rounds.map plan.request := by
      rw [List.map_append, hwarming, hmeasuring, ← queries_eq_rounds, queries_eq]
    rw [← map_attempts hrequests hcounts, ← hattempts, attempts, htrace, List.filterMap_append,
      List.filterMap_append, ← attempts, ← attempts, ← attempts,
      (plan.opening_uses engine).attempts_eq (by decide), List.nil_append,
      (plan.conclude_uses engine measurements).attempts_eq (by decide), List.append_nil]
  · have hturns : measuring.map (fun attempt => attempt.outcome.map Reading.count) =
        plan.turns.map fun turn => plan.counted connection turn.query := by
      have hpairs : measuring.map (fun attempt => (attempt.request,
          attempt.outcome.map Reading.count)) = (plan.turns.map Turn.query).map fun query =>
            (plan.request query, plan.counted connection query) :=
        map_attempts (by rw [hmeasuring, List.map_map]; rfl)
          fun attempt hattempt => hcounts attempt (List.mem_append_right _ hattempt)
      have hsecond := congrArg (List.map Prod.snd) hpairs
      rw [List.map_map, List.map_map, List.map_map] at hsecond
      exact hsecond
    have hmeasured : measurements = measured plan.turns measuring := by
      rw [hmeasure] at hbody
      exact congrArg Prod.fst hbody
    rw [hrun, ← filterMap_turns, ← map_untimed_measured hturns, hmeasured]

end Stored
end Plan

/-! ## Runs -/

namespace Series

/-- Running a series attempts what its plan attempts. -/
theorem attempts_runOn {σ : Type} (series : Series) (engine : EngineKind) (env : Environment σ)
    (world : World σ) :
    (series.runOn engine).attempts env world = (series.plan.runOn engine).attempts env world := by
  rw [attempts, trace_runOn, attempts]

/-- Running a series measures what its plan measures. -/
theorem measurements_runOn {σ : Type} (series : Series) (engine : EngineKind)
    (env : Environment σ) (world : World σ) :
    ((series.runOn engine).run env world).1.2.measurements =
      ((series.plan.runOn engine).run env world).1.measurements := by
  rw [run_runOn]
  rfl

section Stored

variable (series : Series) (engine : EngineKind) {world : World Machine} {anchor : Anchor}
  {pages : Option Store.Pages} {connection : Store.Connection}
  (hlink : world.state.link = some (.store anchor pages connection))
include hlink

/-- The console of a run about a store shows the lines of the run. -/
theorem lines_runOn_store (stopwatch : Nat → Nat) :
    let ended := (series.runOn engine).run (Machine.environment stopwatch) (world.onto .unlimited)
    Text.lines ended.2.console.text =
      runLines ((connection.after (Configuration.selection series.plan.table
          series.plan.selected)).settingLines series.plan.table)
        ((connection.settled series.plan.table).settingLines series.plan.table)
        series.plan.repetitions ended.1.2.measurements ++ [""] := by
  intro ended
  have hworld : (world.onto .unlimited).Unlimited := rfl
  have hlinked : (world.onto .unlimited).state.link =
    some (.store anchor pages connection) := hlink
  obtain ⟨_, _, measurements, -, -, -, -, hrun, -⟩ :=
    series.plan.runOn_stages engine (Machine.environment stopwatch) hworld
  have hok : ended.1.1 =
      .ok (Summary.ofReadings (measurements.map Measurement.reading)) := by
    simp only [ended, run_runOn, hrun]
  have htext : ended.2.console.text = (series.plan.runOn engine).printed
      (Machine.environment stopwatch) (world.onto .unlimited) :=
    (series.runOn_of_ok (Machine.environment stopwatch) engine world hok).2.2
  have hlines := newline_notMem_runLines
    (Store.Connection.newline_notMem_settingLines
      (connection.after (Configuration.selection series.plan.table series.plan.selected))
      series.plan.table)
    (Store.Connection.newline_notMem_settingLines (connection.settled series.plan.table)
      series.plan.table) series.plan.repetitions ended.1.2.measurements
  rw [htext, ← Text.lines_ofLines hlines, measurements_runOn,
    series.plan.printed_runOn_store engine stopwatch hlinked hworld]

end Stored

/-- A run about a store measures what its queries yield alone, each as the first one after the
selection: every execution of a query, in a warm-up and in every repetition, yields this count
or this failure, and every repetition the same list.  Without figures of time the console shows
the same lines with a warm-up and without one, whatever the time that executions take.  Other
queries may come before a query as well, in any order and whichever of them fail: it yields what
it yields alone, also if statements are kept with their matchers and executed again. -/
theorem runOn_repeats (series : Series) (engine : EngineKind) (stopwatch : Nat → Nat)
    {world : World Machine} {anchor : Anchor} {pages : Option Store.Pages}
    {connection : Store.Connection}
    (hlink : world.state.link = some (.store anchor pages connection)) :
    let env := Machine.environment stopwatch
    let plan := series.plan
    let start := world.onto .unlimited
    let ended := (series.runOn engine).run env start
    let configured :=
      ((Configuration.configure engine plan.table plan.selected).run.run env start).2
    let alone (shape : QueryShape) (table : TableName) (query : RangeQuery) :=
      ((execute shape table query).run env configured).1.map Reading.count
    ((series.runOn engine).attempts env start).map
        (fun attempt => (attempt.request, attempt.outcome.map Reading.count)) =
      plan.rounds.map (fun query => (plan.request query, alone plan.shape plan.table query)) ∧
    ended.1.2.measurements.map Measurement.untimed =
      (List.range plan.repetitions).flatMap (fun repetition =>
        yields (alone plan.shape plan.table) repetition plan.catalog) ∧
    (∀ (warmup : Bool) (stopwatch' : Nat → Nat),
      let other : Series := { series with plan := { plan with warmup := warmup } }
      (Text.lines ((other.runOn engine).run (Machine.environment stopwatch')
        start).2.console.text).map eraseElapsed =
          (Text.lines ended.2.console.text).map eraseElapsed) ∧
    (∀ (α : Type) (inner : Script α), inner.Inquires → ∀ shape table query,
      ((execute shape table query).run env (inner.run env configured).2).1.map Reading.count =
        alone shape table query) ∧
    ∃ selected, configured.state.link = some (.store anchor pages selected) ∧
      ∀ statements : Store.Statements, statements.Idle → ∀ capacity earlier shape table query,
        (Store.Connection.inquire capacity
          (Store.Connection.inquired capacity (selected, statements) earlier)
          ⟨shape, table, query.selector⟩).1 = alone shape table query := by
  intro env plan start ended configured alone
  have hworld : start.Unlimited := rfl
  have hlinked : start.state.link = some (.store anchor pages connection) := hlink
  have hconfigured :=
    Configuration.link_configure engine plan.table plan.selected stopwatch hlinked hworld
  have halone (shape : QueryShape) (table : TableName) (query : RangeQuery) :
      alone shape table query =
        (connection.after (Configuration.selection plan.table plan.selected)).counts table
          query.selector shape :=
    Store.Connection.count_execute table query shape stopwatch hconfigured
  -- alone or in the run, a query yields what the store counts after the selection
  have hcounted : alone plan.shape plan.table = plan.counted connection :=
    funext fun query => halone plan.shape plan.table query
  obtain ⟨hattempts, hmeasured⟩ := plan.attempts_runOn_store engine stopwatch hlinked hworld
  refine ⟨?_, ?_, fun warmup stopwatch' => ?_, fun α inner hinner shape table query => ?_,
    _, hconfigured, fun statements hidle capacity earlier shape table query => ?_⟩
  · rw [hcounted, ← hattempts, attempts_runOn]
  · rw [hcounted, ← hmeasured, measurements_runOn]
  · intro other
    obtain ⟨-, hother⟩ := other.plan.attempts_runOn_store engine stopwatch' hlinked hworld
    have hlines := series.lines_runOn_store engine hlink stopwatch
    have hlinesOther := other.lines_runOn_store engine hlink stopwatch'
    rw [hlines, hlinesOther, List.map_append, List.map_append]
    refine congrArg (· ++ _) (map_eraseElapsed_runLines ?_ _ _ _)
    rw [measurements_runOn, measurements_runOn]
    exact hother.trans hmeasured.symm
  · obtain ⟨tables, hasked⟩ := hinner.link_run stopwatch hconfigured
    rw [halone, ← Store.Connection.counts_noteUses tables]
    exact Store.Connection.count_execute table query shape stopwatch hasked
  · rw [halone, Store.Connection.inquire_inquired _ hidle]

/-- A query whose matcher cannot be read fails in the warm-up and in both repetitions, and the
next query counts the same each time. -/
theorem runOn_repeats_failing :
    let records : TableName := ⟨"records", rfl⟩
    let connection := (Store.Connection.opened .empty none).after
      [.recreateTable records, .insertRows records [⟨"", 1, ""⟩, ⟨"/b", 2, ""⟩]]
    let world := World.fresh
      (⟨.empty [], .unreachable, some (.store .hidden none connection)⟩ : Machine) .unlimited
    let series := Series.unrun
      ⟨[⟨"(", 0, 9⟩, ⟨"", 0, 9⟩], records, .pathFirst, .enumerate, 2, true⟩
    let unwarmed : Series := { series with plan := { series.plan with warmup := false } }
    ((series.runOn .embedded).run (Machine.environment fun _ => 5)
        (world.onto .unlimited)).1.2.measurements.map Measurement.untimed =
        [⟨0, 1, ⟨0, 1⟩⟩, ⟨1, 1, ⟨0, 1⟩⟩] ∧
      (Text.lines ((unwarmed.runOn .embedded).run (Machine.environment fun _ => 7)
        (world.onto .unlimited)).2.console.text).map eraseElapsed =
          (Text.lines ((series.runOn .embedded).run (Machine.environment fun _ => 5)
            (world.onto .unlimited)).2.console.text).map eraseElapsed := by
  intro records connection world series unwarmed
  have hlink : world.state.link = some (.store .hidden none connection) := rfl
  obtain ⟨-, hmeasured, hlines, -⟩ := runOn_repeats series .embedded (fun _ => 5) hlink
  have hsame := hlines false fun _ => 7
  dsimp only at hsame
  refine ⟨?_, ?_⟩
  · rw [hmeasured]
    decide
  · with_reducible exact hsame

end Series
end IndexBench
