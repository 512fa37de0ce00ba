import IndexBench.Engine.Interference
import IndexBench.Machine
import IndexBench.Proofs.Run.Interruption
import Mathlib.Data.List.Forall2

/-!
# Reported failures

A request that fails does not end a run, so its failure would be lost if the run did not
note it.  It does so for every failure and once, in the order in which requests fail: each
error that a run notes is the failure of one request, and no request fails without one.  A
fault of the console is no error of this kind.  It is what the run ends with.

A script may leave the failure of its last request to what comes after it.  What it owes is
part of what it accounts for, so accounts add up along scripts in a row.

Main definitions:

- `Event.Reports` says that an event reports a request that failed.
- `Script.Accounts` says that a script reports the requests that fail, up to those that it
  leaves to what comes after it.
- `Environment.Silent` says that an engine reports its failures by its answers only.

Main results:

- Theorem `Script.errors_run`: over a silent engine the errors of a world are those that
  scripts note.
- Theorem `Plan.runOn_accounts`: a run reports every request of its own that fails.
- Theorem `Series.run_reported`: the errors that a run notes are the reports of its failed
  requests, one by one and in order, and a fault of the console is what it ends with.
-/

namespace IndexBench

open Script

/-! ## Errors and failed requests -/

/-- Whether an event is an error. -/
def Event.isError (event : Event) : Bool :=
  event.level == .error

/-- Whether a request failed. -/
def Call.failed (call : Call) : Bool :=
  call.failure.isSome

/-- The event that a deed notes. -/
def Deed.note? : Deed → Option Event
  | ⟨.note event, _⟩ => some event
  | _ => none

/-- Whether a purpose is that of a request. -/
inductive Purpose.IsOf : Purpose → Request → Prop where
  | disableScan : IsOf .disableScan (.setScanFallback false)
  | enableScan : IsOf .enableScan (.setScanFallback true)
  | setEligible (index : String) (eligible : Bool) :
      IsOf (.setEligible index eligible) (.setIndexEligible index eligible)
  | readScan : IsOf .readScan .scanFallback
  | readEligibility (index : String) : IsOf (.readEligibility index) (.indexEligibility index)
  | measure (plan : Plan) (place : Nat) (query : RangeQuery) :
      IsOf (.measure place query) (plan.request query)
  | warmUp (plan : Plan) (place : Nat) (query : RangeQuery) :
      IsOf (.warmUp place query) (plan.request query)
  | closeConnection : IsOf .closeConnection .close

/-- Whether an event reports a request that failed: it names the failure, and a purpose of
the request. -/
def Event.Reports (event : Event) (call : Call) : Prop :=
  ∃ purpose failure, event = .failed purpose failure ∧ purpose.IsOf call.request ∧
    call.failure = some failure

/-- The text under which a failure is logged is its wording, and that of every cause below it
after a colon. -/
theorem Failure.report_eq (failure : Failure) :
    failure.report = failure.message ++ String.join (failure.causes.map (": " ++ ·)) := by
  rw [report]
  generalize failure.message = text
  induction failure.causes generalizing text with
  | nil => simp
  | cons cause causes ih =>
      rw [List.foldl_cons, ih, List.map_cons, String.join_cons]
      simp only [String.append_assoc]

/-! ## Engines that take no notes of errors -/

/-- Whether the engine of an environment reports its failures by its answers only, and notes
no error itself. -/
structure Environment.Silent {σ : Type} (env : Environment σ) : Prop where
  answer : ∀ (request : Request) (state : σ), ∀ event ∈ (env.answer request state).events,
    event.isError = false
  connect : ∀ (address : Address) (state : σ), ∀ event ∈ (env.connect address state).events,
    event.isError = false

/-- The store notes no error. -/
theorem Store.Connection.answer_silent (connection : Store.Connection) (request : Request) :
    ∀ event ∈ (connection.answer request).events, event.isError = false := by
  cases request with
  | setIndexEligible index eligible =>
      simp only [answer]
      split <;> exact List.forall_mem_nil _
  | insertRows table rows =>
      simp only [answer]
      split
      · exact List.forall_mem_singleton.mpr rfl
      · exact List.forall_mem_nil _
  | _ => exact List.forall_mem_nil _

/-- A connection to a server notes no error. -/
theorem Server.Connection.answer_silent (connection : Server.Connection) (request : Request) :
    ∀ event ∈ (connection.answer request).events, event.isError = false := by
  cases request with
  | close =>
      simp only [answer, disconnect]
      split
      · split
        · exact List.forall_mem_singleton.mpr rfl
        · exact List.forall_mem_nil _
      · exact List.forall_mem_nil _
  | _ =>
      simp only [answer]
      split <;> exact List.forall_mem_nil _

/-- A machine notes no error. -/
theorem Machine.environment_silent (stopwatch : Nat → Nat) : (environment stopwatch).Silent where
  answer request machine := by
    simp only [environment, answer]
    split
    · exact List.forall_mem_nil _
    · exact Store.Connection.answer_silent _ request
    · exact Server.Connection.answer_silent _ request
  connect address machine := by
    cases address with
    | memory => exact List.forall_mem_nil _
    | store text =>
        simp only [environment, connect, openStore]
        split <;> exact List.forall_mem_nil _
    | server url =>
        simp only [environment, connect, openServer]
        split
        · exact List.forall_mem_nil _
        · exact List.forall_mem_nil _
        · exact List.forall_mem_singleton.mpr rfl

/-- An engine whose requests are interfered with notes no error if it noted none before. -/
theorem Environment.Silent.disturb {σ : Type} {env : Environment σ} (h : env.Silent) :
    env.disturb.Silent where
  answer request state := by
    have hforward (state : Disturbed σ) : ∀ event ∈ (state.forward env request).events,
        event.isError = false := h.answer request state.inner
    simp only [Environment.disturb, Disturbed.answer]
    split
    · exact hforward state
    · split
      · exact List.forall_mem_nil _
      · split
        · exact List.forall_mem_nil _
        · exact hforward _
  connect address state := by
    simp only [Environment.disturb, Disturbed.connect]
    split <;> exact List.forall_mem_nil _

/-! ## Accounts of scripts -/

namespace Script

variable {σ α β : Type}

/-- The errors that a script notes, in order. -/
def errors (env : Environment σ) (script : Script α) (world : World σ) : List Event :=
  ((script.trace env world).filterMap Deed.note?).filter Event.isError

/-- The requests of a script that fail, in order. -/
def failedCalls (env : Environment σ) (script : Script α) (world : World σ) : List Call :=
  ((script.trace env world).filterMap Deed.call?).filter Call.failed

@[simp]
theorem errors_bind (env : Environment σ) (script : Script α) (f : α → Script β)
    (world : World σ) :
    (script >>= f).errors env world =
      script.errors env world ++
        (f (script.run env world).1).errors env (script.run env world).2 := by
  simp [errors]

@[simp]
theorem failedCalls_bind (env : Environment σ) (script : Script α) (f : α → Script β)
    (world : World σ) :
    (script >>= f).failedCalls env world =
      script.failedCalls env world ++
        (f (script.run env world).1).failedCalls env (script.run env world).2 := by
  simp [failedCalls]

/-- Over a silent engine an action adds an error to those of a world only by noting it. -/
theorem errors_perform {env : Environment σ} (h : env.Silent) (world : World σ)
    (action : Action) :
    (world.perform env action).2.events.filter Event.isError =
      world.events.filter Event.isError ++
        (Deed.note? ⟨action, (world.perform env action).1⟩).toList.filter Event.isError := by
  have hrecord (request : Request) :
      (world.events ++ (env.answer request world.state).events).filter Event.isError =
        world.events.filter Event.isError := by
    have hnone : (env.answer request world.state).events.filter Event.isError = [] :=
      List.filter_eq_nil_iff.mpr fun event hevent => by simp [h.answer request _ event hevent]
    rw [List.filter_append, hnone, List.append_nil]
  cases action with
  | call request => exact (hrecord request).trans (List.append_nil _).symm
  | measure request =>
      simp only [World.perform]
      split <;> exact (hrecord request).trans (List.append_nil _).symm
  | write text => exact (List.append_nil _).symm
  | note event => exact List.filter_append _ _
  | connect address =>
      have hnone : (env.connect address world.state).events.filter Event.isError = [] :=
        List.filter_eq_nil_iff.mpr fun event hevent => by simp [h.connect address _ event hevent]
      simp only [World.perform, List.filter_append, hnone]
      rfl
  | inspect path => exact (List.append_nil _).symm
  | save path bytes =>
      simp only [World.perform]
      split <;> exact (List.append_nil _).symm

/-- Over a silent engine the errors of a world are those that scripts note. -/
theorem errors_run {env : Environment σ} (h : env.Silent) (script : Script α)
    (world : World σ) :
    (script.run env world).2.events.filter Event.isError =
      world.events.filter Event.isError ++ script.errors env world := by
  induction script generalizing world with
  | done value => exact (List.append_nil _).symm
  | step action next ih =>
      have hrest := ih (world.perform env action).1 (world.perform env action).2
      rw [errors_perform h, List.append_assoc] at hrest
      refine hrest.trans (congrArg _ ?_)
      rw [errors, errors, trace, List.filterMap_cons, ← List.filter_append]
      cases Deed.note? ⟨action, (world.perform env action).1⟩ <;> rfl

/-- Whether a script accounts for the requests that fail: of those that are owed a report
when it begins and those that fail in it, its errors report the first ones one by one, and
the others are owed when it ends. -/
def Accounts (owed : List Call) (script : Script α) (owes : α → List Call) : Prop :=
  ∀ (σ : Type) (env : Environment σ) (world : World σ), ∃ settled,
    owed ++ script.failedCalls env world = settled ++ owes (script.run env world).1 ∧
      List.Forall₂ Event.Reports (script.errors env world) settled

/-- Whether a script reports every request of its own that fails. -/
abbrev ReportsAll (script : Script α) : Prop :=
  script.Accounts [] fun _ => []

/-- A request is owed a report if it failed. -/
def owing (request : Request) (outcome : Except Failure α) : List Call :=
  [⟨request, failureOf outcome⟩].filter Call.failed

namespace Accounts

variable {owed : List Call} {owes : α → List Call} {owes' : β → List Call}

/-- A value owes what was owed before. -/
theorem pure (owes : α → List Call) (value : α) :
    (Pure.pure value : Script α).Accounts (owes value) owes :=
  fun _ _ _ => ⟨[], List.append_nil _, .nil⟩

/-- Accounts add up along scripts in a row. -/
theorem bind {script : Script α} {f : α → Script β} (h : script.Accounts owed owes)
    (hf : ∀ value, (f value).Accounts (owes value) owes') :
    (script >>= f).Accounts owed owes' := by
  intro σ env world
  obtain ⟨first, hfirst, hreports⟩ := h σ env world
  obtain ⟨second, hsecond, hreports'⟩ :=
    hf (script.run env world).1 σ env (script.run env world).2
  refine ⟨first ++ second, ?_, ?_⟩
  · calc owed ++ (script >>= f).failedCalls env world
        = first ++ (owes (script.run env world).1 ++
            (f (script.run env world).1).failedCalls env (script.run env world).2) := by
          rw [failedCalls_bind, ← List.append_assoc, hfirst, List.append_assoc]
      _ = first ++ second ++ owes' ((script >>= f).run env world).1 := by
          rw [hsecond, List.append_assoc, run_bind]
  · rw [errors_bind]
    exact List.rel_append hreports hreports'

/-- An event that is no error settles nothing. -/
theorem note {event : Event} (h : event.isError = false) :
    (note event).Accounts owed fun _ => owed := by
  intro σ env world
  have herrors : (Script.note event).errors env world = [] :=
    List.filter_eq_nil_iff.mpr fun noted hnoted => by
      rw [List.mem_singleton.mp hnoted, h]
      exact Bool.false_ne_true
  exact ⟨[], List.append_nil _, herrors ▸ .nil⟩

/-- Noting a failure under the purpose of its request settles it. -/
theorem report {purpose : Purpose} {request : Request} (h : purpose.IsOf request)
    (failure : Failure) :
    (Script.note (.failed purpose failure)).Accounts [⟨request, some failure⟩] fun _ => [] :=
  fun _ _ _ => ⟨[⟨request, some failure⟩], rfl, .cons ⟨purpose, failure, rfl, h, rfl⟩ .nil⟩

/-- A text that is written is owed no report, even if the console fails. -/
theorem write (text : String) : (Script.write text).ReportsAll :=
  fun _ _ _ => ⟨[], rfl, .nil⟩

/-- Connecting is owed no report, even if it fails. -/
theorem connect (address : Address) : (perform (.connect address)).ReportsAll :=
  fun _ _ _ => ⟨[], rfl, .nil⟩

/-- A request that fails is owed a report. -/
theorem call (request : Request) : (Script.call request).Accounts [] (owing request) :=
  fun _ _ _ => ⟨[], rfl, .nil⟩

/-- A measured request that fails is owed a report. -/
theorem measure (request : Request) : (Script.measure request).Accounts [] (owing request) :=
  fun _ _ _ => ⟨[], rfl, .nil⟩

/-- An attempt under the purpose of its request reports its failure. -/
theorem attempt {purpose : Purpose} {request : Request} (h : purpose.IsOf request) :
    (attempt purpose request).ReportsAll := by
  refine (call request).bind fun outcome => ?_
  cases outcome with
  | ok reply => exact pure (fun _ => []) _
  | error failure => exact (report h failure).bind fun _ => pure (fun _ => []) _

end Accounts

/-- A value has nothing to report. -/
theorem ReportsAll.pure (value : α) : (Pure.pure value : Script α).ReportsAll :=
  Accounts.pure (fun _ => []) value

end Script

/-! ## Configurations -/

namespace Printing

variable {α β : Type}

/-- Printing scripts in a row report what each of them reports. -/
theorem reportsAll_bind {script : Printing α} {f : α → Printing β} (h : script.run.ReportsAll)
    (hf : ∀ value, (f value).run.ReportsAll) : (script >>= f).run.ReportsAll := by
  refine Accounts.bind h fun result => ?_
  cases result with
  | error fault => exact ReportsAll.pure _
  | ok value => exact hf value

/-- A script that does not print reports what it reports. -/
theorem reportsAll_lift {script : Script α} (h : script.ReportsAll) :
    (liftM script : Printing α).run.ReportsAll :=
  h.bind fun _ => ReportsAll.pure _

end Printing

namespace Configuration

/-- Making an index eligible or not reports its failure. -/
theorem setEligible_reportsAll (table : TableName) (eligible : Bool) (order : IndexOrder) :
    (setEligible table eligible order).ReportsAll :=
  (Accounts.attempt (.setEligible _ eligible)).bind fun _ => ReportsAll.pure ()

/-- A selection reports its failures. -/
theorem select_reportsAll (engine : EngineKind) (table : TableName) (selected : IndexOrder) :
    (select engine table selected).ReportsAll :=
  (Accounts.note rfl).bind fun _ => (Accounts.attempt .disableScan).bind fun _ =>
    (setEligible_reportsAll table _ .valueFirst).bind fun _ =>
      (setEligible_reportsAll table _ .pathFirst).bind fun _ => ReportsAll.pure ()

/-- A restoration reports its failures. -/
theorem restore_reportsAll (engine : EngineKind) (table : TableName) :
    (restore engine table).ReportsAll := by
  have hindexes : (IndexOrder.reportSequence.reverse.forM (setEligible table true)).ReportsAll :=
    (setEligible_reportsAll table true .pathFirst).bind fun _ =>
      (setEligible_reportsAll table true .valueFirst).bind fun _ => ReportsAll.pure ()
  exact (Accounts.note rfl).bind fun _ => hindexes.bind fun _ =>
    (Accounts.attempt .enableScan).bind fun _ => ReportsAll.pure ()

/-- An abandoned session reports the failures of its restoration. -/
theorem abandon_reportsAll (engine : EngineKind) (table : TableName) :
    (abandon engine table).ReportsAll :=
  (Accounts.note rfl).bind fun _ => restore_reportsAll engine table

/-- A report of a configuration reports the lookups that fail, and leaves their lines out. -/
theorem report_reportsAll (table : TableName) : (report table).run.ReportsAll := by
  have hline (label : String) (value : Option (Option String)) :
      (reportLine label value).run.ReportsAll := by
    unfold reportLine
    split
    · exact .write _
    · exact ReportsAll.pure _
  have hsetting {purpose : Purpose} {request : Request} (hpurpose : purpose.IsOf request)
      (f : Option request.Reply → Printing Unit) (hf : ∀ value, (f value).run.ReportsAll) :
      (liftM (attempt purpose request) >>= f).run.ReportsAll :=
    Printing.reportsAll_bind (Printing.reportsAll_lift (.attempt hpurpose)) hf
  have hindex (order : IndexOrder) : (reportIndex table order).run.ReportsAll :=
    hsetting (.readEligibility _) _ fun _ => hline _ _
  exact Printing.reportsAll_bind (Accounts.write _) fun _ =>
    Printing.reportsAll_bind (hsetting .readScan _ fun _ => hline _ _) fun _ =>
      Printing.reportsAll_bind
        (Printing.reportsAll_bind (hindex .valueFirst) fun _ =>
          Printing.reportsAll_bind (hindex .pathFirst) fun _ => ReportsAll.pure _)
        fun _ => Accounts.write _

/-- A configuration reports its failures, also if the console ends it. -/
theorem configure_reportsAll (engine : EngineKind) (table : TableName) (selected : IndexOrder) :
    (configure engine table selected).run.ReportsAll := by
  rw [run_configure]
  refine (select_reportsAll engine table selected).bind fun _ =>
    (report_reportsAll table).bind fun reported => ?_
  cases reported with
  | ok _ => exact ReportsAll.pure _
  | error fault => exact (abandon_reportsAll engine table).bind fun _ => ReportsAll.pure _

end Configuration

/-! ## Runs -/

namespace Plan

/-- Executing a query leaves its failure to be reported. -/
theorem execute_accounts (plan : Plan) (query : RangeQuery) :
    (execute plan.shape plan.table query).Accounts [] (owing (plan.request query)) := by
  have hmeasure : (measureQuery plan.shape plan.table query.selector).Accounts []
      (owing (plan.request query)) := by
    unfold measureQuery request
    cases plan.shape with
    | count => exact .measure _
    | enumerate => exact .measure _
  refine hmeasure.bind fun outcome => ?_
  cases outcome with
  | error failure => exact .pure (owing (plan.request query)) (.error failure)
  | ok counted => exact (Accounts.note rfl).bind fun _ => .pure (owing (plan.request query)) (.ok _)

/-- A warm-up reports every query that fails. -/
theorem warmUp_reportsAll (plan : Plan) : plan.warmUp.ReportsAll := by
  have hfrom (place : Nat) (queries : List RangeQuery) :
      (plan.warmUpFrom place queries).ReportsAll := by
    induction queries generalizing place with
    | nil => exact ReportsAll.pure ()
    | cons query queries ih =>
        refine (plan.execute_accounts query).bind fun outcome => ?_
        cases outcome with
        | ok reading => exact (Accounts.note rfl).bind fun _ => ih (place + 1)
        | error failure =>
            exact (Accounts.report (.warmUp plan place query) failure).bind fun _ => ih (place + 1)
  exact (Accounts.note rfl).bind fun _ => hfrom 0 plan.catalog

/-- Measuring queries reports those that fail. -/
theorem measureFrom_reportsAll (plan : Plan) (repetition place : Nat)
    (queries : List RangeQuery) : (plan.measureFrom repetition place queries).ReportsAll := by
  induction queries generalizing place with
  | nil => exact ReportsAll.pure _
  | cons query queries ih =>
      refine (plan.execute_accounts query).bind fun outcome => ?_
      cases outcome with
      | error failure =>
          exact (Accounts.report (.measure plan place query) failure).bind fun _ => ih (place + 1)
      | ok reading =>
          refine Accounts.bind (Accounts.write _) fun written => ?_
          cases written with
          | error fault => exact ReportsAll.pure _
          | ok _ => exact (ih (place + 1)).bind fun _ => ReportsAll.pure _

/-- Measuring the catalog reports the queries that fail. -/
theorem measureOnce_reportsAll (plan : Plan) (repetition : Nat) :
    (plan.measureOnce repetition).ReportsAll := by
  refine (plan.measureFrom_reportsAll repetition 0 plan.catalog).bind fun measured => ?_
  rcases measured with ⟨measurements, fault | _⟩
  · exact ReportsAll.pure _
  · refine Accounts.bind (Accounts.write _) fun written => ?_
    cases written with
    | error fault => exact ReportsAll.pure _
    | ok _ => exact (Accounts.note rfl).bind fun _ => ReportsAll.pure _

/-- Measuring the catalog a number of times reports the queries that fail. -/
theorem measureTimes_reportsAll (plan : Plan) (times repetition : Nat) :
    (plan.measureTimes times repetition).ReportsAll := by
  induction times generalizing repetition with
  | zero => exact ReportsAll.pure _
  | succ times ih =>
      refine (plan.measureOnce_reportsAll repetition).bind fun measured => ?_
      rcases measured with ⟨measurements, fault | _⟩
      · exact ReportsAll.pure _
      · exact (ih (repetition + 1)).bind fun _ => ReportsAll.pure _

/-- Between its beginning and its end a session reports the queries that fail. -/
theorem body_reportsAll (plan : Plan) : plan.body.ReportsAll := by
  have htimes := plan.measureTimes_reportsAll plan.repetitions 0
  unfold body
  cases plan.warmup with
  | false => exact htimes
  | true => exact plan.warmUp_reportsAll.bind fun _ => htimes

/-- Concluding a session reports the failures of its restoration and of its lookups. -/
theorem conclude_reportsAll (plan : Plan) (engine : EngineKind)
    (measurements : List Measurement) :
    (plan.conclude engine measurements).run.ReportsAll := by
  have hreset : (Configuration.reset engine plan.table).run.ReportsAll :=
    Printing.reportsAll_bind
      (Printing.reportsAll_lift (Configuration.restore_reportsAll engine plan.table))
      fun _ => Configuration.report_reportsAll plan.table
  exact Printing.reportsAll_bind hreset fun _ =>
    Printing.reportsAll_bind (Accounts.write _) fun _ =>
      Printing.reportsAll_bind (Printing.reportsAll_lift (.note rfl)) fun _ => ReportsAll.pure _

/-- A run reports every request of its own that fails, wherever the console ends it. -/
theorem runOn_accounts (plan : Plan) (engine : EngineKind) :
    (plan.runOn engine).ReportsAll := by
  refine (Accounts.note rfl).bind fun _ =>
    (Configuration.configure_reportsAll engine plan.table plan.selected).bind
      fun configured => ?_
  cases configured with
  | error fault => exact ReportsAll.pure _
  | ok _ =>
      refine plan.body_reportsAll.bind fun measured => ?_
      rcases measured with ⟨measurements, fault | _⟩
      · exact (Configuration.abandon_reportsAll engine plan.table).bind fun _ => ReportsAll.pure _
      · exact (plan.conclude_reportsAll engine measurements).bind fun _ => ReportsAll.pure _

/-- A run that connects reports the failure to close its connection as well. -/
theorem run_accounts (plan : Plan) (engine : EngineKind) (address : Address) :
    (plan.run engine address).ReportsAll := by
  refine (Accounts.connect address).bind fun connected => ?_
  cases connected with
  | error failure => exact ReportsAll.pure _
  | ok _ =>
      exact (plan.runOn_accounts engine).bind fun _ =>
        (Accounts.attempt .closeConnection).bind fun _ => ReportsAll.pure _

end Plan

/-! ## Faults of the console -/

namespace Script

variable {σ α : Type} {env : Environment σ}

/-- The only fault of a console is that it is full. -/
theorem fault_eq_full {script : Script α} {world : World σ} {text : String} {fault : IoFault}
    (h : (⟨.write text, .error fault⟩ : Deed) ∈ script.trace env world) :
    fault = Console.full := by
  induction script generalizing world with
  | done value => cases h
  | step action next ih =>
      rw [trace, List.mem_cons] at h
      rcases h with hfirst | hlater
      · obtain ⟨rfl, hanswer⟩ := Deed.mk.inj hfirst
        have hwrite := eq_of_heq hanswer
        simp only [World.perform, Console.write] at hwrite
        split at hwrite
        · cases hwrite
        · split at hwrite
          · cases hwrite
          · exact Except.error.inj hwrite
      · exact ih _ hlater

/-- A console that takes everything has no fault. -/
theorem fault_notMem_of_unlimited {script : Script α} {world : World σ} (h : world.Unlimited)
    (text : String) (fault : IoFault) :
    (⟨.write text, .error fault⟩ : Deed) ∉ script.trace env world := by
  induction script generalizing world with
  | done value => exact List.not_mem_nil
  | step action next ih =>
      rw [trace, List.mem_cons, not_or]
      refine ⟨fun hfirst => ?_, ih _ (h.perform env action)⟩
      obtain ⟨rfl, hanswer⟩ := Deed.mk.inj hfirst
      have hwrite := eq_of_heq hanswer
      rw [h.perform_write] at hwrite
      cases hwrite

end Script

/-- A run on a console that has a fault ends with it. -/
theorem Plan.result_of_fault {σ : Type} {plan : Plan} {engine : EngineKind}
    {env : Environment σ} {world : World σ} {text : String} {fault : IoFault}
    (h : (⟨.write text, .error fault⟩ : Deed) ∈ (plan.runOn engine).trace env world) :
    ((plan.runOn engine).run env world).1.result = .error (.io fault) := by
  obtain rfl := fault_eq_full h
  cases hroom : world.console.room with
  | none => exact absurd h (fault_notMem_of_unlimited hroom _ _)
  | some room =>
      have hlimit : world = (world.onto ⟨world.console.shown, none⟩).limit room := by
        simp only [World.limit, World.onto, ← hroom]
      have hunlimited : (world.onto ⟨world.console.shown, none⟩).Unlimited := rfl
      rw [hlimit] at h ⊢
      generalize world.onto ⟨world.console.shown, none⟩ = world at h hunlimited ⊢
      rcases Nat.lt_or_ge room ((plan.runOn engine).printedSize env world) with hshort | hfits
      · rw [(plan.runOn_limit_of_lt engine env hunlimited hshort).1]
      · rw [(run_limit_of_le env _ hunlimited hfits).2] at h
        exact absurd h (fault_notMem_of_unlimited hunlimited _ _)

/-! ## Series -/

namespace Series

variable {σ : Type}

/-- A run of a series reports every request that fails. -/
theorem run_reportsAll (series : Series) (engine : EngineKind) (address : Address) :
    (series.run engine address).ReportsAll := by
  refine (series.plan.run_accounts engine address).bind fun outcome => ?_
  cases outcome with
  | error failure => exact ReportsAll.pure _
  | ok outcome => exact ReportsAll.pure _

/-- A run that does not connect does nothing else. -/
theorem trace_run_refused (series : Series) (engine : EngineKind) (address : Address)
    {env : Environment σ} {world refused : World σ} {failure : Failure}
    (hconnect : world.perform env (.connect address) = (.error failure, refused)) :
    (series.run engine address).trace env world = [⟨.connect address, .error failure⟩] := by
  have hrun : (perform (.connect address)).run env world = (.error failure, refused) := hconnect
  have htrace : (perform (.connect address)).trace env world =
      [⟨.connect address, .error failure⟩] := by
    change [Deed.mk (.connect address) (world.perform env (.connect address)).1] = _
    rw [hconnect]
  simp only [run, Plan.run, trace_bind, run_bind, hrun, htrace, run_pure, trace_pure,
    List.append_nil]

/-- A run that connects runs its plan and then closes its connection. -/
theorem trace_run_connected (series : Series) (engine : EngineKind) (address : Address)
    {env : Environment σ} {world connected : World σ}
    (hconnect : world.perform env (.connect address) = (.ok (), connected)) :
    (series.run engine address).trace env world =
      ⟨.connect address, .ok ()⟩ :: ((series.plan.runOn engine).trace env connected ++
        (attempt .closeConnection .close).trace env
          ((series.plan.runOn engine).run env connected).2) := by
  have hrun : (perform (.connect address)).run env world = (.ok (), connected) := hconnect
  have htrace : (perform (.connect address)).trace env world = [⟨.connect address, .ok ()⟩] := by
    change [Deed.mk (.connect address) (world.perform env (.connect address)).1] = _
    rw [hconnect]
  simp only [run, Plan.run, trace_bind, run_bind, hrun, htrace, run_pure, trace_pure,
    List.append_nil, List.singleton_append]

/-- A run of a series on a console that has a fault ends with it. -/
theorem result_of_fault {series : Series} {engine : EngineKind} {address : Address}
    {env : Environment σ} {world : World σ} {text : String} {fault : IoFault}
    (h : (⟨.write text, .error fault⟩ : Deed) ∈ (series.run engine address).trace env world) :
    ((series.run engine address).run env world).1.1 = .error (.io fault) := by
  rcases hconnect : world.perform env (.connect address) with ⟨failure | _, connected⟩
  · rw [trace_run_refused series engine address hconnect, List.mem_singleton] at h
    cases h
  · rw [trace_run_connected series engine address hconnect, List.mem_cons, List.mem_append] at h
    rw [run_connected env series engine address hconnect, run_runOn]
    rcases h with hfirst | hrun | hclose
    · cases hfirst
    · exact Plan.result_of_fault hrun
    -- closing a connection writes nothing
    · have hkind := (Uses.attempt .closeConnection .close).kind_mem env _ hclose
      exact absurd hkind (by simp [Action.kind])

/-- The errors that a run notes are the reports of its requests that failed, one by one and in
their order: no failure is lost and none is reported twice, whatever fails and wherever the
console ends the run.  Each of them gives the wording of the failure and of every cause below
it.  Over an engine that notes no error itself these are all errors of the run.  A fault of the
console is no error among them, as it is no request; the run ends with it. -/
theorem run_reported (series : Series) (engine : EngineKind) (address : Address)
    (env : Environment σ) (world : World σ) :
    let ended := (series.run engine address).run env world
    let noted := (series.run engine address).errors env world
    ∃ calls, ended.2.calls = world.calls ++ calls ∧
      List.Forall₂ (fun event call => event.Reports call ∧ event.level = .error ∧
          ∃ failure, call.failure = some failure ∧
            event.details = [("error",
              failure.message ++ String.join (failure.causes.map (": " ++ ·)))])
        noted (calls.filter Call.failed) ∧
      (env.Silent → ended.2.events.filter Event.isError =
        world.events.filter Event.isError ++ noted) ∧
      ∀ text fault, (⟨.write text, .error fault⟩ : Deed) ∈
          (series.run engine address).trace env world →
        ended.1.1 = .error (.io fault) := by
  intro ended noted
  refine ⟨_, calls_run env (series.run engine address) world, ?_,
    fun hsilent => errors_run hsilent (series.run engine address) world,
    fun text fault hwrite => result_of_fault hwrite⟩
  obtain ⟨settled, hsettled, hreports⟩ := series.run_reportsAll engine address σ env world
  rw [List.nil_append, List.append_nil] at hsettled
  rw [failedCalls] at hsettled
  rw [hsettled]
  refine hreports.imp fun event call hreport => ⟨hreport, ?_⟩
  obtain ⟨purpose, failure, rfl, -, hfailure⟩ := hreport
  refine ⟨rfl, failure, hfailure, ?_⟩
  rw [← Failure.report_eq]
  rfl

/-- A run whose requests all fail, on a console that takes nothing, reports each of them, with
the causes of those that have some. -/
theorem run_reported_refused :
    let env : Environment Unit :=
      ⟨fun request _ => ⟨.error (match request with
          | .close => .connectionClosed
          | _ => .server (.rejected "down")), [], ()⟩,
        fun _ _ => ⟨.ok (), [], ()⟩, fun _ _ => .absent, fun _ _ _ => .ok (), fun _ => 5⟩
    let world := World.fresh () (.limited (some 0))
    let series := Series.unrun ⟨[⟨"a", 0, 4⟩], ⟨"records", rfl⟩, .pathFirst, .count, 1, true⟩
    let ended := (series.run .embedded .memory).run env world
    env.Silent ∧ (ended.2.events.filter Event.isError).map Event.details =
        List.replicate 6 [("error", "postgres: error returned from database: down" ++
          ": error returned from database: down" ++ ": down")] ++
        [[("error", "connection already closed")]] ∧
      ended.1.1 = .error (.io Console.full) := by
  intro env world series ended
  have hsilent : env.Silent := ⟨fun _ _ => List.forall_mem_nil _, fun _ _ => List.forall_mem_nil _⟩
  obtain ⟨calls, hcalls, hreports, hall, hfault⟩ :=
    series.run_reported .embedded .memory env world
  have hfailed : calls.filter Call.failed =
      [.setScanFallback false, .setIndexEligible "records_idx_vp" false,
        .setIndexEligible "records_idx_pv" true, .setIndexEligible "records_idx_pv" true,
        .setIndexEligible "records_idx_vp" true, .setScanFallback true].map
          (⟨·, some (.server (.rejected "down"))⟩) ++ [⟨.close, some .connectionClosed⟩] := by
    rw [← List.nil_append calls]
    exact (congrArg _ hcalls.symm).trans (by decide)
  have hwrite : (⟨.write "Configuration:\n", .error Console.full⟩ : Deed) ∈
      (series.run .embedded .memory).trace env world :=
    List.mem_iff_getElem?.mpr ⟨9, rfl⟩
  refine ⟨hsilent, ?_, hfault _ _ hwrite⟩
  let told (call : Call) : List (String × String) := call.failure.elim [] fun failure =>
    [("error", failure.message ++ String.join (failure.causes.map (": " ++ ·)))]
  have htold : (ended.2.events.filter Event.isError).map Event.details =
      (calls.filter Call.failed).map told := by
    rw [hall hsilent, ← List.forall₂_eq_eq_eq, List.forall₂_map_left_iff,
      List.forall₂_map_right_iff]
    refine hreports.imp fun event call hreport => ?_
    obtain ⟨-, -, failure, hfailure, hdetails⟩ := hreport
    simp only [told, hfailure, Option.elim_some, hdetails]
  have hrejected (request : Request) : told ⟨request, some (.server (.rejected "down"))⟩ =
      [("error", "postgres: error returned from database: down" ++
        ": error returned from database: down" ++ ": down")] := by
    have hlast : (Cause.reported "down").chain = ["down"] := Cause.chain_of_source?_eq_none rfl
    have hcauses : (Failure.server (.rejected "down")).causes =
        ["error returned from database: down", "down"] :=
      (Cause.chain_of_source?_eq_some rfl).trans (congrArg _ hlast)
    simp only [told, Option.elim_some, hcauses]
    rfl
  rw [htold, hfailed]
  simp only [List.map_append, List.map_cons, List.map_nil, hrejected]
  rfl

end Series
end IndexBench
