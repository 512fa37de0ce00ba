import IndexBench.Proofs.Run.Bracket

/-!
# Kinds of actions

Which kinds of actions a script can perform is seen from its text, whatever it is
answered.  A selection never writes, a warm-up never asks for settings, and only a
session that the console has ended notes that it was abandoned.

Main definitions:

- `Action.kind` is the kind of an action.
- `Script.Uses` says that all actions of a script are of given kinds.

Main results:

- Theorem `Script.Uses.kind_mem`: what a script does is of its kinds.
- Theorem `Plan.runOn_uses`: a run neither connects nor touches a file.
-/

namespace IndexBench

open Script

/-! ## Kinds -/

/-- The kinds of actions. -/
inductive Action.Kind where
  | call
  | measure
  | write
  | note
  /-- Notes that a session was abandoned. -/
  | abandonment
  | connect
  | file
  deriving DecidableEq, Repr

/-- The kind of an action. -/
def Action.kind : Action → Action.Kind
  | .call _ => .call
  | .measure _ => .measure
  | .write _ => .write
  | .note (.abandoned _) => .abandonment
  | .note _ => .note
  | .connect _ => .connect
  | .inspect _ => .file
  | .save _ _ => .file

namespace Script

variable {σ α β : Type} {kinds : List Action.Kind}

/-- Whether all actions of a script are of given kinds, whatever they are answered. -/
def Uses (kinds : List Action.Kind) : Script α → Prop
  | done _ => True
  | step action next => action.kind ∈ kinds ∧ ∀ answer, (next answer).Uses kinds

namespace Uses

/-- A value uses nothing. -/
theorem pure (value : α) : (Pure.pure value : Script α).Uses kinds :=
  trivial

/-- An action uses its kind. -/
theorem perform (kind : Action.Kind) {action : Action} (haction : action.kind = kind)
    (h : kind ∈ kinds) : (Script.perform action).Uses kinds :=
  ⟨haction ▸ h, fun _ => trivial⟩

/-- Scripts in a row use what each of them uses. -/
theorem bind {script : Script α} {f : α → Script β} (h : script.Uses kinds)
    (hf : ∀ value, (f value).Uses kinds) : (script >>= f).Uses kinds := by
  induction script with
  | done value => exact hf value
  | step action next ih => exact ⟨h.1, fun answer => ih answer (h.2 answer)⟩

/-- Scripts in a row that a fault can end use what each of them uses. -/
theorem bind_except {ε : Type} {script : ExceptT ε Script α} {f : α → ExceptT ε Script β}
    (h : script.run.Uses kinds) (hf : ∀ value, (f value).run.Uses kinds) :
    (script >>= f).run.Uses kinds := by
  refine bind h fun result => ?_
  cases result with
  | error fault => exact pure _
  | ok value => exact hf value

/-- A script that no fault can end uses what it uses. -/
theorem lift_except {ε : Type} {script : Script α} (h : script.Uses kinds) :
    (liftM script : ExceptT ε Script α).run.Uses kinds :=
  h.bind fun _ => pure _

/-- A script that uses some kinds of actions may be allowed more of them. -/
theorem mono {script : Script α} {more : List Action.Kind} (h : script.Uses kinds)
    (hmore : kinds ⊆ more) : script.Uses more := by
  induction script with
  | done value => trivial
  | step action next ih => exact ⟨hmore h.1, fun answer => ih answer (h.2 answer)⟩

/-- What a script does is of its kinds. -/
theorem kind_mem {script : Script α} (h : script.Uses kinds) (env : Environment σ)
    (world : World σ) {deed : Deed} (hdeed : deed ∈ script.trace env world) :
    deed.action.kind ∈ kinds := by
  induction script generalizing world with
  | done value => cases hdeed
  | step action next ih =>
      rcases List.mem_cons.mp hdeed with rfl | hlater
      · exact h.1
      · exact ih _ (h.2 _) _ hlater

/-- A script does nothing of which its kinds of actions have no part. -/
theorem filterMap_trace_eq_nil {script : Script α} (h : script.Uses kinds) {γ : Type}
    {part : Deed → Option γ} (hpart : ∀ deed, deed.action.kind ∈ kinds → part deed = none)
    (env : Environment σ) (world : World σ) : (script.trace env world).filterMap part = [] := by
  rw [List.filterMap_eq_nil_iff]
  intro deed hdeed
  exact hpart deed (h.kind_mem env world hdeed)

/-- An attempt calls the engine and notes its failure. -/
theorem attempt (purpose : Purpose) (request : Request) :
    (attempt purpose request).Uses [.call, .note] := by
  refine (perform .call rfl (by decide)).bind fun answer => ?_
  cases answer with
  | ok reply => exact pure _
  | error failure => exact (perform .note rfl (by decide)).bind fun _ => pure _

end Uses
end Script

/-! ## Printing -/

/-- Printing writes. -/
theorem Printing.uses_print (text : String) : (print text).run.Uses [.write] :=
  Uses.perform .write rfl (by decide)

/-! ## Configurations -/

namespace Configuration

/-- Making an index eligible or not is an attempt. -/
theorem setEligible_uses (table : TableName) (eligible : Bool) (order : IndexOrder) :
    (setEligible table eligible order).Uses [.call, .note] :=
  (Uses.attempt _ _).bind fun _ => .pure ()

/-- A selection calls the engine and takes notes. -/
theorem select_uses (engine : EngineKind) (table : TableName) (selected : IndexOrder) :
    (select engine table selected).Uses [.call, .note] :=
  (Uses.perform .note rfl (by decide)).bind fun _ => (Uses.attempt _ _).bind fun _ =>
    (setEligible_uses table _ .valueFirst).bind fun _ =>
      (setEligible_uses table _ .pathFirst).bind fun _ => .pure ()

/-- A restoration calls the engine and takes notes. -/
theorem restore_uses (engine : EngineKind) (table : TableName) :
    (restore engine table).Uses [.call, .note] := by
  have hindexes : (IndexOrder.reportSequence.reverse.forM (setEligible table true)).Uses
      [.call, .note] :=
    (setEligible_uses table true .pathFirst).bind fun _ =>
      (setEligible_uses table true .valueFirst).bind fun _ => .pure ()
  exact (Uses.perform .note rfl (by decide)).bind fun _ => hindexes.bind fun _ =>
    (Uses.attempt _ _).bind fun _ => .pure ()

/-- An abandoned session is noted and restored. -/
theorem abandon_uses (engine : EngineKind) (table : TableName) :
    (abandon engine table).Uses [.abandonment, .call, .note] :=
  (Uses.perform .abandonment rfl (by decide)).bind fun _ =>
    (restore_uses engine table).mono (by decide)

/-- A report calls the engine, takes notes and writes. -/
theorem report_uses (table : TableName) : (report table).run.Uses [.call, .note, .write] := by
  have hline (label : String) (value : Option (Option String)) :
      (reportLine label value).run.Uses [.call, .note, .write] := by
    unfold reportLine
    split
    · exact (Printing.uses_print _).mono (by decide)
    · exact .pure _
  have hsetting {purpose : Purpose} {request : Request} (f : Option request.Reply → Printing Unit)
      (hf : ∀ value, (f value).run.Uses [.call, .note, .write]) :
      (liftM (attempt purpose request) >>= f).run.Uses [.call, .note, .write] :=
    Uses.bind_except (Uses.lift_except ((Uses.attempt _ _).mono (by decide))) hf
  have hindex (order : IndexOrder) : (reportIndex table order).run.Uses [.call, .note, .write] :=
    hsetting _ fun _ => hline _ _
  have hprint (text : String) : (print text).run.Uses [.call, .note, .write] :=
    (Printing.uses_print text).mono (by decide)
  exact Uses.bind_except (hprint _) fun _ => Uses.bind_except (hsetting _ fun _ => hline _ _)
    fun _ => Uses.bind_except
      (Uses.bind_except (hindex .valueFirst) fun _ =>
        Uses.bind_except (hindex .pathFirst) fun _ => .pure _)
      fun _ => hprint _

/-- A reset calls the engine, takes notes and writes. -/
theorem reset_uses (engine : EngineKind) (table : TableName) :
    (reset engine table).run.Uses [.call, .note, .write] :=
  Uses.bind_except (Uses.lift_except ((restore_uses engine table).mono (by decide)))
    fun _ => report_uses table

/-- A configuration calls the engine, takes notes and writes, and may be abandoned. -/
theorem configure_uses (engine : EngineKind) (table : TableName) (selected : IndexOrder) :
    (configure engine table selected).run.Uses [.call, .note, .write, .abandonment] := by
  rw [run_configure]
  refine ((select_uses engine table selected).mono (by decide)).bind fun _ =>
    ((report_uses table).mono (by decide)).bind fun reported => ?_
  cases reported with
  | ok _ => exact .pure _
  | error fault =>
      exact ((abandon_uses engine table).mono (by decide)).bind fun _ => .pure _

end Configuration

/-! ## Runs -/

namespace Plan

/-- Executing a query measures it and takes notes. -/
theorem execute_uses (shape : QueryShape) (table : TableName) (query : RangeQuery) :
    (execute shape table query).Uses [.measure, .note] := by
  have hmeasure : (measureQuery shape table query.selector).Uses [.measure, .note] := by
    cases shape with
    | count => exact .perform .measure rfl (by decide)
    | enumerate => exact .perform .measure rfl (by decide)
  refine hmeasure.bind fun outcome => ?_
  cases outcome with
  | error failure => exact .pure _
  | ok counted => exact (Uses.perform .note rfl (by decide)).bind fun _ => .pure _

/-- A warm-up measures and takes notes. -/
theorem warmUp_uses (plan : Plan) : plan.warmUp.Uses [.measure, .note] := by
  have hfrom (place : Nat) (queries : List RangeQuery) :
      (plan.warmUpFrom place queries).Uses [.measure, .note] := by
    induction queries generalizing place with
    | nil => exact .pure ()
    | cons query queries ih =>
        refine (execute_uses plan.shape plan.table query).bind fun outcome => ?_
        cases outcome with
        | error failure => exact (Uses.perform .note rfl (by decide)).bind fun _ => ih (place + 1)
        | ok reading => exact (Uses.perform .note rfl (by decide)).bind fun _ => ih (place + 1)
  exact (Uses.perform .note rfl (by decide)).bind fun _ => hfrom 0 plan.catalog

/-- Measuring queries writes as well. -/
theorem measureFrom_uses (plan : Plan) (repetition place : Nat) (queries : List RangeQuery) :
    (plan.measureFrom repetition place queries).Uses [.measure, .note, .write] := by
  induction queries generalizing place with
  | nil => exact .pure _
  | cons query queries ih =>
      refine ((execute_uses plan.shape plan.table query).mono (by decide)).bind fun outcome => ?_
      cases outcome with
      | error failure => exact (Uses.perform .note rfl (by decide)).bind fun _ => ih (place + 1)
      | ok reading =>
          refine (Uses.perform .write rfl (by decide)).bind fun written => ?_
          cases written with
          | error fault => exact .pure _
          | ok _ => exact (ih (place + 1)).bind fun _ => .pure _

/-- Measuring the catalog measures, takes notes and writes. -/
theorem measureOnce_uses (plan : Plan) (repetition : Nat) :
    (plan.measureOnce repetition).Uses [.measure, .note, .write] := by
  refine (measureFrom_uses plan repetition 0 plan.catalog).bind fun measured => ?_
  rcases measured with ⟨measurements, fault | _⟩
  · exact .pure _
  · refine (Uses.perform .write rfl (by decide)).bind fun written => ?_
    cases written with
    | error fault => exact .pure _
    | ok _ => exact (Uses.perform .note rfl (by decide)).bind fun _ => .pure _

/-- Measuring the catalog a number of times measures, takes notes and writes. -/
theorem measureTimes_uses (plan : Plan) (times repetition : Nat) :
    (plan.measureTimes times repetition).Uses [.measure, .note, .write] := by
  induction times generalizing repetition with
  | zero => exact .pure _
  | succ times ih =>
      refine (measureOnce_uses plan repetition).bind fun measured => ?_
      rcases measured with ⟨measurements, fault | _⟩
      · exact .pure _
      · exact (ih (repetition + 1)).bind fun _ => .pure _

/-- A session measures, takes notes and writes between its beginning and its end. -/
theorem body_uses (plan : Plan) : plan.body.Uses [.measure, .note, .write] := by
  have htimes := measureTimes_uses plan plan.repetitions 0
  unfold body
  cases plan.warmup with
  | false => exact htimes
  | true => exact ((warmUp_uses plan).mono (by decide)).bind fun _ => htimes

/-- Concluding a session calls the engine, takes notes and writes. -/
theorem conclude_uses (plan : Plan) (engine : EngineKind) (measurements : List Measurement) :
    (plan.conclude engine measurements).run.Uses [.call, .note, .write] :=
  Uses.bind_except (Configuration.reset_uses engine plan.table) fun _ =>
    Uses.bind_except ((Printing.uses_print _).mono (by decide)) fun _ =>
      Uses.bind_except (Uses.lift_except (.perform .note rfl (by decide))) fun _ => .pure _

/-- A run neither connects nor touches a file. -/
theorem runOn_uses (plan : Plan) (engine : EngineKind) :
    (plan.runOn engine).Uses [.call, .measure, .write, .note, .abandonment] := by
  have habandon : (Configuration.abandon engine plan.table).Uses
      [.call, .measure, .write, .note, .abandonment] :=
    (Configuration.abandon_uses engine plan.table).mono (by decide)
  have hconfigure := Configuration.configure_uses engine plan.table plan.selected
  refine (Uses.perform .note rfl (by decide)).bind fun _ =>
    (hconfigure.mono (by decide)).bind fun configured => ?_
  cases configured with
  | error fault => exact .pure _
  | ok _ =>
      refine ((body_uses plan).mono (by decide)).bind fun measured => ?_
      rcases measured with ⟨measurements, fault | _⟩
      · exact habandon.bind fun _ => .pure _
      · exact ((conclude_uses plan engine measurements).mono (by decide)).bind fun _ => .pure _

end Plan
end IndexBench
