import IndexBench.Proofs.Run.Transcript

/-!
# Interrupted runs

A console that is full after some bytes cuts a run at exactly that byte.  Up to the
write that does not fit the run goes on as on a console that takes everything; then it
ends, with the measurements whose lines the console has shown in full.

Main definitions:

- `Deed.abandonment` notes that a session was abandoned.

Main results:

- Theorem `Plan.printed_runOn`: a run prints a report, the transcript of its
  measurements, a second report and its summary.
- Theorem `Plan.runOn_limit_of_lt`: what a run yields on a console with too little room.
- Theorem `Series.runOn_interrupted`: a run on a console that takes a number of bytes,
  beside the same run on one that takes everything.
-/

namespace IndexBench

open Script

/-! ## Abandoned sessions -/

/-- Noting that a session was abandoned. -/
def Deed.abandonment (table : TableName) : Deed :=
  ⟨.note (.abandoned table), ()⟩

/-- A script without abandonments abandons no session. -/
theorem Script.Uses.abandonment_notMem {σ α : Type} {kinds : List Action.Kind}
    {script : Script α} (h : script.Uses kinds) (hkinds : .abandonment ∉ kinds)
    (env : Environment σ) (world : World σ) (table : TableName) :
    Deed.abandonment table ∉ script.trace env world :=
  fun hdeed => hkinds (h.kind_mem env world hdeed)

/-- Abandoning a session is noted. -/
theorem Configuration.abandonment_mem {σ : Type} (engine : EngineKind) (table : TableName)
    (env : Environment σ) (world : World σ) :
    Deed.abandonment table ∈ (abandon engine table).trace env world :=
  List.mem_cons_self

/-! ## Printed reports -/

namespace Printing

variable {σ α β : Type} {env : Environment σ} {world : World σ}

/-- After a printing script that ends well comes the next one. -/
theorem trace_bind {script : Printing α} {value : α}
    (h : (script.run.run env world).1 = .ok value) (f : α → Printing β) :
    (script >>= f).run.trace env world =
      script.run.trace env world ++ (f value).run.trace env (script.run.run env world).2 := by
  rw [ExceptT.run_bind, Script.trace_bind, h]

/-- After a script that does not print comes the next one. -/
theorem trace_lift_bind (script : Script α) (f : α → Printing β) :
    (liftM script >>= f : Printing β).run.trace env world =
      script.trace env world ++
        (f (script.run env world).1).run.trace env (script.run env world).2 := by
  rw [run_lift_bind, Script.trace_bind]

/-- After a text that is printed comes the next script. -/
theorem trace_print_bind (text : String) (f : Unit → Printing β) (h : world.Unlimited) :
    (print text >>= f).run.trace env world =
      ⟨.write text, .ok ()⟩ :: (f ()).run.trace env ((write text).run env world).2 := by
  have hwritten : ((print text).run.run env world).1 = .ok () :=
    congrArg Prod.fst (run_write env text h)
  have hprinted : (print text).run.trace env world = [⟨.write text, .ok ()⟩] := by
    change [Deed.mk (.write text) (world.perform env (.write text)).1] = _
    rw [h.perform_write]
  rw [trace_bind hwritten, hprinted]
  rfl

end Printing

/-- A report starts with its heading. -/
theorem Configuration.printed_report {σ : Type} (table : TableName) (env : Environment σ)
    {world : World σ} (h : world.Unlimited) :
    ∃ settings, (report table).run.printed env world = "Configuration:\n" ++ settings := by
  rw [report, printed, Printing.trace_print_bind _ _ h, List.map_cons, String.join_cons]
  exact ⟨_, rfl⟩

namespace Plan

variable {σ : Type} (plan : Plan) (engine : EngineKind) (env : Environment σ)

/-- An opening prints a report. -/
theorem printed_opening {world : World σ} (h : world.Unlimited) :
    (plan.opening engine).printed env world =
      (Configuration.report plan.table).run.printed env
        ((plan.preparation engine).run env world).2 := by
  rw [printed, (plan.opening_ok engine env h).2, ← printed, printed_bind,
    (plan.preparation_uses engine).printed_eq (by decide), String.empty_append]

/-- Concluding a run restores the configuration, reports it and writes the summary. -/
theorem trace_conclude (measurements : List Measurement) {world : World σ}
    (h : world.Unlimited) :
    let summary := Summary.ofReadings (measurements.map Measurement.reading)
    (plan.conclude engine measurements).run.trace env world =
      (Configuration.restore engine plan.table).trace env world ++
        (Configuration.report plan.table).run.trace env
          ((Configuration.restore engine plan.table).run env world).2 ++
        [⟨.write summary.report, .ok ()⟩,
          ⟨.note (.runFinished summary.queries summary.totalElapsed), ()⟩] := by
  have hstill := unlimited_run env (Configuration.reset engine plan.table).run h
  obtain ⟨⟨_, hreset⟩, -⟩ := Configuration.reset_ends engine plan.table σ env world h
  have hresetTrace : (Configuration.reset engine plan.table).run.trace env world =
      (Configuration.restore engine plan.table).trace env world ++
        (Configuration.report plan.table).run.trace env
          ((Configuration.restore engine plan.table).run env world).2 := by
    rw [Configuration.reset, Printing.trace_lift_bind]
  intro summary
  rw [conclude, Printing.trace_bind hreset, hresetTrace, Printing.trace_print_bind _ _ hstill,
    Printing.trace_lift_bind]
  rfl

/-- Concluding a run prints a report and the summary. -/
theorem printed_conclude (measurements : List Measurement) {world : World σ}
    (h : world.Unlimited) :
    (plan.conclude engine measurements).run.printed env world =
      (Configuration.report plan.table).run.printed env
          ((Configuration.restore engine plan.table).run env world).2 ++
        (Summary.ofReadings (measurements.map Measurement.reading)).report := by
  have hrestored := (Configuration.restore_uses engine plan.table).printed_eq (by decide) env world
  rw [printed] at hrestored
  rw [printed, plan.trace_conclude engine env measurements h, List.map_append, List.map_append,
    String.join_append, String.join_append, hrestored, String.empty_append]
  simp [printed, Deed.printed]

/-- A run prints what it prints in its opening, the transcript of its measurements, a
report and the summary. -/
theorem printed_runOn {world : World σ} (h : world.Unlimited) :
    let measurements := ((plan.runOn engine).run env world).1.measurements
    ∃ restored : World σ, restored.Unlimited ∧
      (Configuration.report plan.table).run.trace env restored ⊆
        (plan.runOn engine).trace env world ∧
      (plan.runOn engine).printed env world =
        (plan.opening engine).printed env world ++
          entriesText (transcript measurements 0 plan.repetitions) ++
          ((Configuration.report plan.table).run.printed env restored ++
            (Summary.ofReadings (measurements.map Measurement.reading)).report) := by
  obtain ⟨opened, ended, measurements, hopen, hmeasure, hopened, hended, hrun, htrace⟩ :=
    plan.runOn_stages engine env h
  obtain ⟨-, hbody⟩ := body_transcribes_of_run hopened hmeasure
  rw [hrun]
  refine ⟨_, unlimited_run env (Configuration.restore engine plan.table) hended, ?_, ?_⟩
  · rw [htrace, plan.trace_conclude engine env measurements hended]
    intro deed hdeed
    simp only [List.mem_append, hdeed, true_or, or_true]
  · rw [← hbody.printed, ← plan.printed_conclude engine env measurements hended, printed, htrace,
      List.map_append, List.map_append, String.join_append, String.join_append]
    rfl

end Plan

/-! ## Runs on a console with little room -/

namespace Plan

section Limited

variable {σ : Type} (plan : Plan) (engine : EngineKind) (env : Environment σ)
  {world opened ended : World σ} {measurements : List Measurement} {room : Nat}

/-- A run that the console ends in its opening measures nothing and abandons its
session. -/
theorem runOn_limit_opening (h : world.Unlimited)
    (hroom : room < (plan.opening engine).printedSize env world) :
    ((plan.runOn engine).run env (world.limit room)).1 = ⟨[], .error (.io Console.full)⟩ ∧
      Deed.abandonment plan.table ∈ (plan.runOn engine).trace env (world.limit room) := by
  have hpreparation := plan.preparation_uses engine
  have hprepared := unlimited_run env (plan.preparation engine) h
  rw [printedSize, plan.printed_opening engine env h] at hroom
  have hcut := (Configuration.report_ends plan.table σ env _ hprepared).2 room hroom
  rw [runOn_eq_opening, opening_eq]
  simp only [run_bind, trace_bind, hpreparation.run_limit (by decide) env h, hcut]
  refine ⟨rfl, ?_⟩
  simp only [List.mem_append, Configuration.abandonment_mem, true_or, or_true]

/-- A run that the console ends between its reports measures what is finished and
abandons its session. -/
theorem runOn_limit_body (h : world.Unlimited)
    (hopen : (plan.opening engine).run env world = (.ok (), opened))
    (hmeasure : plan.body.run env opened = ((measurements, .ok ()), ended))
    (hroom : room < entriesSize (transcript measurements 0 plan.repetitions)) :
    let start := (plan.opening engine).printedSize env world
    ((plan.runOn engine).run env (world.limit (start + room))).1 =
        ⟨finishedBy (start + room) start (transcript measurements 0 plan.repetitions),
          .error (.io Console.full)⟩ ∧
      Deed.abandonment plan.table ∈
        (plan.runOn engine).trace env (world.limit (start + room)) := by
  intro start
  have hopened := unlimited_run env (plan.opening engine) h
  rw [hopen] at hopened
  obtain ⟨-, hbody⟩ := body_transcribes_of_run hopened hmeasure
  obtain ⟨hrun, -⟩ := run_limit_add env (plan.opening engine) h room
  rw [hopen] at hrun
  rw [runOn_eq_opening]
  simp only [run_bind, trace_bind, start, hrun,
    hbody.cut room hroom ((plan.opening engine).printedSize env world)]
  refine ⟨rfl, ?_⟩
  simp only [List.mem_append, Configuration.abandonment_mem, true_or, or_true]

/-- A run that the console ends in its conclusion has measured everything, and does not
abandon its session, which is restored by then. -/
theorem runOn_limit_conclude (h : world.Unlimited)
    (hopen : (plan.opening engine).run env world = (.ok (), opened))
    (hmeasure : plan.body.run env opened = ((measurements, .ok ()), ended))
    (hroom : room < (plan.conclude engine measurements).run.printedSize env ended) :
    let start := (plan.opening engine).printedSize env world +
      entriesSize (transcript measurements 0 plan.repetitions)
    ((plan.runOn engine).run env (world.limit (start + room))).1 =
        ⟨measurements, .error (.io Console.full)⟩ ∧
      Deed.abandonment plan.table ∉
        (plan.runOn engine).trace env (world.limit (start + room)) := by
  intro start
  have hopened := unlimited_run env (plan.opening engine) h
  rw [hopen] at hopened
  have hended := unlimited_run env plan.body hopened
  rw [hmeasure] at hended
  obtain ⟨-, hbody⟩ := body_transcribes_of_run hopened hmeasure
  have hsize := hbody.printedSize_eq
  obtain ⟨hrun, htrace⟩ := run_limit_add env (plan.opening engine) h
    (plan.body.printedSize env opened + room)
  obtain ⟨hrunBody, htraceBody⟩ := run_limit_add env plan.body hopened room
  have hcut := (plan.conclude_ends engine measurements σ env ended hended).2 room hroom
  have hopening : (plan.preparation engine >>= fun _ =>
      (Configuration.report plan.table).run).Uses [.call, .note, .write] :=
    ((plan.preparation_uses engine).mono (by decide)).bind fun _ =>
      Configuration.report_uses plan.table
  -- only a fault before the conclusion abandons the session
  have hopeningNot := hopening.abandonment_notMem (by decide) env world plan.table
  have hbodyNot := (body_uses plan).abandonment_notMem (by decide) env opened plan.table
  have hconcludeNot := (conclude_uses plan engine measurements).abandonment_notMem (by decide)
    env (ended.limit room) plan.table
  rw [← (plan.opening_ok engine env h).2] at hopeningNot
  have hstart : start + room = (plan.opening engine).printedSize env world +
      (plan.body.printedSize env opened + room) := by
    rw [hsize]
    exact Nat.add_assoc _ _ _
  rw [hopen] at hrun
  rw [hmeasure] at hrunBody
  rw [runOn_eq_opening, hstart]
  simp only [run_bind, run_pure, trace_bind, trace_pure, List.append_nil, List.mem_append, hrun,
    htrace, hrunBody, htraceBody, hcut, hopeningNot, hbodyNot, hconcludeNot, or_self,
    not_false_eq_true]
  exact ⟨rfl, trivial⟩

end Limited

/-- On a console with too little room a run yields what is finished, and it abandons its
session if the console is full before its conclusion. -/
theorem runOn_limit_of_lt {σ : Type} (plan : Plan) (engine : EngineKind) (env : Environment σ)
    {world : World σ} (h : world.Unlimited) {room : Nat}
    (hroom : room < (plan.runOn engine).printedSize env world) :
    let start := (plan.opening engine).printedSize env world
    let entries :=
      transcript ((plan.runOn engine).run env world).1.measurements 0 plan.repetitions
    ((plan.runOn engine).run env (world.limit room)).1 =
        ⟨finishedBy room start entries, .error (.io Console.full)⟩ ∧
      (Deed.abandonment plan.table ∈ (plan.runOn engine).trace env (world.limit room) ↔
        room < start + entriesSize entries) := by
  obtain ⟨opened, ended, measurements, hopen, hmeasure, hopened, -, hrun, -⟩ :=
    plan.runOn_stages engine env h
  obtain ⟨hmeasured, hbody⟩ := body_transcribes_of_run hopened hmeasure
  intro start entries
  have hentries : entries = transcript measurements 0 plan.repetitions := by
    simp only [entries, hrun]
  rw [hentries]
  -- the console is full in the opening, in the body or in the conclusion
  rcases Nat.lt_or_ge room start with hopening | hopening
  · obtain ⟨hresult, habandoned⟩ := plan.runOn_limit_opening engine env h hopening
    rw [hresult, finishedBy_eq_nil hopening]
    exact ⟨rfl, iff_of_true habandoned (Nat.lt_add_right _ hopening)⟩
  obtain ⟨more, rfl⟩ := Nat.exists_eq_add_of_le hopening
  rcases Nat.lt_or_ge more (entriesSize (transcript measurements 0 plan.repetitions)) with
    hmiddle | hmiddle
  · obtain ⟨hresult, habandoned⟩ :=
      plan.runOn_limit_body engine env h hopen hmeasure hmiddle
    exact ⟨hresult, iff_of_true habandoned (Nat.add_lt_add_left hmiddle start)⟩
  · obtain ⟨last, rfl⟩ := Nat.exists_eq_add_of_le hmiddle
    have hlast : last < (plan.conclude engine measurements).run.printedSize env ended := by
      have hsize := hbody.printedSize_eq
      rw [runOn_eq_opening, printedSize] at hroom
      simp only [Script.printed_bind, hopen, hmeasure, printed_pure, String.append_empty,
        Utf8.encode_append, List.length_append] at hroom
      simp only [printedSize, start] at hsize hroom ⊢
      omega
    obtain ⟨hresult, habandoned⟩ :=
      plan.runOn_limit_conclude engine env h hopen hmeasure hlast
    rw [finishedBy_of_le (Nat.add_le_add_left hmiddle start), hmeasured, ← Nat.add_assoc]
    exact ⟨hresult, iff_of_false habandoned (by omega)⟩

end Plan

/-! ## Two runs -/

namespace Series

variable {σ : Type} (env : Environment σ)

/-- Running a series runs its plan and keeps the measurements. -/
theorem run_runOn (series : Series) (engine : EngineKind) (world : World σ) :
    (series.runOn engine).run env world =
      ((((series.plan.runOn engine).run env world).1.result,
        series.after ((series.plan.runOn engine).run env world).1),
        ((series.plan.runOn engine).run env world).2) := by
  rw [runOn, run_bind, run_pure]

/-- Running a series does what its plan does. -/
theorem trace_runOn (series : Series) (engine : EngineKind) (world : World σ) :
    (series.runOn engine).trace env world = (series.plan.runOn engine).trace env world := by
  rw [runOn, trace_bind, trace_pure, List.append_nil]

/-- A run on a console that takes `room` bytes, beside the same run on one that takes
everything.  The console shows the first `room` bytes of what the whole run prints: a
report, the transcript of its measurements, a second report and the rest.  If that is
everything the runs are the same.  If not, the run ends with a fault of the console; it
has done what the whole run does up to the write that does not fit, its measurements are
those whose lines end by then, and it abandons its session unless the second report has
begun. -/
theorem runOn_interrupted (series : Series) (engine : EngineKind) (world : World σ)
    (room : Nat) :
    let whole := (series.runOn engine).run env (world.onto .unlimited)
    let cut := (series.runOn engine).run env (world.onto (.limited (some room)))
    let wholeTrace := (series.runOn engine).trace env (world.onto .unlimited)
    let cutTrace := (series.runOn engine).trace env (world.onto (.limited (some room)))
    let shown := whole.2.console.shown
    let opening := (series.plan.opening engine).printed env (world.onto .unlimited)
    let start := (Utf8.encode opening).length
    let entries := transcript whole.1.2.measurements 0 series.plan.repetitions
    (∃ closing, shown =
        Utf8.encode (opening ++ entriesText entries ++ ("Configuration:\n" ++ closing))) ∧
      entries.filterMap Entry.measurement? = whole.1.2.measurements ∧
      cut.2.console.shown = shown.take room ∧
      (shown.length ≤ room →
        cut = (whole.1, whole.2.limit (room - shown.length)) ∧ cutTrace = wholeTrace) ∧
      (room < shown.length →
        cut.1 = (.error (.io Console.full),
          { series with measurements := finishedBy room start entries }) ∧
        (∃ before text after rest,
          wholeTrace = before ++ ⟨.write text, .ok ()⟩ :: after ∧
            cutTrace = before ++ ⟨.write text, .error Console.full⟩ :: rest ∧
            (Utf8.encode (String.join (before.map Deed.printed))).length ≤ room ∧
            room < (Utf8.encode (String.join (before.map Deed.printed))).length +
              (Utf8.encode text).length) ∧
        (Deed.abandonment series.plan.table ∈ cutTrace ↔
          room < start + entriesSize entries)) := by
  have hlimit : world.onto (.limited (some room)) = (world.onto .unlimited).limit room := rfl
  have hworld : (world.onto .unlimited).Unlimited := rfl
  have hblank : (world.onto .unlimited).console.shown = [] := rfl
  rw [hlimit]
  generalize world.onto .unlimited = world at hworld hblank
  have hshown := shown_run env (series.plan.runOn engine) hworld
  rw [hblank, List.nil_append] at hshown
  simp only [run_runOn, trace_runOn, hshown]
  refine ⟨?_, ?_, ?_, fun hroom => ?_, fun hroom => ⟨?_, ?_, ?_⟩⟩
  · obtain ⟨restored, hrestored, -, hprinted⟩ := series.plan.printed_runOn engine env hworld
    obtain ⟨settings, hreport⟩ :=
      Configuration.printed_report series.plan.table env hrestored
    rw [hprinted, hreport]
    simp only [String.append_assoc]
    exact ⟨_, rfl⟩
  · obtain ⟨opened, ended, measurements, -, hmeasure, hopened, -, hrun, -⟩ :=
      series.plan.runOn_stages engine env hworld
    obtain ⟨hmeasured, -⟩ := Plan.body_transcribes_of_run hopened hmeasure
    rw [hrun]
    exact hmeasured
  · rw [shown_run_limit env (series.plan.runOn engine) hworld room, hblank, List.nil_append]
  · obtain ⟨hrun, htrace⟩ := run_limit_of_le env (series.plan.runOn engine) hworld hroom
    rw [hrun, htrace]
    exact ⟨rfl, rfl⟩
  · obtain ⟨hresult, -⟩ := series.plan.runOn_limit_of_lt engine env hworld hroom
    rw [hresult]
    rfl
  · exact trace_limit_of_lt env (series.plan.runOn engine) hworld hroom
  · exact (series.plan.runOn_limit_of_lt engine env hworld hroom).2

end Series
end IndexBench
