import IndexBench.Proofs.Run.Readout
import IndexBench.Proofs.Store.Settling

/-!
# Runs without their figures of time

What a run writes about a store follows from the store and from what is measured, line by
line.  Once the figures of time are erased from the lines, only the counts are left of the
measurements.

Main definitions:

- `eraseElapsed` takes the figure of time off a line, and `Measurement.untimed` off a
  measurement.
- `Connection.settingLines` is the lines of a report about a store.
- `runLines` is the lines of a run.

Main results:

- Theorem `map_eraseElapsed_runLines`: the lines of runs are the same up to figures of time if
  the measurements are.
- Theorem `Configuration.report_shows`: a report shows the settings of a store.
- Theorem `Plan.printed_runOn_store`: what a run about a store prints, line by line.
-/

namespace IndexBench

open Script

/-! ## Figures of time -/

/-- The labels before figures of time. -/
def elapsedLabels : List String :=
  ["runtimeMs: ", "runtimeS:  "]

/-- A line without the figure of time that it shows: the last of three fields, or what stands
behind a label. -/
def eraseElapsed (line : String) : String :=
  match elapsedLabels.find? fun label => (Text.afterStart? label.toList line.toList).isSome with
  | some label => label
  | none =>
      match Text.splitOn ';' line.toList with
      | [query, count, _] => String.ofList query ++ ";" ++ String.ofList count ++ ";"
      | _ => line

/-- A measurement without its figure of time. -/
def Measurement.untimed (measurement : Measurement) : Measurement :=
  { measurement with reading := { measurement.reading with elapsed := 0 } }

/-- The line of a measurement keeps its query and its count. -/
theorem eraseElapsed_measured (measurement : Measurement) :
    eraseElapsed (Entry.measured measurement).line =
      "Q" ++ Natural.render measurement.query ++ ";" ++
        Natural.render measurement.reading.count ++ ";" := by
  have hsemicolon (n : Nat) : ';' ∉ (Natural.render n).toList :=
    Natural.notMem_render (by decide) n
  have hquery : ';' ∉ 'Q' :: (Natural.render measurement.query).toList := by
    simp [hsemicolon]
  have hline : (Entry.measured measurement).line.toList =
      ('Q' :: (Natural.render measurement.query).toList) ++
        ';' :: ((Natural.render measurement.reading.count).toList ++
          ';' :: (Natural.render measurement.reading.elapsed).toList) := by
    simp [Entry.line]
  have hlabel : elapsedLabels.find? (fun label => (Text.afterStart? label.toList
      (Entry.measured measurement).line.toList).isSome) = none := by
    rw [hline]
    rfl
  rw [eraseElapsed, hlabel, hline]
  simp only [Text.splitOn_append_cons hquery, Text.splitOn_append_cons (hsemicolon _),
    Text.splitOn_of_notMem (hsemicolon _)]
  rw [← String.toList_inj]
  simp

example : eraseElapsed "Q3;14;159" = "Q3;14;" := by decide

/-- Nothing is left of what stands behind a label. -/
theorem eraseElapsed_label {label : String} (h : label ∈ elapsedLabels) (figure : String) :
    eraseElapsed (label ++ figure) = label := by
  have hlabel : elapsedLabels.find? (fun other => (Text.afterStart? other.toList
      (label ++ figure).toList).isSome) = some label := by
    rw [String.toList_append]
    simp only [elapsedLabels, List.mem_cons, List.not_mem_nil, or_false] at h
    rcases h with rfl | rfl
    · rfl
    · rfl
  rw [eraseElapsed, hlabel]

/-! ## Lines of runs -/

/-- An entry without its figure of time. -/
def Entry.untimed : Entry → Entry
  | .measured measurement => .measured measurement.untimed
  | .blank => .blank

/-- The line of an entry is erased alike without its figure of time. -/
theorem Entry.eraseElapsed_untimed (entry : Entry) :
    eraseElapsed entry.untimed.line = eraseElapsed entry.line := by
  cases entry with
  | measured measurement =>
      rw [untimed, eraseElapsed_measured, eraseElapsed_measured]
      rfl
  | blank => rfl

/-- A transcript without figures of time is that of the measurements without them. -/
theorem map_untimed_transcript (measurements : List Measurement) (repetition times : Nat) :
    (transcript measurements repetition times).map Entry.untimed =
      transcript (measurements.map Measurement.untimed) repetition times := by
  have hrepetition (repetition : Nat) :
      (measurements.map Measurement.untimed).filter
          (fun measurement => measurement.repetition == repetition) =
        (measurements.filter fun measurement => measurement.repetition == repetition).map
          Measurement.untimed :=
    List.filter_map
  simp only [transcript, List.map_flatMap, List.map_append, List.map_map, hrepetition]
  rfl

/-- The lines of a summary keep the number of readings and the matches. -/
theorem Summary.map_eraseElapsed_lines {summary other : Summary}
    (hqueries : summary.queries = other.queries)
    (hcount : summary.totalCount = other.totalCount) :
    summary.lines.map eraseElapsed = other.lines.map eraseElapsed := by
  have hmilliseconds (figure : String) : eraseElapsed ("runtimeMs: " ++ figure) = "runtimeMs: " :=
    eraseElapsed_label (by decide) figure
  have hseconds (figure : String) : eraseElapsed ("runtimeS:  " ++ figure) = "runtimeS:  " :=
    eraseElapsed_label (by decide) figure
  have haverage : summary.averageCount = other.averageCount := by
    rw [averageCount, averageCount, hqueries, hcount]
  simp only [lines, List.map_cons, hmilliseconds, hseconds, hcount, haverage]

/-- The lines of a run: a report, the entries of its measurements, a second report and its
summary. -/
def runLines (settings closing : List String) (repetitions : Nat)
    (measurements : List Measurement) : List String :=
  Configuration.reportLines settings ++
    (transcript measurements 0 repetitions).map Entry.line ++
    Configuration.reportLines closing ++
    (Summary.ofReadings (measurements.map Measurement.reading)).lines

/-- The lines of runs are the same up to figures of time if the measurements are. -/
theorem map_eraseElapsed_runLines {measurements others : List Measurement}
    (h : measurements.map Measurement.untimed = others.map Measurement.untimed)
    (settings closing : List String) (repetitions : Nat) :
    (runLines settings closing repetitions measurements).map eraseElapsed =
      (runLines settings closing repetitions others).map eraseElapsed := by
  have hentries (measurements : List Measurement) :
      ((transcript measurements 0 repetitions).map Entry.line).map eraseElapsed =
        (transcript (measurements.map Measurement.untimed) 0 repetitions).map
          fun entry => eraseElapsed entry.line := by
    rw [← map_untimed_transcript, List.map_map, List.map_map]
    exact List.map_congr_left fun entry _ => (entry.eraseElapsed_untimed).symm
  have hqueries : measurements.length = others.length := by
    simpa using congrArg List.length h
  have hcounts : measurements.map (fun measurement => measurement.reading.count) =
      others.map fun measurement => measurement.reading.count := by
    have hread := congrArg (List.map fun measurement : Measurement => measurement.reading.count) h
    rw [List.map_map, List.map_map] at hread
    exact hread
  have hsummary : (Summary.ofReadings (measurements.map Measurement.reading)).lines.map
      eraseElapsed = (Summary.ofReadings (others.map Measurement.reading)).lines.map
        eraseElapsed := by
    refine Summary.map_eraseElapsed_lines ?_ ?_
    · simpa [Summary.ofReadings] using hqueries
    · simp only [Summary.ofReadings, List.map_map]
      exact congrArg Summary.total hcounts
  simp only [runLines, List.map_append, hentries, h, hsummary]

/-- The lines of a run fit on lines if the settings do. -/
theorem newline_notMem_runLines {settings closing : List String}
    (hsettings : ∀ line ∈ settings, '\n' ∉ line.toList)
    (hclosing : ∀ line ∈ closing, '\n' ∉ line.toList) (repetitions : Nat)
    (measurements : List Measurement) :
    ∀ line ∈ runLines settings closing repetitions measurements, '\n' ∉ line.toList := by
  have hreport {settings : List String} (h : ∀ line ∈ settings, '\n' ∉ line.toList) :
      ∀ line ∈ Configuration.reportLines settings, '\n' ∉ line.toList :=
    List.forall_mem_append.mpr ⟨List.forall_mem_cons.mpr ⟨by decide, h⟩,
      List.forall_mem_singleton.mpr (by decide)⟩
  refine List.forall_mem_append.mpr ⟨List.forall_mem_append.mpr
    ⟨List.forall_mem_append.mpr ⟨hreport hsettings, fun line hline => ?_⟩, hreport hclosing⟩,
      Summary.newline_notMem_lines _⟩
  obtain ⟨entry, -, rfl⟩ := List.mem_map.mp hline
  exact entry.newline_notMem_line

/-! ## Reports about a store -/

namespace Store.Connection

/-- The line of an index on a connection, if the index exists. -/
def indexLine? (connection : Connection) (index : String) : Option String :=
  if connection.database.hasIndexExactly index then
    some (Configuration.indexLabel index ++ markText (connection.mark? index))
  else none

/-- The lines of a report about a table on a connection. -/
def settingLines (connection : Connection) (table : TableName) : List String :=
  (Configuration.scanLabel ++ switchText connection.scanFallback) ::
    IndexOrder.reportSequence.filterMap fun order => connection.indexLine? (order.indexName table)

/-- A report shows no uses of tables. -/
theorem settingLines_noteUses (connection : Connection) (tables : List TableName)
    (table : TableName) :
    (connection.noteUses tables).settingLines table = connection.settingLines table :=
  rfl

/-- Uses of tables may be noted after a connection is settled. -/
theorem settled_noteUses (connection : Connection) (tables : List TableName)
    (table : TableName) :
    (connection.noteUses tables).settled table = (connection.settled table).noteUses tables :=
  rfl

/-- Settings are shown on lines. -/
theorem newline_notMem_settingLines (connection : Connection) (table : TableName) :
    ∀ line ∈ connection.settingLines table, '\n' ∉ line.toList := by
  intro line hline
  rcases List.mem_cons.mp hline with rfl | hline
  · cases connection.scanFallback <;> decide
  · obtain ⟨order, -, hindex⟩ := List.mem_filterMap.mp hline
    unfold indexLine? at hindex
    split at hindex
    · have htag : '\n' ∉ order.tag.toList := by cases order <;> decide
      have hmark (mark : Option Bool) : '\n' ∉ (markText mark).toList := by
        unfold markText
        split <;> decide
      cases hindex
      simp [Configuration.indexLabel, IndexOrder.indexName, Configuration.newline_notMem_table,
        htag, hmark]
    · cases hindex

end Store.Connection

/-- Whether a printing script prints lines about a store and leaves the store as it is, as long
as the console takes everything. -/
structure Printing.Shows (script : Printing Unit) (connection : Store.Connection)
    (lines : List String) : Prop where
  ends : script.Ends
  shows : ∀ (stopwatch : Nat → Nat) (world : World Machine) (anchor : Anchor)
    (pages : Option Store.Pages), world.Unlimited →
    world.state.link = some (.store anchor pages connection) →
      script.run.printed (Machine.environment stopwatch) world = Text.ofLines lines ∧
        (script.run.run (Machine.environment stopwatch) world).2.state.link =
          some (.store anchor pages connection)

namespace Printing.Shows

variable {connection : Store.Connection}

/-- A value shows nothing. -/
theorem pure : (Pure.pure () : Printing Unit).Shows connection [] where
  ends := .pure ()
  shows _ _ _ _ _ hlink := ⟨rfl, hlink⟩

/-- A line that is printed is shown. -/
theorem print {line text : String} (h : text = line ++ "\n") :
    (IndexBench.print text).Shows connection [line] where
  ends := .print text
  shows _ _ _ _ hworld hlink := by
    refine ⟨(printed_write _ text hworld).trans ?_, hlink⟩
    rw [h, Text.ofLines_cons]
    exact String.append_empty.symm

/-- Scripts in a row show one after the other. -/
theorem bind {script next : Printing Unit} {lines more : List String}
    (h : script.Shows connection lines) (hnext : next.Shows connection more) :
    (script >>= fun _ => next).Shows connection (lines ++ more) where
  ends := h.ends.bind fun _ => hnext.ends
  shows stopwatch world anchor pages hworld hlink := by
    obtain ⟨⟨_, hok⟩, -⟩ := h.ends _ (Machine.environment stopwatch) world hworld
    obtain ⟨hprinted, hkept⟩ := h.shows stopwatch world anchor pages hworld hlink
    obtain ⟨hprintedNext, hkeptNext⟩ := hnext.shows stopwatch _ anchor pages
      (unlimited_run (Machine.environment stopwatch) script.run hworld) hkept
    rw [ExceptT.run_bind, printed_bind, run_bind, hok, hprinted, Text.ofLines_append]
    exact ⟨congrArg _ hprintedNext, hkeptNext⟩

/-- What comes after a script that a store answers, and that does not print, shows its own
lines. -/
theorem after {α : Type} {script : Script α} {value : α} {next : α → Printing Unit}
    {lines : List String} (huses : script.Uses [.call, .note])
    (hends : ∀ value, (next value).Ends)
    (hanswer : ∀ (stopwatch : Nat → Nat) (world : World Machine) (anchor : Anchor)
      (pages : Option Store.Pages), world.state.link = some (.store anchor pages connection) →
        (script.run (Machine.environment stopwatch) world).1 = value ∧
          (script.run (Machine.environment stopwatch) world).2.state.link =
            some (.store anchor pages connection))
    (hnext : (next value).Shows connection lines) :
    (liftM script >>= next : Printing Unit).Shows connection lines where
  ends := (Printing.Ends.lift huses (by decide)).bind hends
  shows stopwatch world anchor pages hworld hlink := by
    obtain ⟨hvalue, hkept⟩ := hanswer stopwatch world anchor pages hlink
    rw [Printing.run_lift_bind, printed_bind, run_bind, huses.printed_eq (by decide),
      String.empty_append, hvalue]
    exact hnext.shows stopwatch _ anchor pages
      (unlimited_run (Machine.environment stopwatch) script hworld) hkept

end Printing.Shows

namespace Configuration

variable {connection : Store.Connection}

/-- A lookup on a store yields what the store answers, and leaves the store as it is. -/
theorem run_attempt_of_link (purpose : Purpose) {request : Request} {reply : request.Reply}
    (hreply : (connection.answer request).outcome = .ok reply)
    (hstate : (connection.answer request).state = connection) (stopwatch : Nat → Nat)
    {world : World Machine} {anchor : Anchor} {pages : Option Store.Pages}
    (hlink : world.state.link = some (.store anchor pages connection)) :
    ((attempt purpose request).run (Machine.environment stopwatch) world).1 = some reply ∧
      ((attempt purpose request).run (Machine.environment stopwatch) world).2.state.link =
        some (.store anchor pages connection) := by
  have houtcome : ((call request).run (Machine.environment stopwatch) world).1 = .ok reply := by
    rw [← hreply]
    change (Machine.answer request world.state).outcome = _
    simp only [Machine.answer, hlink]
  have hkept : ((call request).run (Machine.environment stopwatch) world).2.state.link =
      some (.store anchor pages connection) :=
    (Machine.link_answer hlink request).trans (by rw [hstate])
  rw [attempt, run_bind, houtcome]
  exact ⟨rfl, hkept⟩

/-- A report shows the switch of a store. -/
theorem reportScan_shows :
    reportScan.Shows connection
      [scanLabel ++ Store.Connection.switchText connection.scanFallback] := by
  refine .after (Uses.attempt .readScan .scanFallback) (fun _ => reportLine_ends scanLabel _)
    (fun stopwatch _ _ _ hlink => run_attempt_of_link .readScan rfl rfl stopwatch hlink) ?_
  exact .print rfl

/-- A report shows the mark of an index that exists. -/
theorem reportIndex_shows (table : TableName) (order : IndexOrder) :
    (reportIndex table order).Shows connection
      (connection.indexLine? (order.indexName table)).toList := by
  refine .after (Uses.attempt _ (.indexEligibility (order.indexName table)))
    (fun _ => reportLine_ends _ _)
    (fun stopwatch _ _ _ hlink => run_attempt_of_link _ rfl rfl stopwatch hlink) ?_
  unfold Store.Connection.indexLine?
  split
  · exact .print rfl
  · exact .pure

/-- A report shows the settings of a store. -/
theorem report_shows (table : TableName) :
    (report table).Shows connection (reportLines (connection.settingLines table)) := by
  have hindexes : (IndexOrder.reportSequence.forM (reportIndex table)).Shows connection
      (IndexOrder.reportSequence.filterMap fun order =>
        connection.indexLine? (order.indexName table)) := by
    induction IndexOrder.reportSequence with
    | nil => exact .pure
    | cons order orders ih =>
        have hfirst : (order :: orders).filterMap (fun order =>
            connection.indexLine? (order.indexName table)) =
              (connection.indexLine? (order.indexName table)).toList ++
                orders.filterMap fun order => connection.indexLine? (order.indexName table) := by
          rw [List.filterMap_cons]
          cases connection.indexLine? (order.indexName table) <;> rfl
        rw [hfirst]
        exact (reportIndex_shows table order).bind ih
  have hheading : (print "Configuration:\n").Shows connection ["Configuration:"] := .print rfl
  have hblank : (print "\n").Shows connection [""] := .print rfl
  rw [report_eq]
  exact hheading.bind ((reportScan_shows.bind hindexes).bind hblank)

end Configuration

/-! ## Runs about a store -/

section Stored

variable (engine : EngineKind) (table : TableName) (selected : IndexOrder)
  (stopwatch : Nat → Nat) {world : World Machine} {anchor : Anchor}
  {pages : Option Store.Pages} {connection : Store.Connection}
  (hlink : world.state.link = some (.store anchor pages connection))
include hlink

namespace Configuration

/-- A selection leads a store to where its requests lead. -/
theorem link_select :
    ((select engine table selected).run (Machine.environment stopwatch) world).2.state.link =
      some (.store anchor pages (connection.after (selection table selected))) := by
  rw [(Machine.encounters_eq (select_uses engine table selected) (by decide) (by decide) hlink).2,
    (select_sends engine table selected).requests_eq]

/-- A configuration that the console takes leads a store to where its selection leads. -/
theorem link_configure (hworld : world.Unlimited) :
    ((configure engine table selected).run.run (Machine.environment stopwatch) world).2.state.link =
      some (.store anchor pages (connection.after (selection table selected))) := by
  have hshows : (report table).Shows (connection.after (selection table selected)) _ :=
    report_shows table
  have hstill := unlimited_run (Machine.environment stopwatch) (select engine table selected) hworld
  obtain ⟨⟨_, hok⟩, -⟩ := hshows.ends _ (Machine.environment stopwatch) _ hstill
  rw [run_configure, run_bind, run_bind, hok]
  exact (hshows.shows stopwatch _ anchor pages hstill
    (link_select engine table selected stopwatch hlink)).2

/-- A restoration settles a store. -/
theorem link_restore :
    ((restore engine table).run (Machine.environment stopwatch) world).2.state.link =
      some (.store anchor pages (connection.settled table)) := by
  rw [(Machine.encounters_eq (restore_uses engine table) (by decide) (by decide) hlink).2,
    (restore_sends engine table).requests_eq]
  exact congrArg (fun settled => some (Link.store anchor pages settled))
    (Store.Connection.after_restoration [])

end Configuration

namespace Plan

variable (plan : Plan)

/-- An opening that the console takes leads a store to where its selection leads. -/
theorem link_opening (hworld : world.Unlimited) :
    ((plan.opening engine).run (Machine.environment stopwatch) world).2.state.link =
      some (.store anchor pages
        (connection.after (Configuration.selection plan.table plan.selected))) := by
  rw [opening, run_bind]
  exact Configuration.link_configure engine plan.table plan.selected stopwatch hlink hworld

/-- What a run about a store prints, line by line: the settings that its selection leaves, its
measurements, and the settings that its restoration leaves. -/
theorem printed_runOn_store (hworld : world.Unlimited) :
    (plan.runOn engine).printed (Machine.environment stopwatch) world =
      Text.ofLines (runLines
        ((connection.after (Configuration.selection plan.table plan.selected)).settingLines
          plan.table)
        ((connection.settled plan.table).settingLines plan.table) plan.repetitions
        ((plan.runOn engine).run (Machine.environment stopwatch) world).1.measurements) := by
  obtain ⟨opened, ended, measurements, hopen, hmeasure, hopened, hended, hrun, htrace⟩ :=
    plan.runOn_stages engine (Machine.environment stopwatch) hworld
  obtain ⟨-, hbody⟩ := body_transcribes_of_run hopened hmeasure
  have hlinkOpened := plan.link_opening engine stopwatch hlink hworld
  rw [hopen] at hlinkOpened
  obtain ⟨tables, hlinkEnded⟩ := plan.inquires_body.link_run stopwatch hlinkOpened
  rw [hmeasure] at hlinkEnded
  have hlinkRestored := Configuration.link_restore engine plan.table stopwatch hlinkEnded
  have hrestored : (((connection.after (Configuration.selection plan.table plan.selected)).noteUses
      tables).settled plan.table).settingLines plan.table =
        (connection.settled plan.table).settingLines plan.table := by
    rw [Store.Connection.settled_noteUses, Store.Connection.settingLines_noteUses,
      Store.Connection.settled_after_selection]
  have hopening := ((Configuration.report_shows plan.table).shows stopwatch _ anchor pages
    (unlimited_run (Machine.environment stopwatch) (plan.preparation engine) hworld)
    (Configuration.link_select engine plan.table plan.selected stopwatch hlink)).1
  have hclosing := ((Configuration.report_shows plan.table).shows stopwatch _ anchor pages
    (unlimited_run (Machine.environment stopwatch) (Configuration.restore engine plan.table) hended)
    hlinkRestored).1
  have hstages : (plan.runOn engine).printed (Machine.environment stopwatch) world =
      (plan.opening engine).printed (Machine.environment stopwatch) world ++
        plan.body.printed (Machine.environment stopwatch) opened ++
        (plan.conclude engine measurements).run.printed (Machine.environment stopwatch) ended := by
    simp only [printed, htrace, List.map_append, String.join_append]
  have hsummary : (Summary.ofReadings (measurements.map Measurement.reading)).report =
      Text.ofLines (Summary.ofReadings (measurements.map Measurement.reading)).lines := rfl
  rw [hstages, plan.printed_opening engine _ hworld, hopening, hbody.printed, entriesText_eq,
    plan.printed_conclude engine _ measurements hended, hclosing, hrestored, hsummary, hrun]
  simp only [runLines, Text.ofLines_append, String.append_assoc]

end Plan
end Stored
end IndexBench
