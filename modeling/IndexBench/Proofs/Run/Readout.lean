import IndexBench.Proofs.Run.Interruption
import IndexBench.Proofs.Text.Lines

/-!
# Reading a run off its console

The text on a console determines the run that wrote it.  Blank lines end the first
report and then each repetition, every other line between the two reports is a
measurement, and the totals stand below their heading.

Main definitions:

- `Script.reported` is the values of settings that the engine reports to a script.
- `Readout` is what can be read off a console, and `Readout.read?` reads it.

Main results:

- Theorem `readEntries_transcript`: a transcript reads as its repetitions and measurements.
- Theorem `Plan.printed_runOn_lines`: what a run prints, line by line.
- Theorem `Series.runOn_readout`: the console of a run that ends well reads as its
  measurements and totals.
-/

namespace IndexBench

open Script

/-! ## Reported values -/

/-- The value that a deed looks up, if it looks up a setting and there is one. -/
def Deed.reported? : Deed → Option String
  | ⟨.call .scanFallback, .ok (some value)⟩ => some value
  | ⟨.call (.indexEligibility _), .ok (some value)⟩ => some value
  | _ => none

/-- The values of settings that the engine reports to a script, in order. -/
def Script.reported {σ α : Type} (env : Environment σ) (script : Script α) (world : World σ) :
    List String :=
  (script.trace env world).filterMap Deed.reported?

/-- A line that shows one of some values after a label.  The label has a space in it and
fits on a line. -/
def IsSetting (values : List String) (line : String) : Prop :=
  ∃ label value, line = label ++ value ∧ ' ' ∈ label.toList ∧ '\n' ∉ label.toList ∧
    value ∈ values

namespace IsSetting

variable {values : List String} {line : String}

/-- There may be more values. -/
theorem mono {more : List String} (h : IsSetting values line) (hmore : values ⊆ more) :
    IsSetting more line := by
  obtain ⟨label, value, hline, hspace, hlabel, hvalue⟩ := h
  exact ⟨label, value, hline, hspace, hlabel, hmore hvalue⟩

/-- A value without line ends is shown on one line. -/
theorem newline_notMem (h : IsSetting values line)
    (hvalues : ∀ value ∈ values, '\n' ∉ value.toList) : '\n' ∉ line.toList := by
  obtain ⟨label, value, rfl, -, hlabel, hvalue⟩ := h
  rw [String.toList_append, List.mem_append, not_or]
  exact ⟨hlabel, hvalues value hvalue⟩

/-- A setting is no line without a space. -/
theorem ne_of_notMem (h : IsSetting values line) {other : String} (hother : ' ' ∉ other.toList) :
    line ≠ other := by
  obtain ⟨label, value, rfl, hspace, -, -⟩ := h
  rintro rfl
  rw [String.toList_append] at hother
  exact hother (List.mem_append_left _ hspace)

end IsSetting

/-! ## Reports -/

/-- Whether a printing script ends with the console and prints lines of settings that the
engine reports to it. -/
structure Printing.Lists (script : Printing Unit) : Prop where
  ends : script.Ends
  lines : ∀ (σ : Type) (env : Environment σ) (world : World σ), world.Unlimited →
    ∃ lines, script.run.printed env world = Text.ofLines lines ∧
      ∀ line ∈ lines, IsSetting (script.run.reported env world) line

namespace Printing.Lists

/-- A value lists nothing. -/
theorem pure : (Pure.pure () : Printing Unit).Lists where
  ends := .pure ()
  lines _ _ _ _ := ⟨[], rfl, List.forall_mem_nil _⟩

/-- Scripts in a row list what each of them lists. -/
theorem bind {script next : Printing Unit} (h : script.Lists) (hnext : next.Lists) :
    (script >>= fun _ => next).Lists where
  ends := h.ends.bind fun _ => hnext.ends
  lines σ env world hworld := by
    obtain ⟨lines, hprinted, hlines⟩ := h.lines σ env world hworld
    obtain ⟨others, hprintedNext, hothers⟩ :=
      hnext.lines σ env _ (unlimited_run env script.run hworld)
    obtain ⟨⟨_, hok⟩, -⟩ := h.ends σ env world hworld
    have htrace := Printing.trace_bind hok fun _ => next
    have hreported : (script >>= fun _ => next).run.reported env world =
        script.run.reported env world ++
          next.run.reported env (script.run.run env world).2 := by
      rw [reported, htrace, List.filterMap_append]
      rfl
    refine ⟨lines ++ others, ?_, fun line hline => ?_⟩
    · rw [Text.ofLines_append, ← hprinted, ← hprintedNext, printed, htrace, List.map_append,
        String.join_append]
      rfl
    · rw [hreported]
      rcases List.mem_append.mp hline with hline | hline
      · exact (hlines line hline).mono (List.subset_append_left _ _)
      · exact (hothers line hline).mono (List.subset_append_right _ _)

/-- The line of a setting shows the value that is reported. -/
theorem setting {script : Script (Option (Option String))} (huses : script.Uses [.call, .note])
    (hreported : ∀ (σ : Type) (env : Environment σ) (world : World σ) (value : String),
      (script.run env world).1 = some (some value) → value ∈ script.reported env world)
    {label : String} (hspace : ' ' ∈ label.toList) (hlabel : '\n' ∉ label.toList) :
    (liftM script >>= Configuration.reportLine label : Printing Unit).Lists where
  ends := (Printing.Ends.lift huses (by decide)).bind fun _ =>
    Configuration.reportLine_ends label _
  lines σ env world hworld := by
    have hstill := unlimited_run env script hworld
    have hsilent := huses.printed_eq (by decide) env world
    rw [printed] at hsilent
    rw [printed, reported, Printing.trace_lift_bind, List.map_append, String.join_append, hsilent,
      String.empty_append, List.filterMap_append]
    rcases hvalue : (script.run env world).1 with _ | _ | value
    · exact ⟨[], rfl, List.forall_mem_nil _⟩
    · exact ⟨[], rfl, List.forall_mem_nil _⟩
    · refine ⟨[label ++ value], ?_, fun line hline => ?_⟩
      · have hprinted := printed_write env (label ++ value ++ "\n") hstill
        rw [Text.ofLines_cons]
        exact hprinted.trans String.append_empty.symm
      · rw [List.mem_singleton.mp hline]
        exact ⟨label, value, rfl, hspace, hlabel,
          List.mem_append_left _ (hreported σ env world value hvalue)⟩

end Printing.Lists

namespace Configuration

/-- A setting that an attempt has looked up was answered. -/
theorem mem_trace_attempt {σ : Type} {purpose : Purpose} {request : Request}
    {env : Environment σ} {world : World σ} {reply : request.Reply}
    (h : ((attempt purpose request).run env world).1 = some reply) :
    (⟨.call request, .ok reply⟩ : Deed) ∈ (attempt purpose request).trace env world := by
  have htrace : (call request).trace env world =
      [⟨.call request, ((call request).run env world).1⟩] := rfl
  rw [attempt, run_bind] at h
  rw [attempt, trace_bind, htrace]
  cases hanswer : ((call request).run env world).1 with
  | ok answer =>
      rw [hanswer] at h
      obtain rfl : answer = reply := Option.some.inj h
      exact List.mem_cons_self
  | error failure =>
      rw [hanswer] at h
      cases h

/-- The name of a table fits on a line. -/
theorem newline_notMem_table (table : TableName) : '\n' ∉ table.text.toList := by
  intro hmem
  exact absurd (TableName.isWord_of_mem_text hmem) (by decide)

/-- The scan setting is listed. -/
theorem reportScan_lists : reportScan.Lists := by
  refine .setting (Uses.attempt .readScan .scanFallback) (fun σ env world value h => ?_)
    (by decide) (by decide)
  exact List.mem_filterMap.mpr ⟨_, mem_trace_attempt h, rfl⟩

/-- The setting of an index is listed. -/
theorem reportIndex_lists (table : TableName) (order : IndexOrder) :
    (reportIndex table order).Lists := by
  refine .setting (Uses.attempt _ (.indexEligibility (order.indexName table)))
    (fun σ env world value h => ?_) ?_ ?_
  · exact List.mem_filterMap.mpr ⟨_, mem_trace_attempt h, rfl⟩
  · simp [indexLabel]
  · have htag : '\n' ∉ order.tag.toList := by cases order <;> decide
    simp [indexLabel, IndexOrder.indexName, newline_notMem_table, htag]

/-- The part of a report between its heading and its end. -/
def reportSettings (table : TableName) : Printing Unit := do
  reportScan
  IndexOrder.reportSequence.forM (reportIndex table)

/-- A report prints its settings between its heading and its end. -/
theorem report_eq (table : TableName) :
    report table = (do print "Configuration:\n"; reportSettings table; print "\n") := by
  rw [report, reportSettings]
  simp only [LawfulMonad.bind_assoc]

/-- The settings of a report are listed. -/
theorem reportSettings_lists (table : TableName) : (reportSettings table).Lists :=
  reportScan_lists.bind ((reportIndex_lists table .valueFirst).bind
    ((reportIndex_lists table .pathFirst).bind .pure))

/-- The lines of a report: a heading, settings, and a blank line. -/
def reportLines (settings : List String) : List String :=
  "Configuration:" :: settings ++ [""]

/-- A report prints its lines, with settings that the engine reports. -/
theorem report_lines {σ : Type} (table : TableName) (env : Environment σ) {world : World σ}
    (h : world.Unlimited) :
    ∃ settings, (report table).run.printed env world =
        Text.ofLines (reportLines settings) ∧
      ∀ line ∈ settings, IsSetting ((report table).run.reported env world) line := by
  have hlists := reportSettings_lists table
  have hstarted := unlimited_run env (write "Configuration:\n") h
  have hlisted := unlimited_run env (reportSettings table).run hstarted
  obtain ⟨⟨_, hok⟩, -⟩ := hlists.ends σ env _ hstarted
  obtain ⟨settings, hprinted, hsettings⟩ := hlists.lines σ env _ hstarted
  have hblank : (print "\n").run.printed env _ = "\n" := printed_write env "\n" hlisted
  rw [report_eq]
  refine ⟨settings, ?_, fun line hline => (hsettings line hline).mono ?_⟩
  · rw [printed, Printing.trace_print_bind _ _ h, Printing.trace_bind hok, List.map_cons,
      List.map_append, String.join_cons, String.join_append, ← printed, ← printed, hprinted,
      hblank, reportLines, List.cons_append, Text.ofLines_cons, Text.ofLines_append]
    rfl
  · rw [reported, reported, Printing.trace_print_bind _ _ h, Printing.trace_bind hok,
      List.filterMap_cons_none rfl, List.filterMap_append]
    exact List.subset_append_left _ _

section ReportLines

variable {values settings : List String} (h : ∀ line ∈ settings, IsSetting values line)
include h

/-- The lines of a report fit on lines. -/
theorem newline_notMem_reportLines (hvalues : ∀ value ∈ values, '\n' ∉ value.toList) :
    ∀ line ∈ reportLines settings, '\n' ∉ line.toList := by
  intro line hline
  rcases List.mem_append.mp hline with hline | hline
  · rcases List.mem_cons.mp hline with rfl | hline
    · decide
    · exact (h line hline).newline_notMem hvalues
  · rw [List.mem_singleton.mp hline]
    decide

/-- A report has no line of another heading. -/
theorem reportLines_ne {heading : String} (hspace : ' ' ∉ heading.toList) (hne : heading ≠ "")
    (hother : heading ≠ "Configuration:") :
    ∀ line ∈ reportLines settings, (line != heading) = true := by
  intro line hline
  rw [bne_iff_ne]
  rcases List.mem_append.mp hline with hline | hline
  · rcases List.mem_cons.mp hline with rfl | hline
    · exact hother.symm
    · exact (h line hline).ne_of_notMem hspace
  · rw [List.mem_singleton.mp hline]
    exact hne.symm

/-- A report is read up to its blank line. -/
theorem drop_reportLines (rest : List String) :
    ((reportLines settings ++ rest).dropWhile (· != "")).drop 1 = rest := by
  have hfilled : ∀ line ∈ "Configuration:" :: settings, (line != "") = true := by
    intro line hline
    rw [bne_iff_ne]
    rcases List.mem_cons.mp hline with rfl | hline
    · decide
    · exact (h line hline).ne_of_notMem (by decide)
  rw [reportLines, List.append_assoc, List.dropWhile_append_of_pos hfilled]
  rfl

end ReportLines
end Configuration

/-! ## Entries -/

/-- The line of an entry. -/
def Entry.line : Entry → String
  | .measured measurement =>
      "Q" ++ Natural.render measurement.query ++ ";" ++
        Natural.render measurement.reading.count ++ ";" ++
        Natural.render measurement.reading.elapsed
  | .blank => ""

/-- Entries are written on lines. -/
theorem entriesText_eq (entries : List Entry) :
    entriesText entries = Text.ofLines (entries.map Entry.line) := by
  rw [entriesText, Text.ofLines, List.map_map]
  refine congrArg String.join (List.map_congr_left fun entry _ => ?_)
  cases entry <;> rfl

/-- An entry fits on a line. -/
theorem Entry.newline_notMem_line (entry : Entry) : '\n' ∉ entry.line.toList := by
  cases entry with
  | measured measurement =>
      simp [line, Natural.notMem_render (show Natural.digit? '\n' = none by decide)]
  | blank => decide

/-- An entry is no heading. -/
theorem Entry.line_ne (entry : Entry) {first : Char} {rest : List Char} (h : first ≠ 'Q') :
    entry.line ≠ String.ofList (first :: rest) := by
  intro heq
  have hchars := congrArg String.toList heq
  rw [String.toList_ofList] at hchars
  cases entry with
  | measured measurement =>
      simp [line] at hchars
      exact h hchars.1.symm
  | blank => cases hchars

/-! ## What a run prints -/

/-- The lines of a summary fit on lines. -/
theorem Summary.newline_notMem_lines (summary : Summary) :
    ∀ line ∈ summary.lines, '\n' ∉ line.toList := by
  have hnatural (n : Nat) : '\n' ∉ (Natural.render n).toList :=
    Natural.notMem_render (by decide) n
  have hfixed := Fixed.newline_notMem_render Summary.places
  simp [lines, hnatural, hfixed]

/-- What a run prints, line by line: a report, the entries of its measurements, a second
report and its summary. -/
theorem Plan.printed_runOn_lines {σ : Type} (plan : Plan) (engine : EngineKind)
    (env : Environment σ) {world : World σ} (h : world.Unlimited) :
    let measurements := ((plan.runOn engine).run env world).1.measurements
    ∃ settings settings' : List String,
      (∀ line ∈ settings, IsSetting ((plan.runOn engine).reported env world) line) ∧
      (∀ line ∈ settings', IsSetting ((plan.runOn engine).reported env world) line) ∧
      (plan.runOn engine).printed env world =
        Text.ofLines (Configuration.reportLines settings ++
          (transcript measurements 0 plan.repetitions).map Entry.line ++
          Configuration.reportLines settings' ++
          (Summary.ofReadings (measurements.map Measurement.reading)).lines) := by
  intro measurements
  obtain ⟨restored, hrestored, hreported, hprinted⟩ := plan.printed_runOn engine env h
  obtain ⟨settings, hopening, hsettings⟩ := Configuration.report_lines plan.table env
    (unlimited_run env (plan.preparation engine) h)
  obtain ⟨settings', hclosing, hsettings'⟩ :=
    Configuration.report_lines plan.table env hrestored
  have hopened : (Configuration.report plan.table).run.trace env
      ((plan.preparation engine).run env world).2 ⊆ (plan.runOn engine).trace env world := by
    obtain ⟨opened, ended, _, -, -, -, -, -, htrace⟩ := plan.runOn_stages engine env h
    rw [htrace, (plan.opening_ok engine env h).2, trace_bind]
    intro deed hdeed
    simp only [List.mem_append, hdeed, true_or, or_true]
  refine ⟨settings, settings', fun line hline => ?_, fun line hline => ?_, ?_⟩
  · exact (hsettings line hline).mono (List.filterMap_subset _ hopened)
  · exact (hsettings' line hline).mono (List.filterMap_subset _ hreported)
  · rw [hprinted, plan.printed_opening engine env h, hopening, hclosing, entriesText_eq]
    simp only [Text.ofLines_append, String.append_assoc]
    rfl

/-! ## Reading -/

/-- Reads the line of a measurement in a repetition. -/
def readMeasurement? (repetition : Nat) (line : String) : Option Measurement :=
  match line.toList with
  | 'Q' :: fields =>
      match (Text.splitOn ';' fields).map String.ofList with
      | [query, count, elapsed] => do
          let query ← Natural.value? query
          let count ← Natural.value? count
          let elapsed ← Natural.value? elapsed
          return ⟨repetition, query, ⟨elapsed, count⟩⟩
      | _ => none
  | _ => none

/-- Reads lines from a given repetition on: a blank line ends a repetition, and any other
line is a measurement.  Yields the first repetition that is not ended. -/
def readEntries : Nat → List String → Option (Nat × List Measurement)
  | repetition, [] => some (repetition, [])
  | repetition, line :: lines =>
      if line = "" then readEntries (repetition + 1) lines
      else do
        let measurement ← readMeasurement? repetition line
        let (repetitions, measurements) ← readEntries repetition lines
        return (repetitions, measurement :: measurements)

/-- The line of a measurement reads as it. -/
theorem readMeasurement?_line (measurement : Measurement) :
    readMeasurement? measurement.repetition (Entry.measured measurement).line =
      some measurement := by
  have hsemicolon (n : Nat) : ';' ∉ (Natural.render n).toList :=
    Natural.notMem_render (by decide) n
  have hline : (Entry.measured measurement).line.toList =
      'Q' :: ((Natural.render measurement.query).toList ++
        ';' :: ((Natural.render measurement.reading.count).toList ++
          ';' :: (Natural.render measurement.reading.elapsed).toList)) := by
    simp [Entry.line]
  rw [readMeasurement?, hline]
  simp only [Text.splitOn_append_cons (hsemicolon _), Text.splitOn_of_notMem (hsemicolon _),
    List.map_cons, List.map_nil, String.ofList_toList, Natural.value?_render]
  rfl

/-- Measurements of a repetition are read before what follows them. -/
theorem readEntries_append {repetition : Nat} {measurements : List Measurement}
    (h : ∀ measurement ∈ measurements, measurement.repetition = repetition)
    (lines : List String) :
    readEntries repetition ((measurements.map Entry.measured).map Entry.line ++ lines) =
      (readEntries repetition lines).map fun read => (read.1, measurements ++ read.2) := by
  induction measurements with
  | nil => simp
  | cons measurement measurements ih =>
      obtain ⟨hfirst, hlater⟩ := List.forall_mem_cons.mp h
      have hline : (Entry.measured measurement).line ≠ "" := by
        simp [Entry.line]
      have hread := readMeasurement?_line measurement
      rw [hfirst] at hread
      rw [List.map_cons, List.map_cons, List.cons_append, readEntries, if_neg hline, hread,
        ih hlater]
      cases readEntries repetition lines <;> rfl

/-- A transcript reads as its repetitions and measurements. -/
theorem readEntries_transcript (measurements : List Measurement) (repetition times : Nat) :
    readEntries repetition ((transcript measurements repetition times).map Entry.line) =
      some (repetition + times,
        (transcript measurements repetition times).filterMap Entry.measurement?) := by
  induction times generalizing repetition with
  | zero => rfl
  | succ times ih =>
      have hthis : ∀ measurement ∈ measurements.filter
          (fun measurement => measurement.repetition == repetition),
          measurement.repetition = repetition :=
        fun measurement hmem => beq_iff_eq.mp (List.mem_filter.mp hmem).2
      have hsucc : transcript measurements repetition (times + 1) =
          (measurements.filter fun measurement =>
            measurement.repetition == repetition).map Entry.measured ++
            .blank :: transcript measurements (repetition + 1) times := by
        rw [transcript, List.range'_succ, List.flatMap_cons, List.append_assoc]
        rfl
      rw [hsucc, List.map_append, readEntries_append hthis, List.map_cons, readEntries,
        if_pos (show Entry.blank.line = "" from rfl), ih, List.filterMap_append,
        filterMap_measured, List.filterMap_cons_none rfl, Nat.add_assoc, Nat.add_comm 1]
      rfl

/-- What can be read off a console. -/
structure Readout where
  repetitions : Nat
  measurements : List Measurement
  /-- The total of milliseconds. -/
  totalElapsed : Nat
  /-- The total of matches. -/
  totalCount : Nat
  deriving DecidableEq, Repr

namespace Readout

/-- Reads the number that follows a label. -/
def total? (label line : String) : Option Nat := do
  let value ← Text.afterStart? label.toList line.toList
  Natural.value? (String.ofList value)

/-- Reads the text of a console: the entries from the first blank line to the next report,
and two of the lines under the heading of the totals. -/
def read? (text : String) : Option Readout := do
  let opened := ((Text.lines text).dropWhile (· != "")).drop 1
  let (repetitions, measurements) ← readEntries 0 (opened.takeWhile (· != "Configuration:"))
  match (opened.dropWhile (· != "Totals:")).drop 1 with
  | elapsed :: _ :: count :: _ => do
      let totalElapsed ← total? "runtimeMs: " elapsed
      let totalCount ← total? "nrMatches: " count
      return ⟨repetitions, measurements, totalElapsed, totalCount⟩
  | _ => none

/-- The number after a label is read. -/
theorem total?_append (label : String) (n : Nat) :
    total? label (label ++ Natural.render n) = some n := by
  have hafter : Text.afterStart? label.toList (label ++ Natural.render n).toList =
      some (Natural.render n).toList :=
    Text.afterStart?_eq_some.mpr String.toList_append
  rw [total?, hafter, Option.bind_eq_bind, Option.bind_some, String.ofList_toList,
    Natural.value?_render]

/-- Two reports with entries between them and a summary after them read as what they
show. -/
theorem read?_ofLines {values settings settings' : List String} {entries : List Entry}
    {repetitions : Nat} {measurements : List Measurement}
    (hsettings : ∀ line ∈ settings, IsSetting values line)
    (hsettings' : ∀ line ∈ settings', IsSetting values line)
    (hvalues : ∀ value ∈ values, '\n' ∉ value.toList)
    (hentries : readEntries 0 (entries.map Entry.line) = some (repetitions, measurements))
    (summary : Summary) :
    read? (Text.ofLines (Configuration.reportLines settings ++ entries.map Entry.line ++
        Configuration.reportLines settings' ++ summary.lines)) =
      some ⟨repetitions, measurements, summary.totalElapsed, summary.totalCount⟩ := by
  have hentry : ∀ line ∈ entries.map Entry.line, ∃ entry : Entry, entry.line = line :=
    fun line hline => (List.mem_map.mp hline).imp fun _ hentry => hentry.2
  have hlines : ∀ line ∈ Configuration.reportLines settings ++ entries.map Entry.line ++
      Configuration.reportLines settings' ++ summary.lines, '\n' ∉ line.toList := by
    simp only [List.forall_mem_append]
    refine ⟨⟨⟨Configuration.newline_notMem_reportLines hsettings hvalues, fun line hline => ?_⟩,
      Configuration.newline_notMem_reportLines hsettings' hvalues⟩,
      summary.newline_notMem_lines⟩
    obtain ⟨entry, rfl⟩ := hentry line hline
    exact entry.newline_notMem_line
  -- an entry is blank or starts with a Q, so no heading is taken for one
  have hheading {first : Char} {rest : List Char} (hfirst : first ≠ 'Q') :
      ∀ line ∈ entries.map Entry.line, (line != String.ofList (first :: rest)) = true := by
    intro line hline
    obtain ⟨entry, rfl⟩ := hentry line hline
    exact bne_iff_ne.mpr (entry.line_ne hfirst)
  have htaken : (entries.map Entry.line ++ (Configuration.reportLines settings' ++
      (summary.lines ++ [""]))).takeWhile (· != "Configuration:") = entries.map Entry.line := by
    rw [List.takeWhile_append_of_pos (hheading (by decide))]
    exact List.append_nil _
  have htotals : (entries.map Entry.line ++ (Configuration.reportLines settings' ++
      (summary.lines ++ [""]))).dropWhile (· != "Totals:") = summary.lines ++ [""] := by
    rw [List.dropWhile_append_of_pos (hheading (by decide)), List.dropWhile_append_of_pos
      (Configuration.reportLines_ne hsettings' (by decide) (by decide) (by decide))]
    rfl
  rw [read?, Text.lines_ofLines hlines]
  simp only [List.append_assoc]
  rw [Configuration.drop_reportLines hsettings, htaken, htotals, hentries]
  simp only [Summary.lines, List.cons_append, List.drop_succ_cons, List.drop_zero,
    Option.bind_eq_bind, Option.bind_some, total?_append]
  rfl

end Readout

/-! ## Runs -/

/-- An environment that gives a request the same answer whenever it is asked. -/
def Environment.steady (reply : (request : Request) → Except Failure request.Reply) :
    Environment Unit where
  answer request _ := ⟨reply request, [], ()⟩
  connect _ _ := ⟨.ok (), [], ()⟩
  inspect _ _ := .absent
  save _ _ _ := .ok ()
  stopwatch _ := 5

namespace Series

variable {σ : Type} (env : Environment σ)

/-- A run that ends well has run as on a console that takes everything, and its console
shows what it prints. -/
theorem runOn_of_ok (series : Series) (engine : EngineKind) (world : World σ)
    {room : Option Nat} {summary : Summary}
    (h : ((series.runOn engine).run env (world.onto (.limited room))).1.1 = .ok summary) :
    ((series.runOn engine).run env (world.onto (.limited room))).1 =
        ((series.runOn engine).run env (world.onto .unlimited)).1 ∧
      (series.runOn engine).reported env (world.onto (.limited room)) =
        (series.plan.runOn engine).reported env (world.onto .unlimited) ∧
      ((series.runOn engine).run env (world.onto (.limited room))).2.console.text =
        (series.plan.runOn engine).printed env (world.onto .unlimited) := by
  have hworld : (world.onto .unlimited).Unlimited := rfl
  have hshown := shown_run env (series.plan.runOn engine) hworld
  rw [show (world.onto .unlimited).console.shown = [] from rfl, List.nil_append] at hshown
  simp only [run_runOn, reported, trace_runOn] at h ⊢
  cases room with
  | none =>
      refine ⟨rfl, rfl, ?_⟩
      rw [Console.text, ← Utf8.decodeLossy_encode ((series.plan.runOn engine).printed env _),
        ← hshown]
      rfl
  | some room =>
      rw [show world.onto (.limited (some room)) = (world.onto .unlimited).limit room from rfl]
        at h ⊢
      have hroom : (series.plan.runOn engine).printedSize env (world.onto .unlimited) ≤ room := by
        refine Nat.le_of_not_lt fun hroom => ?_
        rw [(series.plan.runOn_limit_of_lt engine env hworld hroom).1] at h
        cases h
      obtain ⟨hrun, htrace⟩ := run_limit_of_le env (series.plan.runOn engine) hworld hroom
      rw [hrun, htrace]
      refine ⟨rfl, rfl, ?_⟩
      rw [Console.text, ← Utf8.decodeLossy_encode ((series.plan.runOn engine).printed env _),
        ← hshown]
      rfl

/-- The console of a run that ends well, on whatever console, reads as the run: as its
repetitions and measurements and as the totals of its summary, which are the sums over
these measurements.  The values that the engine reports must fit on their lines. -/
theorem runOn_readout (series : Series) (engine : EngineKind) (world : World σ)
    {room : Option Nat} {summary : Summary}
    (hok : ((series.runOn engine).run env (world.onto (.limited room))).1.1 = .ok summary)
    (hvalues : ∀ value ∈ (series.runOn engine).reported env (world.onto (.limited room)),
      '\n' ∉ value.toList) :
    let ended := (series.runOn engine).run env (world.onto (.limited room))
    let measurements := ended.1.2.measurements
    Readout.read? ended.2.console.text =
        some ⟨series.plan.repetitions, measurements, summary.totalElapsed,
          summary.totalCount⟩ ∧
      summary.totalElapsed =
        Summary.total (measurements.map fun measurement => measurement.reading.elapsed) ∧
      summary.totalCount =
        Summary.total (measurements.map fun measurement => measurement.reading.count) := by
  obtain ⟨hrun, hreported, htext⟩ := series.runOn_of_ok env engine world hok
  have hworld : (world.onto .unlimited).Unlimited := rfl
  obtain ⟨opened, ended, measurements, -, hmeasure, hopened, -, hended, -⟩ :=
    series.plan.runOn_stages engine env hworld
  obtain ⟨hmeasured, -⟩ := Plan.body_transcribes_of_run hopened hmeasure
  obtain ⟨settings, settings', hsettings, hsettings', hprinted⟩ :=
    series.plan.printed_runOn_lines engine env hworld
  rw [hreported] at hvalues
  simp only [hrun, htext]
  rw [hrun] at hok
  simp only [run_runOn, hended] at hok hprinted ⊢
  obtain rfl := Except.ok.inj hok
  have hentries := readEntries_transcript measurements 0 series.plan.repetitions
  rw [Nat.zero_add, hmeasured] at hentries
  refine ⟨?_, ?_, ?_⟩
  · rw [hprinted]
    exact Readout.read?_ofLines hsettings hsettings' hvalues hentries _
  · exact congrArg Summary.total (List.map_map ..)
  · exact congrArg Summary.total (List.map_map ..)

/-- A failing query leaves no line, and the rest of its run still reads as it was. -/
theorem runOn_readout_twice :
    let env := Environment.steady fun
      | .countMatches _ selector => if selector.low = 0 then .ok 2 else .error .connectionClosed
      | .enumerateMatches _ _ => .ok 2
      | .scanFallback => .ok (some "off")
      | .indexEligibility _ => .ok none
      | .insertRows _ rows => .ok rows.length
      | .setScanFallback _ | .setIndexEligible _ _ | .recreateTable _ | .createIndex _ _
      | .close => .ok ()
    let series := Series.unrun
      ⟨[⟨"a", 0, 4⟩, ⟨"b", 1, 4⟩], ⟨"records", rfl⟩, .pathFirst, .count, 2, false⟩
    let ended := (series.runOn .embedded).run env ((World.fresh () .unlimited).onto (.limited none))
    ended.1.1 = .ok ⟨2, 10, 4⟩ ∧
      Readout.read? ended.2.console.text =
        some ⟨2, [⟨0, 0, ⟨5, 2⟩⟩, ⟨1, 0, ⟨5, 2⟩⟩], 10, 4⟩ := by
  intro env series
  have hended : ((series.runOn .embedded).run env
      ((World.fresh () .unlimited).onto (.limited none))).1 =
        (.ok ⟨2, 10, 4⟩, ⟨series.plan, [⟨0, 0, ⟨5, 2⟩⟩, ⟨1, 0, ⟨5, 2⟩⟩]⟩) := rfl
  have hreported : (series.runOn .embedded).reported env
      ((World.fresh () .unlimited).onto (.limited none)) = ["off", "off"] := by decide
  have hread := (series.runOn_readout env .embedded (World.fresh () .unlimited)
    (congrArg Prod.fst hended) (by rw [hreported]; decide)).1
  rw [hended] at hread
  exact ⟨congrArg Prod.fst hended, hread⟩

end Series
end IndexBench
