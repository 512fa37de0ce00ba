import IndexBench.Machine
import IndexBench.Proofs.Disk.Files
import IndexBench.Proofs.Export.Reading
import IndexBench.Proofs.Run.Readout
import Mathlib.Data.List.Forall2

/-!
# Exports lose nothing

However often a series was run, and whatever cut the runs short, its measurements are of
queries of its catalog.  The file of an export reads back as a header and one row for each
measurement, with everything that is known of it and of its query.

Main definitions:

- `Script.Ensures` says that a script always yields a value with a property.
- `Catalog.Covers` says that measurements are of queries of a catalog.
- `Series.Reached` says which series runs lead to.
- `Export.readRow?` reads a measurement and its query from the fields of a row.

Main results:

- Theorem `Series.Reached.covers`: the measurements of a series are of queries of its catalog.
- Theorem `Series.save_lossless`: what is read from the file of an export.
-/

namespace IndexBench

/-! ## Values that a script always yields -/

namespace Script

variable {α β : Type} {p : α → Prop} {q : β → Prop}

/-- Whether a script yields a value with a property in every world. -/
def Ensures (script : Script α) (p : α → Prop) : Prop :=
  ∀ (σ : Type) (env : Environment σ) (world : World σ), p (script.run env world).1

namespace Ensures

/-- Every script ensures nothing in particular. -/
theorem any (script : Script α) : script.Ensures fun _ => True :=
  fun _ _ _ => trivial

/-- A script that does nothing yields its value. -/
theorem pure {value : α} (h : p value) : (Pure.pure value : Script α).Ensures p :=
  fun _ _ _ => h

/-- Scripts in a row ensure what the second does with every value of the first. -/
theorem bind {script : Script α} {f : α → Script β} (h : script.Ensures p)
    (hf : ∀ value, p value → (f value).Ensures q) : (script >>= f).Ensures q := by
  intro σ env world
  rw [run_bind]
  exact hf _ (h σ env world) σ env _

/-- Behind any script comes one that ensures its own. -/
theorem after (script : Script α) {f : α → Script β} (hf : ∀ value, (f value).Ensures q) :
    (script >>= f).Ensures q :=
  (any script).bind fun value _ => hf value

end Ensures
end Script

/-! ## Measurements of a catalog -/

/-- Whether measurements are of queries of a catalog. -/
def Catalog.Covers (catalog : Catalog) (measurements : List Measurement) : Prop :=
  ∀ measurement ∈ measurements, measurement.query < catalog.length

namespace Plan

open Script

/-- What is measured from a place on is of queries of the catalog. -/
theorem measureFrom_covers (plan : Plan) (repetition : Nat) {place : Nat}
    {queries : List RangeQuery} (h : place + queries.length ≤ plan.catalog.length) :
    (plan.measureFrom repetition place queries).Ensures fun measured =>
      plan.catalog.Covers measured.1 := by
  induction queries generalizing place with
  | nil => exact .pure (List.forall_mem_nil _)
  | cons query queries ih =>
      rw [List.length_cons] at h
      have hplace : place < plan.catalog.length := by omega
      have hlater : (plan.measureFrom repetition (place + 1) queries).Ensures fun measured =>
          plan.catalog.Covers measured.1 := ih (by omega)
      refine .after _ fun executed => ?_
      cases executed with
      | error failure => exact .after _ fun _ => hlater
      | ok reading =>
          refine .after _ fun written => ?_
          cases written with
          | error fault => exact .pure (List.forall_mem_nil _)
          | ok _ =>
              refine hlater.bind fun measured hmeasured => .pure ?_
              exact List.forall_mem_cons.mpr ⟨hplace, hmeasured⟩

/-- What is measured in a repetition is of queries of the catalog. -/
theorem measureOnce_covers (plan : Plan) (repetition : Nat) :
    (plan.measureOnce repetition).Ensures fun measured => plan.catalog.Covers measured.1 := by
  refine (plan.measureFrom_covers repetition (by omega)).bind fun measured hmeasured => ?_
  obtain ⟨measurements, written⟩ := measured
  cases written with
  | error fault => exact .pure hmeasured
  | ok _ =>
      refine .after _ fun ended => ?_
      cases ended with
      | error fault => exact .pure hmeasured
      | ok _ => exact .after _ fun _ => .pure hmeasured

/-- What is measured in all repetitions is of queries of the catalog. -/
theorem measureTimes_covers (plan : Plan) (times repetition : Nat) :
    (plan.measureTimes times repetition).Ensures fun measured =>
      plan.catalog.Covers measured.1 := by
  induction times generalizing repetition with
  | zero => exact .pure (List.forall_mem_nil _)
  | succ times ih =>
      refine (plan.measureOnce_covers repetition).bind fun measured hmeasured => ?_
      obtain ⟨measurements, written⟩ := measured
      cases written with
      | error fault => exact .pure hmeasured
      | ok _ =>
          refine (ih (repetition + 1)).bind fun later hlater => .pure ?_
          exact List.forall_mem_append.mpr ⟨hmeasured, hlater⟩

/-- What a run measures is of queries of its catalog, however it ends. -/
theorem runOn_covers (plan : Plan) (engine : EngineKind) :
    (plan.runOn engine).Ensures fun outcome => plan.catalog.Covers outcome.measurements := by
  have hbody : plan.body.Ensures fun measured => plan.catalog.Covers measured.1 := by
    unfold body
    split
    · exact .after _ fun _ => plan.measureTimes_covers plan.repetitions 0
    · exact plan.measureTimes_covers plan.repetitions 0
  refine .after _ fun _ => .after _ fun configured => ?_
  cases configured with
  | error fault => exact .pure (List.forall_mem_nil _)
  | ok _ =>
      refine hbody.bind fun measured hmeasured => ?_
      obtain ⟨measurements, written⟩ := measured
      cases written with
      | error fault => exact .after _ fun _ => .pure hmeasured
      | ok _ => exact .after _ fun _ => .pure hmeasured

end Plan

namespace Series

open Script

/-- Which series runs lead to: one that was not run, and from one that is reached those after a
run on any engine, and the same measurements with another plan for its catalog. -/
inductive Reached : Series → Prop where
  | unrun (plan : Plan) : Reached (.unrun plan)
  | replanned {series : Series} (h : Reached series) {plan : Plan}
      (hcatalog : plan.catalog = series.plan.catalog) : Reached { series with plan := plan }
  | runOn {series : Series} (h : Reached series) {σ : Type} (env : Environment σ)
      (world : World σ) (engine : EngineKind) :
      Reached ((series.runOn engine).run env world).1.2
  | run {series : Series} (h : Reached series) {σ : Type} (env : Environment σ)
      (world : World σ) (engine : EngineKind) (address : Address) :
      Reached ((series.run engine address).run env world).1.2

/-- A run leaves measurements of queries of the catalog, and the plan as it was. -/
theorem runOn_covers (series : Series) (engine : EngineKind) :
    (series.runOn engine).Ensures fun ended =>
      ended.2.plan.catalog.Covers ended.2.measurements :=
  (series.plan.runOn_covers engine).bind fun _ houtcome => .pure houtcome

/-- The measurements of a series are of queries of its catalog. -/
theorem Reached.covers {series : Series} (h : series.Reached) :
    series.plan.catalog.Covers series.measurements := by
  induction h with
  | unrun plan => exact List.forall_mem_nil _
  | replanned _ hcatalog ih =>
      intro measurement hmeasurement
      rw [hcatalog]
      exact ih measurement hmeasurement
  | runOn _ env world engine _ => exact runOn_covers _ engine _ env world
  | @run series _ σ env world engine address ih =>
      rcases hconnect : world.perform env (.connect address) with ⟨failure | _, connected⟩
      · rw [run_refused env series engine address hconnect]
        exact ih
      · rw [run_connected env series engine address hconnect]
        exact runOn_covers series engine σ env connected

end Series

/-! ## Rows -/

namespace Export

/-- Reads a measurement and its query from the fields of a row. -/
def readRow? : List String → Option (Measurement × RangeQuery)
  | [repetition, place, pattern, low, high, count, elapsed] => do
      let repetition ← Natural.value? repetition
      let place ← Natural.value? place
      let low ← (Integer.parse low).toOption
      let high ← (Integer.parse high).toOption
      let count ← Natural.value? count
      let elapsed ← Natural.value? elapsed
      return (⟨repetition, place, ⟨elapsed, count⟩⟩, ⟨pattern, low, high⟩)
  | _ => none

/-- A measurement and its query are read from the fields that are written of them. -/
theorem readRow?_fields (measurement : Measurement) (query : RangeQuery) :
    readRow? (fields measurement query) = some (measurement, query) := by
  simp [readRow?, fields, Integer.parse_render, Except.toOption]

/-- The rows of measurements of a catalog are records of seven fields. -/
theorem exists_rows {catalog : Catalog} {measurements : List Measurement}
    (h : catalog.Covers measurements) :
    ∃ rows : List (List String), measurements.flatMap (row catalog) = rows.flatMap record ∧
      (∀ written ∈ rows, written.length = 7) ∧
      List.Forall₂ (fun written measurement => ∃ query,
        catalog[measurement.query]? = some query ∧ written = fields measurement query)
        rows measurements := by
  induction measurements with
  | nil => exact ⟨[], rfl, List.forall_mem_nil _, .nil⟩
  | cons measurement measurements ih =>
      obtain ⟨hfirst, hlater⟩ := List.forall_mem_cons.mp h
      obtain ⟨rows, hrows, hlength, hread⟩ := ih hlater
      have hquery : catalog[measurement.query]? = some catalog[measurement.query] :=
        List.getElem?_eq_getElem hfirst
      refine ⟨fields measurement catalog[measurement.query] :: rows, ?_,
        List.forall_mem_cons.mpr ⟨rfl, hlength⟩, .cons ⟨_, hquery, rfl⟩ hread⟩
      rw [List.flatMap_cons, List.flatMap_cons, hrows, row, hquery]

/-- The table of measurements of a catalog reads as a header and their rows. -/
theorem read_table {catalog : Catalog} {measurements : List Measurement}
    (h : catalog.Covers measurements) (hne : measurements ≠ []) :
    ∃ rows : List (List String),
      read (Utf8.encode (String.ofList (table catalog measurements))) = some (header :: rows) ∧
        List.Forall₂ (fun written measurement => ∃ query,
          catalog[measurement.query]? = some query ∧ written = fields measurement query ∧
            readRow? written = some (measurement, query)) rows measurements := by
  obtain ⟨rows, hrows, hlength, hread⟩ := exists_rows h
  have htable : table catalog measurements = (header :: rows).flatMap record := by
    rw [table, if_neg (by simpa using hne), hrows, List.flatMap_cons]
  have hfields : ∀ written ∈ header :: rows, 2 ≤ written.length := by
    refine List.forall_mem_cons.mpr ⟨by decide, ?_⟩
    intro written hwritten
    rw [hlength written hwritten]
    decide
  refine ⟨rows, by rw [htable, read_records hfields], hread.imp ?_⟩
  rintro written measurement ⟨query, hquery, rfl⟩
  exact ⟨query, hquery, rfl, readRow?_fields measurement query⟩

/-- What an export comes to on a machine: its table is what the file holds, unless the file
cannot be written. -/
theorem run_save (path : String) (catalog : Catalog) (measurements : List Measurement)
    (stopwatch : Nat → Nat) (world : World Machine) :
    let bytes := Utf8.encode (String.ofList (table catalog measurements))
    let exported :=
      (save path catalog measurements).run (Machine.environment stopwatch) world
    (exported.1 = .ok () ∧ exported.2.state.disk.read path = .file bytes) ∨
      ∃ fault, world.state.disk.write path bytes = .error fault ∧
        exported.1 = .error (.record (.io fault)) ∧ exported.2.state = world.state := by
  intro bytes exported
  have hexported : exported = (save path catalog measurements).run
      (Machine.environment stopwatch) world := rfl
  rw [save, Script.run_bind, Script.run_perform] at hexported
  cases hwrite : world.state.disk.write path bytes with
  | ok disk =>
      left
      have hperform : world.perform (Machine.environment stopwatch) (.save path bytes) =
          (.ok (), { world with state := { world.state with disk := disk } }) := by
        simp [World.perform, Machine.environment, hwrite, Except.map]
      rw [hperform] at hexported
      rw [hexported]
      exact ⟨rfl, Disk.read_write hwrite⟩
  | error fault =>
      right
      have hperform : world.perform (Machine.environment stopwatch) (.save path bytes) =
          (.error fault, world) := by
        simp [World.perform, Machine.environment, hwrite, Except.map]
      rw [hperform] at hexported
      rw [hexported]
      exact ⟨fault, rfl, rfl, rfl⟩

end Export

/-! ## Exports of series -/

namespace Series

/-- Whatever runs led to a series, its measurements are of queries of its catalog.  Its export
to a file of a machine fails only if the file cannot be written.  Otherwise the file is empty
without measurements, and else it reads as the header and one row for each measurement, in
their order, which holds the measurement and its query. -/
theorem save_lossless {series : Series} (h : series.Reached) (path : String)
    (stopwatch : Nat → Nat) (world : World Machine) :
    let exported := (series.save path).run (Machine.environment stopwatch) world
    series.plan.catalog.Covers series.measurements ∧
      ∃ bytes,
        ((exported.1 = .ok () ∧ exported.2.state.disk.read path = .file bytes) ∨
          ∃ fault, world.state.disk.write path bytes = .error fault ∧
            exported.1 = .error (.record (.io fault)) ∧ exported.2.state = world.state) ∧
        (series.measurements = [] → bytes = []) ∧
        (series.measurements ≠ [] → ∃ rows : List (List String),
          Export.read bytes = some (Export.header :: rows) ∧
            List.Forall₂ (fun written measurement => ∃ query,
              series.plan.catalog[measurement.query]? = some query ∧
                written = Export.fields measurement query ∧
                Export.readRow? written = some (measurement, query))
              rows series.measurements) := by
  intro exported
  have hcovers := h.covers
  refine ⟨hcovers, _, Export.run_save path series.plan.catalog series.measurements stopwatch world,
    fun hnone => ?_, fun hne => Export.read_table hcovers hne⟩
  rw [hnone]
  rfl

/-- The measurements of a run, of which a run that does not connect leaves all, are read from
the file of their export, with a semicolon, quotes and a line end in a pattern. -/
theorem save_lossless_refused :
    let query : RangeQuery := ⟨"a;\"b\"\r\n", 0, -7⟩
    let env := Environment.steady fun
      | .countMatches _ selector => if selector.low = 0 then .ok 3 else .error .connectionClosed
      | .enumerateMatches _ _ => .ok 0
      | .scanFallback => .ok none
      | .indexEligibility _ => .ok none
      | .insertRows _ rows => .ok rows.length
      | .setScanFallback _ | .setIndexEligible _ _ | .recreateTable _ | .createIndex _ _
      | .close => .ok ()
    let refusing := { env with connect := fun _ _ => ⟨.error .connectionClosed, [], ()⟩ }
    let world := World.fresh () .unlimited
    let measured := ((Series.unrun ⟨[⟨"", 1, 9⟩, query], ⟨"records", rfl⟩, .pathFirst, .count, 2,
      false⟩).runOn .embedded |>.run env world).1.2
    let series := ((measured.run .embedded .memory).run refusing world).1.2
    let machine : World Machine := World.fresh ⟨.empty [], .unreachable, none⟩ .unlimited
    let exported := (series.save "/out.csv").run (Machine.environment fun _ => 0) machine
    ∃ bytes rows, exported.2.state.disk.read "/out.csv" = .file bytes ∧
      Export.read bytes = some (Export.header :: rows) ∧
        rows.map Export.readRow? =
          [some (⟨0, 1, ⟨5, 3⟩⟩, query), some (⟨1, 1, ⟨5, 3⟩⟩, query)] := by
  intro query env refusing world measured series machine exported
  have hseries : series = ⟨measured.plan, [⟨0, 1, ⟨5, 3⟩⟩, ⟨1, 1, ⟨5, 3⟩⟩]⟩ := rfl
  have hreached : series.Reached := .run (.runOn (.unrun _) env world .embedded) refusing world
    .embedded .memory
  obtain ⟨-, bytes, hsaved, -, hread⟩ := save_lossless hreached "/out.csv" (fun _ => 0) machine
  have hlocated : machine.state.disk.locate "/out.csv" = .vacant ["out.csv"] := by decide
  have hwritten : machine.state.disk.write "/out.csv" bytes =
      .ok (machine.state.disk.put ["out.csv"] (.file bytes)) := by
    rw [Disk.write, hlocated]
  obtain ⟨rows, hrows, hmatch⟩ := hread (by rw [hseries]; simp)
  have hfile : exported.2.state.disk.read "/out.csv" = .file bytes := by
    rcases hsaved with ⟨-, hfile⟩ | ⟨fault, hfault, -⟩
    · exact hfile
    · rw [hwritten] at hfault
      cases hfault
  refine ⟨bytes, rows, hfile, hrows, ?_⟩
  rw [hseries] at hmatch
  obtain ⟨first, rows, ⟨query', hquery, -, hfirst⟩, hlater, rfl⟩ :=
    List.forall₂_cons_right_iff.mp hmatch
  obtain ⟨second, rows, ⟨query'', hquery', -, hsecond⟩, hrest, rfl⟩ :=
    List.forall₂_cons_right_iff.mp hlater
  obtain rfl := List.forall₂_nil_right_iff.mp hrest
  obtain rfl : query = query' := Option.some.inj hquery
  obtain rfl : query = query'' := Option.some.inj hquery'
  rw [List.map_cons, List.map_singleton, hfirst, hsecond]

end Series
end IndexBench
