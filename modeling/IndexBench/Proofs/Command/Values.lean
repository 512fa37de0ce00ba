import IndexBench.Command.Prepare
import IndexBench.Proofs.Command.Synopsis

/-!
# The values of the commands

What each command can be given, and what its values hold: the text of each field is read by itself,
and a field that is not given has a value of its own.

Main definitions:

- `Reads` says what a field holds.
- `Benchmark.synopsis` and `Prepare.synopsis` are what the commands can be given.

Main results:

- Theorems `Benchmark.describes` and `Prepare.describes`: the parameters of the commands are those
  of their synopses.
-/

namespace IndexBench
namespace Command

/-! ## Fields -/

/-- What a field holds: what its text stands for, or a value of its own. -/
def Reads {β : Type} (Stands : String → β → Prop) (absent : β) (text? : Option String)
    (value : β) : Prop :=
  match text? with
  | none => value = absent
  | some text => Stands text value

/-- What a field holds that may be empty. -/
def Optionally {β : Type} (Stands : String → β → Prop) (text : String) (value? : Option β) : Prop :=
  ∃ value, Stands text value ∧ value? = some value

/-- A path stands for itself and is not empty. -/
def StandsForPath (text path : String) : Prop :=
  text ≠ "" ∧ path = text

/-- A name stands for a table if it is valid. -/
def StandsForTable (text : String) (table : TableName) : Prop :=
  TableName.parse text = .ok table

/-- A selector stands for the order of an index. -/
def StandsForOrder (text : String) (order : IndexOrder) : Prop :=
  IndexOrder.parse text = .ok order

/-- Digits stand for a number. -/
def StandsForNumber (text : String) (n : Nat) : Prop :=
  Natural.parse text = .ok n

/-- A tag stands for the shape of queries. -/
def StandsForShape (text : String) (shape : QueryShape) : Prop :=
  text = shape.tag

/-- A field that is not given has its own value. -/
theorem reads_absent {β : Type} {Stands : String → β → Prop} {absent : β} {text? : Option String}
    (h : text? = none) : Reads Stands absent text? absent := by
  rw [h]
  rfl

/-- A field that may be empty has a value if it is given. -/
theorem exists_of_reads {β : Type} {Stands : String → β → Prop} {text? : Option String}
    {value? : Option β} (h : Reads (Optionally Stands) none text? value?)
    (htext : ∃ text, text? = some text) : ∃ value, value? = some value := by
  obtain ⟨text, rfl⟩ := htext
  obtain ⟨value, -, hvalue⟩ := h
  exact ⟨value, hvalue⟩

/-- Paths are read as what they stand for. -/
theorem readPath_eq_ok_iff {text path : String} :
    readPath text = .ok path ↔ StandsForPath text path := by
  unfold readPath StandsForPath
  by_cases hempty : text = ""
  · simp [hempty]
  · have hsome : text.isEmpty = false := by simpa using hempty
    simp only [hsome, Bool.false_eq_true, if_false, Except.ok.injEq, ne_eq, hempty,
      not_false_eq_true, true_and, eq_comm]

/-- Tables are read as what their names stand for. -/
theorem readTable_eq_ok_iff {text : String} {table : TableName} :
    readTable text = .ok table ↔ StandsForTable text table := by
  unfold readTable StandsForTable
  split <;> simp_all

/-- Orders are read as what their selectors stand for. -/
theorem readOrder_eq_ok_iff {text : String} {order : IndexOrder} :
    readOrder text = .ok order ↔ StandsForOrder text order := by
  unfold readOrder StandsForOrder
  split <;> simp_all

/-- Numbers are read as what their digits stand for. -/
theorem readNumber_eq_ok_iff {text : String} {n : Nat} :
    readNumber text = .ok n ↔ StandsForNumber text n := by
  unfold readNumber StandsForNumber
  split <;> simp_all

/-- Shapes are read as what their tags stand for. -/
theorem readShape_eq_ok_iff {text : String} {shape : QueryShape} :
    readShape text = .ok shape ↔ StandsForShape text shape := by
  unfold readShape StandsForShape QueryShape.ofTag?
  by_cases hcount : text = "count"
  · cases shape <;> simp [hcount, QueryShape.tag]
  · by_cases henumerate : text = "enumerate"
    · cases shape <;> simp [henumerate, QueryShape.tag]
    · cases shape <;> simp [hcount, henumerate, QueryShape.tag]

/-! ## The benchmark command -/

namespace Benchmark

/-- What the values of a benchmark hold, by the names of their texts. -/
structure Holds (texts : String → Option String) (values : Values) : Prop where
  catalog : Reads StandsForPath "" (texts "<CATALOG>") values.catalog
  table : Reads (Optionally StandsForTable) none (texts "<TABLE>") values.table
  order : Reads StandsForOrder .valueFirst (texts "<INDEX>") values.order
  url : values.overrides.url = texts "--database-url"
  repetitions : Reads (Optionally StandsForNumber) none (texts "--repetitions")
    values.overrides.repetitions
  shape : Reads (Optionally StandsForShape) none (texts "--executor") values.overrides.shape
  warmup : values.overrides.warmup = (texts "--warmup").isSome
  exportPath : Reads (Optionally StandsForPath) none (texts "--export") values.exportPath
  dryRun : values.dryRun = (texts "--dry-run").isSome
  settings : Reads (Optionally StandsForPath) none (texts "--config") values.settings

/-- What a benchmark can be given. -/
def synopsis : Synopsis Values where
  flags := ["--warmup", "--dry-run"]
  options := ["--database-url", "--repetitions", "--executor", "--export", "--config"]
  places := ["<CATALOG>", "<TABLE>", "<INDEX>"]
  fallbacks :=
    [("--database-url", "PATHBENCH_DATABASE_URL"), ("--config", "PATHBENCH_CONFIG")]
  Holds := Holds

/-- Each parameter stores its text in a field of its own. -/
theorem holds_store_iff {parameter : Parameter Values} (hknown : parameter ∈ parameters)
    (texts : String → Option String) (text : String) (values' : Values)
    (hnone : texts parameter.key = none) :
    Holds (Function.update texts parameter.key (some text)) values' ↔
      ∃ values, Holds texts values ∧ parameter.store text values = .ok values' := by
  simp only [parameters, List.mem_cons, List.not_mem_nil, or_false] at hknown
  constructor
  · -- before, the field was as if it were not given
    intro h
    rcases hknown with rfl | rfl | rfl | rfl | rfl | rfl | rfl | rfl | rfl | rfl
    · refine ⟨{ values' with catalog := "" }, { h with catalog := reads_absent hnone }, ?_⟩
      exact bind_eq_ok_iff.mpr ⟨values'.catalog, readPath_eq_ok_iff.mpr h.catalog, rfl⟩
    · obtain ⟨value, hvalue, hfield⟩ := h.table
      refine ⟨{ values' with table := none }, { h with table := reads_absent hnone }, ?_⟩
      exact bind_eq_ok_iff.mpr ⟨value, readTable_eq_ok_iff.mpr hvalue, by rw [← hfield]; rfl⟩
    · refine ⟨{ values' with order := .valueFirst }, { h with order := reads_absent hnone }, ?_⟩
      exact bind_eq_ok_iff.mpr ⟨values'.order, readOrder_eq_ok_iff.mpr h.order, rfl⟩
    · refine ⟨values'.overriding fun o => { o with url := none }, { h with url := hnone.symm }, ?_⟩
      exact congrArg (fun url => Except.ok (values'.overriding fun o => { o with url := url }))
        h.url.symm
    · obtain ⟨value, hvalue, hfield⟩ := h.repetitions
      refine ⟨values'.overriding fun o => { o with repetitions := none },
        { h with repetitions := reads_absent hnone }, ?_⟩
      exact bind_eq_ok_iff.mpr ⟨value, readNumber_eq_ok_iff.mpr hvalue, by rw [← hfield]; rfl⟩
    · obtain ⟨value, hvalue, hfield⟩ := h.shape
      refine ⟨values'.overriding fun o => { o with shape := none },
        { h with shape := reads_absent hnone }, ?_⟩
      exact bind_eq_ok_iff.mpr ⟨value, readShape_eq_ok_iff.mpr hvalue, by rw [← hfield]; rfl⟩
    · refine ⟨values'.overriding fun o => { o with warmup := false },
        { h with warmup := (congrArg Option.isSome hnone).symm }, ?_⟩
      exact congrArg
        (fun warmup => Except.ok (values'.overriding fun o => { o with warmup := warmup }))
        h.warmup.symm
    · obtain ⟨value, hvalue, hfield⟩ := h.exportPath
      refine ⟨{ values' with exportPath := none }, { h with exportPath := reads_absent hnone }, ?_⟩
      exact bind_eq_ok_iff.mpr ⟨value, readPath_eq_ok_iff.mpr hvalue, by rw [← hfield]; rfl⟩
    · refine ⟨{ values' with dryRun := false },
        { h with dryRun := (congrArg Option.isSome hnone).symm }, ?_⟩
      exact congrArg (fun dryRun => Except.ok { values' with dryRun := dryRun }) h.dryRun.symm
    · obtain ⟨value, hvalue, hfield⟩ := h.settings
      refine ⟨{ values' with settings := none }, { h with settings := reads_absent hnone }, ?_⟩
      exact bind_eq_ok_iff.mpr ⟨value, readPath_eq_ok_iff.mpr hvalue, by rw [← hfield]; rfl⟩
  · rintro ⟨values, h, hstore⟩
    rcases hknown with rfl | rfl | rfl | rfl | rfl | rfl | rfl | rfl | rfl | rfl
    · obtain ⟨value, hread, ⟨⟩⟩ := bind_eq_ok_iff.mp hstore
      exact { h with catalog := readPath_eq_ok_iff.mp hread }
    · obtain ⟨value, hread, ⟨⟩⟩ := bind_eq_ok_iff.mp hstore
      exact { h with table := ⟨value, readTable_eq_ok_iff.mp hread, rfl⟩ }
    · obtain ⟨value, hread, ⟨⟩⟩ := bind_eq_ok_iff.mp hstore
      exact { h with order := readOrder_eq_ok_iff.mp hread }
    · cases hstore
      exact { h with url := rfl }
    · obtain ⟨value, hread, ⟨⟩⟩ := bind_eq_ok_iff.mp hstore
      exact { h with repetitions := ⟨value, readNumber_eq_ok_iff.mp hread, rfl⟩ }
    · obtain ⟨value, hread, ⟨⟩⟩ := bind_eq_ok_iff.mp hstore
      exact { h with shape := ⟨value, readShape_eq_ok_iff.mp hread, rfl⟩ }
    · cases hstore
      exact { h with warmup := rfl }
    · obtain ⟨value, hread, ⟨⟩⟩ := bind_eq_ok_iff.mp hstore
      exact { h with exportPath := ⟨value, readPath_eq_ok_iff.mp hread, rfl⟩ }
    · cases hstore
      exact { h with dryRun := rfl }
    · obtain ⟨value, hread, ⟨⟩⟩ := bind_eq_ok_iff.mp hstore
      exact { h with settings := ⟨value, readPath_eq_ok_iff.mp hread, rfl⟩ }

/-- What is not given has the value before any argument is read. -/
theorem holds_nothing_iff (values : Values) : Holds (fun _ => none) values ↔ values = defaults := by
  constructor
  · intro h
    obtain ⟨catalog, table, order, ⟨url, repetitions, shape, warmup⟩, exportPath, dryRun,
      settings⟩ := values
    obtain ⟨rfl, rfl, rfl, rfl, rfl, rfl, rfl, rfl, rfl, rfl⟩ := h
    rfl
  · rintro rfl
    exact ⟨rfl, rfl, rfl, rfl, rfl, rfl, rfl, rfl, rfl, rfl⟩

/-- The parameters of the command are those of its synopsis. -/
theorem describes : synopsis.Describes parameters defaults where
  named :=
    { keys := by decide
      labels := by decide
      long := by simp [parameters, positional, option, flag]
      free := by simp [parameters, positional, option, flag] }
  flags := rfl
  options := rfl
  places := rfl
  fallbacks := rfl
  required := by simp [parameters, positional, option, flag]
  placed := by simp [parameters, positional, option, flag]
  defaults := holds_nothing_iff
  store _ hknown := holds_store_iff hknown

/-- Arguments that ask for values name a table. -/
theorem exists_table {environment : Variables} {arguments : List String} {values : Values}
    (h : synopsis.Asks environment arguments values) : ∃ table, values.table = some table := by
  obtain ⟨texts, hholds, hplaces⟩ := h.exists_texts
  exact exists_of_reads hholds.table (hplaces "<TABLE>" (by decide))

end Benchmark

/-! ## The prepare command -/

namespace Prepare

/-- What the values of a load hold, by the names of their texts. -/
structure Holds (texts : String → Option String) (values : Values) : Prop where
  dataset : Reads StandsForPath "" (texts "<DATASET>") values.dataset
  table : Reads (Optionally StandsForTable) none (texts "<TABLE>") values.table
  url : values.url = texts "--database-url"
  limit : Reads StandsForNumber 0 (texts "--limit-bytes") values.limit
  batch : Reads StandsForNumber 10000 (texts "--batch-size") values.batch
  settings : Reads (Optionally StandsForPath) none (texts "--config") values.settings

/-- What a load can be given. -/
def synopsis : Synopsis Values where
  flags := []
  options := ["--database-url", "--limit-bytes", "--batch-size", "--config"]
  places := ["<DATASET>", "<TABLE>"]
  fallbacks :=
    [("--database-url", "PATHBENCH_DATABASE_URL"), ("--config", "PATHBENCH_CONFIG")]
  Holds := Holds

/-- Each parameter stores its text in a field of its own. -/
theorem holds_store_iff {parameter : Parameter Values} (hknown : parameter ∈ parameters)
    (texts : String → Option String) (text : String) (values' : Values)
    (hnone : texts parameter.key = none) :
    Holds (Function.update texts parameter.key (some text)) values' ↔
      ∃ values, Holds texts values ∧ parameter.store text values = .ok values' := by
  simp only [parameters, List.mem_cons, List.not_mem_nil, or_false] at hknown
  constructor
  · -- before, the field was as if it were not given
    intro h
    rcases hknown with rfl | rfl | rfl | rfl | rfl | rfl
    · refine ⟨{ values' with dataset := "" }, { h with dataset := reads_absent hnone }, ?_⟩
      exact bind_eq_ok_iff.mpr ⟨values'.dataset, readPath_eq_ok_iff.mpr h.dataset, rfl⟩
    · obtain ⟨value, hvalue, hfield⟩ := h.table
      refine ⟨{ values' with table := none }, { h with table := reads_absent hnone }, ?_⟩
      exact bind_eq_ok_iff.mpr ⟨value, readTable_eq_ok_iff.mpr hvalue, by rw [← hfield]; rfl⟩
    · refine ⟨{ values' with url := none }, { h with url := hnone.symm }, ?_⟩
      exact congrArg (fun url => Except.ok { values' with url := url }) h.url.symm
    · refine ⟨{ values' with limit := 0 }, { h with limit := reads_absent hnone }, ?_⟩
      exact bind_eq_ok_iff.mpr ⟨values'.limit, readNumber_eq_ok_iff.mpr h.limit, rfl⟩
    · refine ⟨{ values' with batch := 10000 }, { h with batch := reads_absent hnone }, ?_⟩
      exact bind_eq_ok_iff.mpr ⟨values'.batch, readNumber_eq_ok_iff.mpr h.batch, rfl⟩
    · obtain ⟨value, hvalue, hfield⟩ := h.settings
      refine ⟨{ values' with settings := none }, { h with settings := reads_absent hnone }, ?_⟩
      exact bind_eq_ok_iff.mpr ⟨value, readPath_eq_ok_iff.mpr hvalue, by rw [← hfield]; rfl⟩
  · rintro ⟨values, h, hstore⟩
    rcases hknown with rfl | rfl | rfl | rfl | rfl | rfl
    · obtain ⟨value, hread, ⟨⟩⟩ := bind_eq_ok_iff.mp hstore
      exact { h with dataset := readPath_eq_ok_iff.mp hread }
    · obtain ⟨value, hread, ⟨⟩⟩ := bind_eq_ok_iff.mp hstore
      exact { h with table := ⟨value, readTable_eq_ok_iff.mp hread, rfl⟩ }
    · cases hstore
      exact { h with url := rfl }
    · obtain ⟨value, hread, ⟨⟩⟩ := bind_eq_ok_iff.mp hstore
      exact { h with limit := readNumber_eq_ok_iff.mp hread }
    · obtain ⟨value, hread, ⟨⟩⟩ := bind_eq_ok_iff.mp hstore
      exact { h with batch := readNumber_eq_ok_iff.mp hread }
    · obtain ⟨value, hread, ⟨⟩⟩ := bind_eq_ok_iff.mp hstore
      exact { h with settings := ⟨value, readPath_eq_ok_iff.mp hread, rfl⟩ }

/-- What is not given has the value before any argument is read. -/
theorem holds_nothing_iff (values : Values) : Holds (fun _ => none) values ↔ values = defaults := by
  constructor
  · intro h
    obtain ⟨dataset, table, url, limit, batch, settings⟩ := values
    obtain ⟨rfl, rfl, rfl, rfl, rfl, rfl⟩ := h
    rfl
  · rintro rfl
    exact ⟨rfl, rfl, rfl, rfl, rfl, rfl⟩

/-- The parameters of the command are those of its synopsis. -/
theorem describes : synopsis.Describes parameters defaults where
  named :=
    { keys := by decide
      labels := by decide
      long := by simp [parameters, positional, option]
      free := by simp [parameters, positional, option] }
  flags := rfl
  options := rfl
  places := rfl
  fallbacks := rfl
  required := by simp [parameters, positional, option]
  placed := by simp [parameters, positional, option]
  defaults := holds_nothing_iff
  store _ hknown := holds_store_iff hknown

/-- Arguments that ask for values name a table. -/
theorem exists_table {environment : Variables} {arguments : List String} {values : Values}
    (h : synopsis.Asks environment arguments values) : ∃ table, values.table = some table := by
  obtain ⟨texts, hholds, hplaces⟩ := h.exists_texts
  exact exists_of_reads hholds.table (hplaces "<TABLE>" (by decide))

end Prepare
end Command
end IndexBench
