import IndexBench.Proofs.Command.Steps
import IndexBench.Proofs.Command.Values
import IndexBench.Proofs.Loading.Requests

/-!
# What commands check first

Both commands check everything that they are given before they touch a database: their
arguments, the settings, the address, and the file that they read.  The first check that fails
ends the command with nothing written and no connection attempted.  A command that connects does
so once, and a load closes its connection whatever it returns.

Main definitions:

- `Untouched` says that a command has failed and left all but the log alone.
- `Benchmark.Measures` and `Prepare.Loads` say what a command comes to that has passed its checks.
- `Benchmark.Ends` and `Prepare.Ends` say what a command comes to whose arguments are accepted.
- `ChecksFirst` says that a command checks its arguments first.

Main results:

- Theorem `Benchmark.ends_run`: what the benchmark command comes to.
- Theorem `Prepare.ends_run`: what the prepare command comes to.
- Theorem `commands_check_first`: failures of the input come before any use of a database.
-/

namespace IndexBench
namespace Command

open Script

variable {σ : Type} {env : Environment σ} {world : World σ}

/-! ## Failures that touch nothing -/

/-- A command that has failed with all but the log left alone. -/
structure Untouched (world : World σ) (ended : Exit × World σ) : Prop where
  status : ended.1.status ≠ 0
  state : ended.2.state = world.state
  console : ended.2.console = world.console
  calls : ended.2.calls = world.calls
  connections : ended.2.connections = world.connections

/-- A fault of the first steps leaves all alone. -/
theorem Untouched.of_fault (world : World σ) (fault : Fault) :
    Untouched world (Exit.ofOutcome (.error fault), world) :=
  ⟨status_ne_zero fault, rfl, rfl, rfl, rfl⟩

/-! ## The benchmark command -/

namespace Benchmark

/-- Showing the queries of a catalog writes their lines. -/
theorem run_showMatchers (env : Environment σ) (catalog : Catalog) (world : World σ) :
    let written := world.console.write (String.join (catalog.map matcherLine))
    (showMatchers catalog).run.run env world =
      (written.1.mapError .console, { world with console := written.2 }) := by
  induction catalog generalizing world with
  | nil =>
      have hnothing := world.console.write_empty
      rw [List.map_nil, String.join_nil, hnothing]
      rfl
  | cons query catalog ih =>
      have hprint := run_print env world (matcherLine query)
      rw [List.map_cons, String.join_cons, Console.write_append, showMatchers]
      rcases hwrite : world.console.write (matcherLine query) with ⟨fault | _, console⟩
      · rw [hwrite] at hprint
        rw [Run.run_bind_error hprint]
        rfl
      · rw [hwrite] at hprint
        rw [Run.run_bind_ok hprint]
        exact ih _

/-- Loading a catalog yields what its file says, and notes it. -/
theorem run_loadCatalog (env : Environment σ) (world : World σ) (path : String) :
    (loadCatalog path).run.run env world =
      match Catalog.ofFile (env.inspect path world.state) with
      | .ok catalog => (.ok catalog, world.note (.catalogLoaded path catalog.length))
      | .error failure => (.error (.failed failure), world) := by
  have hfile : (liftM (Script.perform (.inspect path)) : Run FileState).run.run env world =
      (.ok (env.inspect path world.state), world) := Run.run_lift env world _
  have hread := run_ofExcept env world (Catalog.ofFile (env.inspect path world.state))
  rw [loadCatalog, Run.run_bind_ok hfile]
  cases hcatalog : Catalog.ofFile (env.inspect path world.state) with
  | ok catalog =>
      rw [hcatalog] at hread
      exact Run.run_bind_ok hread
  | error failure =>
      rw [hcatalog] at hread
      exact Run.run_bind_error hread

/-- Exporting a run connects to nothing. -/
theorem save_uses (series : Series) (path : String) : (series.save path).Uses [.file, .note] := by
  refine (Uses.perform .file rfl (by decide)).bind fun saved => ?_
  cases saved with
  | error fault => exact .pure _
  | ok _ => exact (Uses.perform .note rfl (by decide)).bind fun _ => .pure _

/-- A series connects once, whatever becomes of it. -/
theorem connections_run_series (env : Environment σ) (world : World σ) (series : Series)
    (engine : EngineKind) (address : Address) :
    ((series.run engine address).run env world).2.connections =
      world.connections ++ [address] := by
  have hperformed : (world.perform env (.connect address)).2.connections =
      world.connections ++ [address] := rfl
  rcases hconnect : world.perform env (.connect address) with ⟨failure | _, connected⟩
  · rw [hconnect] at hperformed
    rw [series.run_refused env engine address hconnect]
    exact hperformed
  · rw [hconnect] at hperformed
    have hrun : (series.runOn engine).Uses [.call, .measure, .write, .note, .abandonment] :=
      (series.plan.runOn_uses engine).bind fun _ => .pure _
    rw [series.run_connected env engine address hconnect,
      (Uses.attempt _ _).connections_run (by decide), hrun.connections_run (by decide)]
    exact hperformed

/-- A benchmark that is measured connects once, whatever becomes of it. -/
theorem connections_measure (env : Environment σ) (world : World σ) (plan : Plan) {url : String}
    (exportPath : Option String) {address : Address} (haddress : Address.parse url = .ok address) :
    ((measure plan url exportPath).run.run env world).2.connections =
      world.connections ++ [address] := by
  have hparse := run_ofExcept env world (Address.parse url)
  rw [haddress] at hparse
  have hseries := Run.run_lift env world ((Series.unrun plan).run address.engine address)
  rw [measure, haddress, Run.run_bind_ok hparse, Run.run_bind_ok hseries,
    ← connections_run_series env world (Series.unrun plan) address.engine address]
  generalize (Series.run (Series.unrun plan) address.engine address).run env world = ended
  obtain ⟨⟨result, series⟩, finished⟩ := ended
  have hresult := run_ofExcept env finished result
  cases result with
  | error failure => rw [Run.run_bind_error hresult]
  | ok summary =>
      rw [Run.run_bind_ok hresult]
      cases exportPath with
      | none => rfl
      | some path =>
          have hsaved := (save_uses series path).connections_run (by decide) env finished
          have hsave := run_ofScript env finished (series.save path)
          exact (congrArg (fun ended => ended.2.connections) hsave).trans hsaved

/-- A benchmark whose database has no address fails before it connects. -/
theorem run_measure_unaddressed (env : Environment σ) (world : World σ) (plan : Plan)
    {url : String} (exportPath : Option String) {failure : Failure}
    (haddress : Address.parse url = .error failure) :
    (measure plan url exportPath).run.run env world = (.error (.failed failure), world) := by
  have hparse := run_ofExcept env world (Address.parse url)
  rw [haddress] at hparse
  rw [measure, haddress]
  exact Run.run_bind_error hparse

/-- A benchmark whose database refuses the connection fails at once. -/
theorem run_measure_refused (env : Environment σ) (plan : Plan) {url : String}
    (exportPath : Option String) {address : Address} {failure : Failure} {refused : World σ}
    (haddress : Address.parse url = .ok address)
    (hconnect : world.perform env (.connect address) = (.error failure, refused)) :
    (measure plan url exportPath).run.run env world = (.error (.failed failure), refused) := by
  have hparse := run_ofExcept env world (Address.parse url)
  rw [haddress] at hparse
  have hseries := Run.run_lift env world ((Series.unrun plan).run address.engine address)
  rw [Series.run_refused env (Series.unrun plan) address.engine address hconnect] at hseries
  have hresult : (Run.ofExcept (.error failure : Except Failure Summary)).run.run env refused =
      (.error (.failed failure), refused) := run_ofExcept env refused _
  rw [measure, haddress, Run.run_bind_ok hparse, Run.run_bind_ok hseries]
  exact Run.run_bind_error hresult

/-- What a benchmark that is measured comes to.  It needs an address, and connects once. -/
def Measures (env : Environment σ) (world : World σ) (url : String)
    (ended : Exit × World σ) : Prop :=
  match Address.parse url with
  | .error _ => Untouched world ended
  | .ok address =>
      ended.2.connections = world.connections ++ [address] ∧
      match (env.connect address world.state).outcome with
      | .error _ =>
          ended.1.status ≠ 0 ∧ ended.2.console = world.console ∧ ended.2.calls = world.calls
      | .ok () => True

/-- What a benchmark comes to that is measured after its catalog was noted. -/
theorem measures_run (env : Environment σ) (world : World σ) (event : Event) (plan : Plan)
    (url : String) (exportPath : Option String) :
    let ended := (measure plan url exportPath).run.run env (world.note event)
    Measures env world url (Exit.ofOutcome ended.1, ended.2) := by
  intro ended
  unfold Measures
  cases haddress : Address.parse url with
  | error failure =>
      have hended : ended = (.error (.failed failure), world.note event) :=
        run_measure_unaddressed env _ plan exportPath haddress
      rw [hended]
      exact ⟨status_ne_zero _, rfl, rfl, rfl, rfl⟩
  | ok address =>
      refine ⟨connections_measure env (world.note event) plan exportPath haddress, ?_⟩
      cases houtcome : (env.connect address world.state).outcome with
      | ok _ => trivial
      | error failure =>
          have hconnect : (world.note event).perform env (.connect address) =
              (.error failure, ((world.note event).perform env (.connect address)).2) :=
            Prod.ext houtcome rfl
          have hended : ended =
              (.error (.failed failure), ((world.note event).perform env (.connect address)).2) :=
            run_measure_refused env plan exportPath haddress hconnect
          rw [hended]
          exact ⟨status_ne_zero _, rfl, rfl⟩

/-- What the command comes to once its arguments are accepted.  Settings and catalog come first.
A dry run shows the catalog and asks for no address. -/
def Ends (env : Environment σ) (world : World σ) (environment : Variables) (values : Values)
    (ended : Exit × World σ) : Prop :=
  match settingsFound env world.state environment values.settings,
      Catalog.ofFile (env.inspect values.catalog world.state) with
  | .error _, _ => Untouched world ended
  | .ok _, .error _ => Untouched world ended
  | .ok settings, .ok catalog =>
      if values.dryRun then
        let written := world.console.write (String.join (catalog.map matcherLine))
        ended.2.console = written.2 ∧ (ended.1 = ⟨0, none⟩ ↔ written.1 = .ok ()) ∧
          ended.2.state = world.state ∧ ended.2.calls = world.calls ∧
          ended.2.connections = world.connections
      else Measures env world (settings.override values.overrides).address ended

/-- What the command comes to. -/
theorem ends_run (env : Environment σ) (world : World σ) (environment : Variables)
    {values : Values} {table : TableName} (htable : values.table = some table) :
    Ends env world environment values
      (Exit.ofOutcome ((run environment values).run.run env world).1,
        ((run environment values).run.run env world).2) := by
  have hsettings := run_loadSettings env world environment values.settings
  have hcatalog := run_loadCatalog env world values.catalog
  unfold Ends run
  simp only [htable]
  cases hfound : settingsFound env world.state environment values.settings with
  | error fault =>
      rw [hfound] at hsettings
      rw [Run.run_bind_error hsettings]
      exact Untouched.of_fault world _
  | ok settings =>
      rw [hfound] at hsettings
      rw [Run.run_bind_ok hsettings]
      cases hread : Catalog.ofFile (env.inspect values.catalog world.state) with
      | error failure =>
          rw [hread] at hcatalog
          rw [Run.run_bind_error hcatalog]
          exact Untouched.of_fault world _
      | ok catalog =>
          rw [hread] at hcatalog
          rw [Run.run_bind_ok hcatalog]
          by_cases hdry : values.dryRun = true
          · simp only [hdry, if_true]
            rw [run_showMatchers]
            exact ⟨rfl, ofOutcome_eq_success_iff _, rfl, rfl, rfl⟩
          · simp only [hdry, if_false, Bool.false_eq_true]
            exact measures_run env world _ _ _ values.exportPath

end Benchmark

/-! ## The prepare command -/

namespace Prepare

/-- Opening a dataset looks at its file and changes nothing. -/
theorem run_openDataset (env : Environment σ) (world : World σ) (path : String) (limit : Nat) :
    (openDataset path limit).run.run env world =
      ((Dataset.Reader.openFile (env.inspect path world.state) limit).mapError .failed, world) := by
  have hfile : (liftM (Script.perform (.inspect path)) : Run FileState).run.run env world =
      (.ok (env.inspect path world.state), world) := Run.run_lift env world _
  rw [openDataset, Run.run_bind_ok hfile]
  exact run_ofExcept env world _

/-- Inserting batches calls the engine. -/
theorem insertAll_uses (table : TableName) (imported : Nat) (batches : List (List Row)) :
    (Loading.insertAll table imported batches).run.Uses [.call, .note] := by
  induction batches generalizing imported with
  | nil => exact .pure _
  | cons rows batches ih =>
      have hinsert : (Loading.require (.insertRows table rows)).run.Uses [.call, .note] :=
        Uses.perform .call rfl (by decide)
      exact Uses.bind_except hinsert fun count => ih (Loading.addRows imported count)

/-- A load calls the engine and takes notes: it neither connects nor writes. -/
theorem prepareTable_uses (engine : EngineKind) (table : TableName) (reader : Dataset.Reader)
    (size : Nat) : (Loading.prepareTable engine table reader size).run.run.Uses [.call, .note] := by
  have hnote (event : Event) (hevent : (Action.note event).kind = .note) :
      (liftM (Script.note event) : Fallible Unit).run.Uses [.call, .note] :=
    Uses.lift_except (Uses.perform .note hevent (by decide))
  have hrequire (request : Request) : (Loading.require request).run.Uses [.call, .note] :=
    Uses.perform .call rfl (by decide)
  have hbuild (order : IndexOrder) : (Loading.buildIndex table order).run.Uses [.call, .note] :=
    Uses.bind_except (hnote _ rfl) fun _ => hrequire _
  have hbuilds : (IndexOrder.buildSequence.forM (Loading.buildIndex table)).run.Uses
      [.call, .note] :=
    Uses.bind_except (hbuild .pathFirst) fun _ =>
      Uses.bind_except (hbuild .valueFirst) fun _ => .pure _
  have hstart : (Loading.start engine table size).run.Uses [.call, .note] :=
    Uses.bind_except (hnote _ rfl) fun _ => Uses.bind_except (hrequire _) fun _ => hnote _ rfl
  by_cases hroom : Loading.hasRoom (Loading.batchSize size) = true
  · rcases hbatches : reader.batches (Loading.batchSize size) with ⟨batches, malformed⟩
    rw [Loading.run_prepareTable_of_hasRoom hroom, Loading.load, Loading.fill_eq hbatches,
      map_eq_pure_bind]
    refine Uses.bind_except (Uses.bind_except hstart fun _ =>
      Uses.bind_except (insertAll_uses table 0 batches) fun rows => ?_) fun _ => .pure _
    cases malformed with
    | some failure => exact .pure _
    | none =>
        exact Uses.bind_except (hnote _ rfl) fun _ => Uses.bind_except hbuilds fun _ =>
          Uses.bind_except (hnote _ rfl) fun _ => .pure _
  · rw [Loading.run_prepareTable_of_not_hasRoom (Bool.eq_false_iff.mpr hroom)]
    exact Uses.bind_except hstart fun _ => .pure _

/-- A load that is refused the connection fails at once. -/
theorem run_loadInto_refused (env : Environment σ) (table : TableName) (reader : Dataset.Reader)
    (batch : Nat) {address : Address} {failure : Failure} {refused : World σ}
    (hconnect : world.perform env (.connect address) = (.error failure, refused)) :
    (loadInto address table reader batch).run.run env world =
      (.error (.failed failure), refused) := by
  have hstep := run_ofScript env world (Script.perform (.connect address))
  rw [Script.run_perform, hconnect] at hstep
  rw [loadInto]
  exact Run.run_bind_error hstep

section Connected

variable (env : Environment σ) (table : TableName) (reader : Dataset.Reader) (batch : Nat)
  {address : Address} {connected after : World σ}
  (hconnect : world.perform env (.connect address) = (.ok (), connected))
include hconnect

/-- A load that connects and panics ends the command at once. -/
theorem run_loadInto_panicked {panic : Panic}
    (hload : (Loading.prepareTable address.engine table reader batch).run.run.run env connected =
      (.ok (.error panic), after)) :
    (loadInto address table reader batch).run.run env world =
      (.error (.panicked panic), after) := by
  have hstep := run_ofScript env world (Script.perform (.connect address))
  rw [Script.run_perform, hconnect] at hstep
  have hunwound := run_unwinding env connected
    (Loading.prepareTable address.engine table reader batch)
  rw [hload] at hunwound
  rw [loadInto, Run.run_bind_ok hstep]
  exact Run.run_bind_error hunwound

/-- A load that connects and returns closes the connection, and then ends as it returned. -/
theorem exists_run_loadInto {result : Except Failure (Except Panic Nat)}
    {returned : Except Failure Nat}
    (hload : (Loading.prepareTable address.engine table reader batch).run.run.run env connected =
      (result, after)) (hreturned : unwound result = .ok returned) :
    ∃ finished, (loadInto address table reader batch).run.run env world =
        (returned.mapError .failed, finished) ∧
      finished.connections = after.connections ∧ finished.console = after.console ∧
      ∃ closed, finished.calls = after.calls ++ [⟨.close, closed⟩] := by
  have hstep := run_ofScript env world (Script.perform (.connect address))
  rw [Script.run_perform, hconnect] at hstep
  have hunwound := run_unwinding env connected
    (Loading.prepareTable address.engine table reader batch)
  rw [hload, hreturned] at hunwound
  have hclose := Run.run_lift env after (Script.call .close)
  rw [loadInto, Run.run_bind_ok hstep, Run.run_bind_ok hunwound, Run.run_bind_ok hclose,
    Script.call, Script.run_perform]
  have hafter : (after.perform env (.call .close)).2.connections = after.connections ∧
      (after.perform env (.call .close)).2.console = after.console ∧
      ∃ closed, (after.perform env (.call .close)).2.calls =
        after.calls ++ [⟨.close, closed⟩] :=
    ⟨rfl, rfl, _, rfl⟩
  generalize after.perform env (.call .close) = closing at *
  obtain ⟨outcome, finished⟩ := closing
  cases outcome with
  | ok _ => exact ⟨finished, run_ofExcept env finished returned, hafter⟩
  | error failure =>
      have hnote := Run.run_lift env finished (Script.note (.closeFailed failure))
      refine ⟨finished.note (.closeFailed failure), ?_, hafter⟩
      exact (Run.run_bind_ok hnote).trans (run_ofExcept env _ returned)

end Connected

/-- The line that tells of a load. -/
def importedLine (rows : Nat) (table : TableName) : String :=
  "imported " ++ Natural.render rows ++ " records into " ++ table.text ++ "\n"

/-- The load of a dataset with what is printed of it. -/
def loadAndTell (address : Address) (table : TableName) (reader : Dataset.Reader) (batch : Nat) :
    Run Unit := do
  let rows ← loadInto address table reader batch
  Run.print (importedLine rows table)

/-- What a load comes to.  It connects once and asks nothing of an engine without a connection,
which it closes whatever the load returns.  Only a load that succeeds is told of.  A load that
panics returns nothing, and ends the command where it stands. -/
def Loads (env : Environment σ) (world : World σ) (address : Address) (table : TableName)
    (reader : Dataset.Reader) (batch : Nat) (ended : Exit × World σ) : Prop :=
  let opened := world.perform env (.connect address)
  ended.2.connections = world.connections ++ [address] ∧
  match opened.1 with
  | .error _ =>
      ended.1.status ≠ 0 ∧ ended.2.console = world.console ∧ ended.2.calls = world.calls
  | .ok () =>
      let loaded :=
        (Loading.prepareTable address.engine table reader batch).run.run.run env opened.2
      match loaded.1 with
      | .ok (.error _) =>
          ended.1.status ≠ 0 ∧ ended.2.console = world.console ∧ ended.2.calls = loaded.2.calls
      | .error _ =>
          (∃ closed, ended.2.calls = loaded.2.calls ++ [⟨.close, closed⟩]) ∧
            ended.1.status ≠ 0 ∧ ended.2.console = world.console
      | .ok (.ok rows) =>
          let written := world.console.write (importedLine rows table)
          (∃ closed, ended.2.calls = loaded.2.calls ++ [⟨.close, closed⟩]) ∧
            ended.2.console = written.2 ∧ (ended.1 = ⟨0, none⟩ ↔ written.1 = .ok ())

/-- What a load comes to. -/
theorem loads_run (env : Environment σ) (world : World σ) (address : Address) (table : TableName)
    (reader : Dataset.Reader) (batch : Nat) :
    Loads env world address table reader batch
      (Exit.ofOutcome ((loadAndTell address table reader batch).run.run env world).1,
        ((loadAndTell address table reader batch).run.run env world).2) := by
  have hopened : (world.perform env (.connect address)).2.connections =
      world.connections ++ [address] := rfl
  have hconsole : (world.perform env (.connect address)).2.console = world.console := rfl
  have hcalls : (world.perform env (.connect address)).2.calls = world.calls := rfl
  unfold Loads loadAndTell
  rcases hconnect : world.perform env (.connect address) with ⟨failure | _, opened⟩
  · rw [hconnect] at hopened hconsole hcalls
    rw [Run.run_bind_error (run_loadInto_refused env table reader batch hconnect)]
    exact ⟨hopened, status_ne_zero _, hconsole, hcalls⟩
  · rw [hconnect] at hopened hconsole
    have huses := prepareTable_uses address.engine table reader batch
    have hconnections := (huses.connections_run (by decide) env opened).trans hopened
    have hshown := (huses.console_run (by decide) env opened).trans hconsole
    have hended (returned : Except Failure Nat) :=
      @exists_run_loadInto _ _ env table reader batch _ _ _ hconnect _ returned (Prod.eta _).symm
    have hpanicked {panic : Panic} {after : World σ} :=
      @run_loadInto_panicked _ _ env table reader batch _ _ after hconnect panic
    dsimp only
    generalize (Loading.prepareTable address.engine table reader batch).run.run.run env opened =
      loaded at *
    obtain ⟨result, after⟩ := loaded
    rcases result with failure | panic | rows
    · obtain ⟨finished, hload, hkept, hsame, hclosed⟩ := hended (.error failure) rfl
      rw [Run.run_bind_error hload]
      exact ⟨hkept.trans hconnections, hclosed, status_ne_zero _, hsame.trans hshown⟩
    · rw [Run.run_bind_error (hpanicked rfl)]
      exact ⟨hconnections, status_ne_zero _, hshown, rfl⟩
    · obtain ⟨finished, hload, hkept, hsame, hclosed⟩ := hended (.ok rows) rfl
      have hprint := run_print env finished (importedLine rows table)
      rw [hsame.trans hshown] at hprint
      rw [Run.run_bind_ok hload, hprint]
      exact ⟨hkept.trans hconnections, hclosed, rfl, ofOutcome_eq_success_iff _⟩

/-- What the command comes to once its arguments are accepted.  Settings, address and dataset come
first. -/
def Ends (env : Environment σ) (world : World σ) (environment : Variables) (values : Values)
    (table : TableName) (ended : Exit × World σ) : Prop :=
  match settingsFound env world.state environment values.settings with
  | .error _ => Untouched world ended
  | .ok settings =>
      match Address.parse (settings.override ⟨values.url, none, none, false⟩).address,
          Dataset.Reader.openFile (env.inspect values.dataset world.state) values.limit with
      | .error _, _ => Untouched world ended
      | .ok _, .error _ => Untouched world ended
      | .ok address, .ok reader => Loads env world address table reader values.batch ended

/-- What the command comes to. -/
theorem ends_run (env : Environment σ) (world : World σ) (environment : Variables)
    {values : Values} {table : TableName} (htable : values.table = some table) :
    Ends env world environment values table
      (Exit.ofOutcome ((run environment values).run.run env world).1,
        ((run environment values).run.run env world).2) := by
  have hsettings := run_loadSettings env world environment values.settings
  have hdataset := run_openDataset env world values.dataset values.limit
  unfold Ends run
  simp only [htable]
  cases hfound : settingsFound env world.state environment values.settings with
  | error fault =>
      rw [hfound] at hsettings
      rw [Run.run_bind_error hsettings]
      exact Untouched.of_fault world _
  | ok settings =>
      rw [hfound] at hsettings
      rw [Run.run_bind_ok hsettings]
      dsimp only
      have haddress := run_ofExcept env world
        (Address.parse (settings.override ⟨values.url, none, none, false⟩).address)
      cases hparse : Address.parse (settings.override ⟨values.url, none, none, false⟩).address with
      | error failure =>
          rw [hparse] at haddress
          rw [Run.run_bind_error haddress]
          exact Untouched.of_fault world _
      | ok address =>
          rw [hparse] at haddress
          rw [Run.run_bind_ok haddress]
          cases hopen : Dataset.Reader.openFile (env.inspect values.dataset world.state)
              values.limit with
          | error failure =>
              rw [hopen] at hdataset
              rw [Run.run_bind_error hdataset]
              exact Untouched.of_fault world _
          | ok reader =>
              rw [hopen] at hdataset
              rw [Run.run_bind_ok hdataset]
              exact loads_run env world address table reader values.batch

end Prepare

/-! ## Both commands -/

/-- Whether a command checks its arguments first.  With those that ask for values it ends as it
does with these values, with those that ask for its version or for help it only writes, and all
others it refuses without touching anything. -/
structure ChecksFirst {α : Type} (synopsis : Synopsis α) (Ends : α → Exit × World σ → Prop)
    (world : World σ) (environment : Variables) (arguments : List String)
    (ended : Exit × World σ) : Prop where
  accepted : ∀ values, synopsis.Asks environment arguments values → Ends values ended
  told : synopsis.AsksAboutItself arguments → ended.2.state = world.state ∧
    ended.2.calls = world.calls ∧ ended.2.connections = world.connections
  refused : (∀ values, ¬synopsis.Asks environment arguments values) →
    ¬synopsis.AsksAboutItself arguments → Untouched world ended

section Dispatch

variable {α : Type} (env : Environment σ) (world : World σ) (name : String)
  {parameters : List (Parameter α)} {defaults : α} (run : α → Run Unit) {environment : Variables}
  {arguments : List String}

/-- A command that refuses its arguments touches nothing. -/
theorem untouched_of_refused {fault : UsageFault}
    (h : Arguments.read environment parameters defaults arguments = .error fault) :
    Untouched world
      ((dispatch name parameters defaults run environment arguments).run env world) := by
  rw [dispatch, h]
  exact Untouched.of_fault world _

/-- A command that accepts its arguments runs with their values. -/
theorem run_dispatch {values : α}
    (h : Arguments.read environment parameters defaults arguments = .ok (.values values)) :
    (dispatch name parameters defaults run environment arguments).run env world =
      (Exit.ofOutcome ((run values).run.run env world).1, ((run values).run.run env world).2) := by
  rw [dispatch, h, Script.run_bind]
  rfl

/-- A command that tells of itself only writes. -/
theorem run_dispatch_shown {outcome : Parsed α}
    (h : Arguments.read environment parameters defaults arguments = .ok outcome)
    (hshown : outcome.IsShown) :
    let ended := (dispatch name parameters defaults run environment arguments).run env world
    ended.2.state = world.state ∧ ended.2.calls = world.calls ∧
      ended.2.connections = world.connections := by
  rw [dispatch, h]
  cases outcome with
  | values values => cases hshown
  | version =>
      rw [Script.run_bind, run_print]
      exact ⟨rfl, rfl, rfl⟩
  | help =>
      rw [Script.run_bind, run_print]
      exact ⟨rfl, rfl, rfl⟩

/-- A command that has the parameters of its synopsis checks its arguments first. -/
theorem checksFirst_dispatch {synopsis : Synopsis α} (h : synopsis.Describes parameters defaults)
    {Ends : α → Exit × World σ → Prop}
    (hrun : ∀ values, synopsis.Asks environment arguments values →
      Ends values (Exit.ofOutcome ((run values).run.run env world).1,
        ((run values).run.run env world).2)) :
    ChecksFirst synopsis Ends world environment arguments
      ((dispatch name parameters defaults run environment arguments).run env world) where
  accepted values hasks := by
    rw [run_dispatch env world name run (h.read_eq_values_iff.mpr hasks)]
    exact hrun values hasks
  told hasks := by
    obtain ⟨outcome, hread, hshown⟩ := h.read_shown_iff.mpr hasks
    exact run_dispatch_shown env world name run hread hshown
  refused hvalues habout := by
    cases hread : Arguments.read environment parameters defaults arguments with
    | error fault => exact untouched_of_refused env world name run hread
    | ok outcome =>
        exfalso
        cases outcome with
        | values values => exact hvalues values (h.read_eq_values_iff.mp hread)
        | version => exact habout (h.read_shown_iff.mp ⟨.version, hread, trivial⟩)
        | help => exact habout (h.read_shown_iff.mp ⟨.help, hread, trivial⟩)

end Dispatch

/-- Failures of the input come before any use of a database.  Both commands refuse arguments that
are invalid, a table and the selector of an index among them, without touching anything.  With
arguments that are accepted they check the settings and the files that they read, and connect only
then. -/
theorem commands_check_first (env : Environment σ) (world : World σ) (environment : Variables)
    (arguments : List String) :
    ChecksFirst Benchmark.synopsis (Benchmark.Ends env world environment) world environment
        arguments ((Benchmark.command environment arguments).run env world) ∧
      ChecksFirst Prepare.synopsis
        (fun values ended => ∃ table, values.table = some table ∧
          Prepare.Ends env world environment values table ended) world environment
        arguments ((Prepare.command environment arguments).run env world) := by
  constructor
  · refine checksFirst_dispatch env world Benchmark.name _ Benchmark.describes ?_
    intro values hasks
    obtain ⟨table, htable⟩ := Benchmark.exists_table hasks
    exact Benchmark.ends_run env world environment htable
  · refine checksFirst_dispatch env world Prepare.name _ Prepare.describes ?_
    intro values hasks
    obtain ⟨table, htable⟩ := Prepare.exists_table hasks
    exact ⟨table, htable, Prepare.ends_run env world environment htable⟩

/-- A dry run whose options are spelled in three ways ends as its values say, although the variable
of the environment names no database that is supported.  An unknown selector is refused. -/
theorem commands_check_first_dry_run :
    let env : Environment Unit := ⟨fun _ _ => ⟨.error .connectionClosed, [], ()⟩,
      fun _ _ => ⟨.ok (), [], ()⟩, fun _ _ => .absent, fun _ _ _ => .ok (), fun _ => 0⟩
    let world := World.fresh () (.limited none)
    let environment : Variables := fun name =>
      if name = "PATHBENCH_DATABASE_URL" then some "mysql://localhost" else none
    let values : Benchmark.Values := ⟨"queries.csv", some ⟨"t", rfl⟩, .pathFirst,
      ⟨some "mysql://localhost", some 3, some .count, false⟩, none, true, none⟩
    let run (arguments : List String) := (Benchmark.command environment arguments).run env world
    let arguments :=
      ["--executor=count", "queries.csv", "t", "--dry-run", "--repetitions", "3", "--", "pv"]
    Benchmark.synopsis.Asks environment arguments values ∧
      Benchmark.Ends env world environment values (run arguments) ∧
      Untouched world (run ["queries.csv", "t", "sideways"]) := by
  intro env world environment values run arguments
  have hvalue (text : String) (h : text.toList.head? ≠ some '-') : IsValue text := by
    intro letter rest htext
    exact h (htext ▸ rfl)
  have hspelled : Spelled Benchmark.synopsis.flags Benchmark.synopsis.options
      Benchmark.synopsis.places arguments
      [("--executor", "count"), ("<CATALOG>", "queries.csv"), ("<TABLE>", "t"),
        ("--dry-run", "true"), ("--repetitions", "3"), ("<INDEX>", "pv")] := by
    refine @Spelled.attached _ _ _ _ _ "--executor" "count" (by decide) ?_
    refine .place (hvalue _ (by decide)) (.place (hvalue _ (by decide)) ?_)
    refine .flag (by decide) (.separate (by decide) (hvalue _ (by decide)) ?_)
    exact @Spelled.trailing _ _ ["<INDEX>"] ["pv"] (by decide)
  have hasks : Benchmark.synopsis.Asks environment arguments values :=
    ⟨_, ⟨hspelled, by decide⟩, by decide, ⟨⟨by decide, rfl⟩, ⟨⟨"t", rfl⟩, rfl, rfl⟩, rfl, rfl,
      ⟨3, rfl, rfl⟩, ⟨.count, rfl, rfl⟩, rfl, rfl, rfl, rfl⟩⟩
  have hchecks := commands_check_first env world environment
  refine ⟨hasks, (hchecks arguments).1.accepted values hasks, ?_⟩
  have hrefused : Arguments.read environment Benchmark.parameters Benchmark.defaults
      ["queries.csv", "t", "sideways"] = .error (.invalid "sideways" "<INDEX>"
        (some "composite index must be one of \x7bvp,pv\x7d, got 'sideways'")) :=
    rfl
  refine (hchecks _).1.refused ?_ ?_
  · intro other hother
    rw [Benchmark.describes.read_eq_values_iff.mpr hother] at hrefused
    cases hrefused
  · intro habout
    obtain ⟨outcome, houtcome, -⟩ := Benchmark.describes.read_shown_iff.mpr habout
    rw [hrefused] at houtcome
    cases houtcome

end Command
end IndexBench
