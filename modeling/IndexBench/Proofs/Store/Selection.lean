import IndexBench.Machine
import IndexBench.Proofs.Run.Kinds
import IndexBench.Proofs.Store.Orderly

/-!
# The index that a session forces

A session forbids scans and marks the selected index eligible and the other one not, as
far as they exist.  No mark is on an index that does not exist, so the queries of the
session force the selected index if there is one, and no index otherwise.  A session that
has ended allows scans again.

Main definitions:

- `Script.encounters` is the requests of a script with the states that answer them.
- `Connection.meets` is requests with the connections that answer them.
- `Machine.Released` says that no index is forced before scans are forbidden again.

Main results:

- Theorem `Connection.hint_after_selection`: what a selection makes queries force.
- Theorem `Machine.encounters_eq`: a script that does not connect meets the connections
  that its requests lead to.
- Theorem `Series.runOn_selected`: every query of a run forces the selected index if it
  exists, and after the run no index is forced.
-/

namespace IndexBench

open Script

/-! ## Requests that ask -/

/-- Whether a request is a query. -/
def Request.isQuery : Request → Bool
  | .countMatches _ _ => true
  | .enumerateMatches _ _ => true
  | _ => false

/-- Whether a request asks for settings or rows, and changes nothing. -/
def Request.asks : Request → Bool
  | .scanFallback => true
  | .indexEligibility _ => true
  | request => request.isQuery

/-- A query asks. -/
theorem Request.asks_of_isQuery {request : Request} (h : request.isQuery = true) :
    request.asks = true := by
  cases request <;> first | exact h | rfl

/-- The requests of a report ask, but are no queries. -/
theorem Configuration.asks_of_mem_lookups {table : TableName} {request : Request}
    (h : request ∈ lookups table) : request.asks = true ∧ request.isQuery = false := by
  simp only [lookups, List.mem_cons, List.not_mem_nil, or_false] at h
  rcases h with rfl | rfl | rfl <;> exact ⟨rfl, rfl⟩

/-- The requests of a selection are no queries. -/
theorem Configuration.isQuery_of_mem_selection {table : TableName} {selected : IndexOrder}
    {request : Request} (h : request ∈ selection table selected) : request.isQuery = false := by
  simp only [selection, List.mem_cons, List.not_mem_nil, or_false] at h
  rcases h with rfl | rfl | rfl <;> rfl

/-- The requests of a restoration are no queries. -/
theorem Configuration.isQuery_of_mem_restoration {table : TableName} {request : Request}
    (h : request ∈ restoration table) : request.isQuery = false := by
  simp only [restoration, List.mem_cons, List.not_mem_nil, or_false] at h
  rcases h with rfl | rfl | rfl <;> rfl

/-- The requests of a plan are queries. -/
theorem Plan.isQuery_of_mem_queries {plan : Plan} {request : Request}
    (h : request ∈ plan.queries) : request.isQuery = true := by
  have hquery (query : RangeQuery) : (plan.request query).isQuery = true := by
    unfold Plan.request
    cases plan.shape <;> rfl
  have hcatalog : ∀ request ∈ plan.catalog.map plan.request, request.isQuery = true := by
    intro request hrequest
    obtain ⟨query, -, rfl⟩ := List.mem_map.mp hrequest
    exact hquery query
  rcases List.mem_append.mp h with hwarm | hmeasured
  · split at hwarm
    · exact hcatalog request hwarm
    · cases hwarm
  · obtain ⟨round, hround, hrequest⟩ := List.mem_flatten.mp hmeasured
    rw [List.eq_of_mem_replicate hround] at hrequest
    exact hcatalog request hrequest

/-- The requests of a run are a selection, requests that ask, a restoration, and lookups.
Its queries are those of its plan. -/
theorem Plan.Bracketed.parts {plan : Plan} {finished : Bool} {sent : List Request}
    (h : plan.Bracketed finished sent) :
    ∃ asked looked, sent = Configuration.selection plan.table plan.selected ++ asked ++
        Configuration.restoration plan.table ++ looked ∧
      (∀ request ∈ asked, request.asks = true ∧
        (request.isQuery = true → request ∈ plan.queries)) ∧
      ∀ request ∈ looked, request ∈ Configuration.lookups plan.table := by
  have hlookups : ∀ request ∈ Configuration.lookups plan.table, request.asks = true ∧
      (request.isQuery = true → request ∈ plan.queries) := by
    intro request hrequest
    obtain ⟨hasks, hquery⟩ := Configuration.asks_of_mem_lookups hrequest
    exact ⟨hasks, fun h => by rw [hquery] at h; cases h⟩
  have hqueries : ∀ request ∈ plan.queries, request.asks = true ∧
      (request.isQuery = true → request ∈ plan.queries) := by
    intro request hrequest
    exact ⟨Request.asks_of_isQuery (isQuery_of_mem_queries hrequest), fun _ => hrequest⟩
  cases h with
  | @unreported looked hlooked =>
      refine ⟨looked, [], (List.append_nil _).symm, fun request hrequest => ?_,
        List.forall_mem_nil _⟩
      exact hlookups request (hlooked.subset hrequest)
  | @interrupted asked hasked =>
      refine ⟨Configuration.lookups plan.table ++ asked, [], by simp, fun request hrequest => ?_,
        List.forall_mem_nil _⟩
      rcases List.mem_append.mp hrequest with hrequest | hrequest
      · exact hlookups request hrequest
      · exact hqueries request (hasked.subset hrequest)
  | @reset looked hlooked =>
      refine ⟨Configuration.lookups plan.table ++ plan.queries, looked, by simp,
        fun request hrequest => ?_, fun request hrequest => hlooked.subset hrequest⟩
      rcases List.mem_append.mp hrequest with hrequest | hrequest
      · exact hlookups request hrequest
      · exact hqueries request hrequest

/-! ## Connections met -/

namespace Store
namespace Connection

variable {connection : Connection}

/-- Requests, each with the connection that answers it. -/
def meets (connection : Connection) : List Request → List (Request × Connection)
  | [] => []
  | request :: requests =>
      (request, connection) :: (connection.answer request).state.meets requests

/-- Requests in a row lead where the later ones lead from where the earlier ones lead. -/
theorem after_append (requests others : List Request) :
    connection.after (requests ++ others) = (connection.after requests).after others :=
  List.foldl_append

/-- Requests in a row meet connections one after the other. -/
theorem meets_append (requests others : List Request) :
    connection.meets (requests ++ others) =
      connection.meets requests ++ (connection.after requests).meets others := by
  induction requests generalizing connection with
  | nil => rfl
  | cons request requests ih => exact congrArg (List.cons _) ih

/-- Each request meets a connection. -/
theorem fst_mem_of_mem_meets {requests : List Request} {met : Request × Connection}
    (h : met ∈ connection.meets requests) : met.1 ∈ requests := by
  induction requests generalizing connection with
  | nil => cases h
  | cons request requests ih =>
      rcases List.mem_cons.mp h with rfl | hlater
      · exact List.mem_cons_self
      · exact List.mem_cons_of_mem _ (ih hlater)

/-- A request that asks leaves the database and what queries force. -/
theorem answer_of_asks (connection : Connection) {request : Request}
    (h : request.asks = true) :
    (connection.answer request).state.database = connection.database ∧
      (connection.answer request).state.hint = connection.hint := by
  cases request with
  | scanFallback => exact ⟨rfl, rfl⟩
  | indexEligibility index => exact ⟨rfl, rfl⟩
  | countMatches table selector => exact ⟨rfl, rfl⟩
  | enumerateMatches table selector => exact ⟨rfl, rfl⟩
  | _ => cases h

/-- As long as requests ask they meet the same database, and force the same indexes. -/
theorem meets_of_asks {requests : List Request} (h : ∀ request ∈ requests, request.asks = true)
    {met : Request × Connection} (hmet : met ∈ connection.meets requests) :
    met.2.database = connection.database ∧ met.2.hint = connection.hint := by
  induction requests generalizing connection with
  | nil => cases hmet
  | cons request requests ih =>
      obtain ⟨hfirst, hlater⟩ := List.forall_mem_cons.mp h
      rcases List.mem_cons.mp hmet with rfl | hmet
      · exact ⟨rfl, rfl⟩
      · obtain ⟨hdatabase, hhint⟩ := answer_of_asks connection hfirst
        obtain ⟨hdatabase', hhint'⟩ := ih hlater hmet
        exact ⟨hdatabase'.trans hdatabase, hhint'.trans hhint⟩

/-! ## Selections -/

/-- Marking an index marks it if it exists, and does nothing else. -/
theorem answer_setIndexEligible (connection : Connection) (index : String) (eligible : Bool) :
    let marked := (connection.answer (.setIndexEligible index eligible)).state
    marked.database = connection.database ∧ marked.scanFallback = connection.scanFallback ∧
      ∀ other, marked.mark? other =
        if other = index ∧ connection.database.hasIndexExactly index = true then some eligible
        else connection.mark? other := by
  intro marked
  by_cases hindex : connection.database.hasIndexExactly index = true
  · have hmarked : marked = connection.setMark index eligible := by
      simp only [marked, answer, hindex, if_true]
    rw [hmarked]
    refine ⟨rfl, rfl, fun other => ?_⟩
    rw [mark?_setMark]
    simp only [hindex, and_true]
  · have hmarked : marked = connection := by
      simp only [marked, answer, hindex]
      rfl
    rw [hmarked]
    refine ⟨rfl, rfl, fun other => ?_⟩
    simp only [hindex, Bool.false_eq_true, and_false, if_false]

/-- A selection forbids scans and marks the indexes of a table that exist. -/
theorem after_selection_eq (connection : Connection) (table : TableName)
    (selected : IndexOrder) :
    let after := connection.after (Configuration.selection table selected)
    after.database = connection.database ∧ after.scanFallback = false ∧
      ∀ order : IndexOrder, after.mark? (order.indexName table) =
        if connection.database.hasIndexExactly (order.indexName table) = true then
          some (selected.enables order)
        else connection.mark? (order.indexName table) := by
  obtain ⟨hdatabase, hscan, hmarks⟩ := answer_setIndexEligible
    (connection.answer (.setScanFallback false)).state (IndexOrder.valueFirst.indexName table)
    (selected.enables .valueFirst)
  obtain ⟨hdatabase', hscan', hmarks'⟩ := answer_setIndexEligible
    ((connection.answer (.setScanFallback false)).state.answer
      (.setIndexEligible (IndexOrder.valueFirst.indexName table)
        (selected.enables .valueFirst))).state
    (IndexOrder.pathFirst.indexName table) (selected.enables .pathFirst)
  refine ⟨hdatabase'.trans hdatabase, hscan'.trans hscan, fun order => (hmarks' _).trans ?_⟩
  cases order with
  | valueFirst =>
      rw [hmarks]
      simp only [indexName_inj, reduceCtorEq, false_and, if_false, true_and]
      rfl
  | pathFirst =>
      rw [hdatabase, hmarks]
      simp only [indexName_inj, reduceCtorEq, false_and, if_false, true_and]
      rfl

/-- After a selection queries force the selected index if it exists, as long as there
were only marks on indexes that exist. -/
theorem hint_after_selection {names : List TableName} (h : Orderly names connection)
    (table : TableName) (selected : IndexOrder) :
    (connection.after (Configuration.selection table selected)).hint table =
      if connection.database.hasIndexExactly (selected.indexName table) = true then
        some (selected.indexName table)
      else none := by
  obtain ⟨-, hscan, hmarks⟩ := after_selection_eq connection table selected
  have hother : (connection.after (Configuration.selection table selected)).mark?
      (selected.other.indexName table) ≠ some true := by
    rw [hmarks]
    split
    · cases selected <;> decide
    · rename_i hmissing
      intro hmark
      exact hmissing (h.marked _ (by rw [hmark]; rfl))
  split
  · rename_i hexists
    refine hint_eq_some_iff.mpr ⟨hscan, ?_, hother⟩
    rw [hmarks, if_pos hexists, IndexOrder.enables_iff.mpr rfl]
  -- a mark from earlier would be on an index that does not exist
  · rename_i hmissing
    refine hint_eq_none fun order => ?_
    by_cases horder : order = selected
    · rw [horder, hmarks, if_neg hmissing]
      intro hmark
      exact hmissing (h.marked _ (by rw [hmark]; rfl))
    · have hsame : order = selected.other := by
        cases order <;> cases selected <;> first | rfl | exact absurd rfl horder
      rw [hsame]
      exact hother

/-! ## Statements of queries -/

/-- A query that forces an index if some condition holds names it in its statement. -/
theorem matchText_of_hint_eq_ite {connection : Connection} {table : TableName} {index : String}
    {named : Prop} [Decidable named]
    (h : connection.hint table = if named then some index else none) (head : String) :
    connection.matchText head table = head ++ table.text ++
      (if named then " INDEXED BY " ++ index else "") ++ Statement.condition := by
  rw [matchText, h]
  by_cases hnamed : named
  · simp only [if_pos hnamed, Statement.queryTail, String.append_assoc]
  · simp only [if_neg hnamed, Statement.queryTail, String.append_assoc]

/-- A query that forces no index names none in its statement. -/
theorem unforced {connection : Connection} {table : TableName} (h : connection.hint table = none) :
    connection.hint table = none ∧
      ∀ head, connection.matchText head table = head ++ table.text ++ Statement.condition := by
  refine ⟨h, fun head => ?_⟩
  simp only [matchText, h, Statement.queryTail, String.append_empty, String.append_assoc]

/-! ## Released connections -/

/-- A request sets the scan switch or leaves it. -/
theorem scanFallback_answer (connection : Connection) {request : Request}
    (h : request ≠ .setScanFallback false) (hscan : connection.scanFallback = true) :
    (connection.answer request).state.scanFallback = true := by
  cases request with
  | setScanFallback enabled =>
      cases enabled with
      | true => rfl
      | false => exact absurd rfl h
  | setIndexEligible index eligible =>
      exact (answer_setIndexEligible connection index eligible).2.1.trans hscan
  | recreateTable table =>
      simp only [answer, recreate]
      split
      · exact hscan
      · rename_i dropped hdrop
        obtain ⟨-, rfl⟩ := drop_eq_ok hdrop
        split
        · exact hscan
        · exact hscan
  | insertRows table rows =>
      simp only [answer, insert]
      split <;> rename_i hinsert <;> split at hinsert <;> cases hinsert
      · exact hscan
      · exact hscan
  | createIndex table order =>
      simp only [answer, createIndex]
      split
      · exact hscan
      · exact hscan
  | _ => exact hscan

/-- As long as scans are not forbidden they stay allowed, and no index is forced. -/
theorem hint_after_eq_none (hscan : connection.scanFallback = true) {requests : List Request}
    (h : .setScanFallback false ∉ requests) (table : TableName) :
    (connection.after requests).hint table = none := by
  induction requests generalizing connection with
  | nil =>
      change connection.hint table = none
      rw [hint, hscan, if_pos rfl]
  | cons request requests ih =>
      rw [List.mem_cons, not_or] at h
      exact ih (scanFallback_answer connection (Ne.symm h.1) hscan) h.2

end Connection
end Store

/-! ## Encounters -/

/-- The request of an action, if it is one. -/
def Action.request? : Action → Option Request
  | .call request => some request
  | .measure request => some request
  | _ => none

/-- The requests that a script sends, each with the state that answers it. -/
def Script.encounters {σ α : Type} (env : Environment σ) :
    Script α → World σ → List (Request × σ)
  | done _, _ => []
  | step action next, world =>
      let performed := world.perform env action
      (action.request?.map fun request => (request, world.state)).toList ++
        (next performed.1).encounters env performed.2

/-- A script sends the request of its first action and then the rest. -/
theorem Script.requests_step {σ α : Type} (env : Environment σ) (action : Action)
    (next : action.Answer → Script α) (world : World σ) :
    (step action next).requests env world =
      action.request?.toList ++
        (next (world.perform env action).1).requests env (world.perform env action).2 := by
  cases action <;> rfl

namespace Machine

/-- A store answers a request with the machine that it is open on. -/
theorem link_answer {machine : Machine} {anchor : Anchor} {pages : Option Store.Pages}
    {connection : Store.Connection} (h : machine.link = some (.store anchor pages connection))
    (request : Request) :
    (machine.answer request).state.link =
      some (.store anchor pages (connection.answer request).state) := by
  cases anchor <;> simp [Machine.answer, h, keep, attach]

/-- An action that neither connects nor touches a file leads the open store to where its
request leads. -/
theorem link_perform {stopwatch : Nat → Nat} {world : World Machine} {anchor : Anchor}
    {pages : Option Store.Pages} {connection : Store.Connection}
    (h : world.state.link = some (.store anchor pages connection)) {action : Action}
    (hconnect : action.kind ≠ .connect) (hfile : action.kind ≠ .file) :
    (world.perform (environment stopwatch) action).2.state.link =
      some (.store anchor pages (connection.after action.request?.toList)) := by
  cases action with
  | call request => exact link_answer h request
  | measure request =>
      have hanswer := link_answer h request
      simp only [World.perform]
      split
      · exact hanswer
      · exact hanswer
  | write text => exact h
  | note event => exact h
  | connect address => exact absurd rfl hconnect
  | inspect path => exact absurd rfl hfile
  | save path bytes => exact absurd rfl hfile

/-- Whether a machine has an open store on which no query forces an index before scans are
forbidden again, nor names one in its statement. -/
def Released (machine : Machine) : Prop :=
  ∃ anchor pages connection, machine.link = some (.store anchor pages connection) ∧
    ∀ later : List Request, .setScanFallback false ∉ later →
      ∀ table : TableName, (connection.after later).hint table = none ∧
        ∀ head, (connection.after later).matchText head table =
          head ++ table.text ++ Store.Statement.condition

section Stored

variable {α : Type} {kinds : List Action.Kind} {script : Script α}
  (huses : script.Uses kinds) (hconnect : .connect ∉ kinds) (hfile : .file ∉ kinds)
  {stopwatch : Nat → Nat} {world : World Machine} {anchor : Anchor}
  {pages : Option Store.Pages} {connection : Store.Connection}
  (h : world.state.link = some (.store anchor pages connection))
include huses hconnect hfile h

/-- A script that neither connects nor touches a file meets the connections that its
requests lead to. -/
theorem encounters_eq :
    (script.encounters (environment stopwatch) world).map
        (fun encounter => (encounter.1, encounter.2.link)) =
        (connection.meets (script.requests (environment stopwatch) world)).map
          (fun met => (met.1, some (.store anchor pages met.2))) ∧
      (script.run (environment stopwatch) world).2.state.link =
        some (.store anchor pages
          (connection.after (script.requests (environment stopwatch) world))) := by
  induction script generalizing world connection with
  | done value => exact ⟨rfl, h⟩
  | step action next ih =>
      have hnotConnect : action.kind ≠ .connect := fun hkind => hconnect (hkind ▸ huses.1)
      have hnotFile : action.kind ≠ .file := fun hkind => hfile (hkind ▸ huses.1)
      obtain ⟨hlater, hlast⟩ := ih (world.perform (environment stopwatch) action).1
        (huses.2 _) (link_perform h hnotConnect hnotFile)
      rw [requests_step, Store.Connection.meets_append, Store.Connection.after_append,
        List.map_append, ← hlater]
      refine ⟨?_, hlast⟩
      rw [encounters, List.map_append]
      refine congrArg (· ++ _) ?_
      cases action with
      | call request => exact congrArg (fun link => [(request, link)]) h
      | measure request => exact congrArg (fun link => [(request, link)]) h
      | _ => rfl

/-- A request of such a script is answered by a connection that its requests lead to. -/
theorem exists_meets {encounter : Request × Machine}
    (hencounter : encounter ∈ script.encounters (environment stopwatch) world) :
    ∃ met, (encounter.1, met) ∈
        connection.meets (script.requests (environment stopwatch) world) ∧
      encounter.2.link = some (.store anchor pages met) := by
  have hmem :=
    List.mem_map_of_mem (f := fun encounter => (encounter.1, encounter.2.link)) hencounter
  rw [(encounters_eq huses hconnect hfile h).1] at hmem
  obtain ⟨⟨request, met⟩, hmet, hsame⟩ := List.mem_map.mp hmem
  obtain ⟨rfl, hlinked⟩ := Prod.mk.inj hsame
  exact ⟨met, hmet, hlinked.symm⟩

/-- A script that ends with a restoration and lookups releases the open store. -/
theorem released_of_requests (before : List Request) (table : TableName) (looked : List Request)
    (hrequests : script.requests (environment stopwatch) world =
      before ++ Configuration.restoration table ++ looked)
    (hlooked : ∀ request ∈ looked, request ∈ Configuration.lookups table) :
    (script.run (environment stopwatch) world).2.state.Released := by
  obtain ⟨-, hlast⟩ := encounters_eq huses hconnect hfile h
  refine ⟨anchor, pages, _, hlast, fun later hlater table' => ?_⟩
  rw [hrequests, Store.Connection.after_append, Store.Connection.after_append,
    ← Store.Connection.after_append looked]
  apply Store.Connection.unforced
  refine Store.Connection.hint_after_eq_none rfl ?_ table'
  rw [List.mem_append, not_or]
  refine ⟨fun hforbidden => ?_, hlater⟩
  have hlookup := hlooked _ hforbidden
  simp [Configuration.lookups] at hlookup

end Stored
end Machine

/-! ## Sessions -/

namespace Configuration

/-- A reset restores and looks up what it leaves, as far as the console lets it. -/
theorem requests_reset (engine : EngineKind) (table : TableName) {σ : Type}
    (env : Environment σ) (world : World σ) :
    ∃ looked, looked <+: lookups table ∧
      (reset engine table).run.requests env world = restoration table ++ looked := by
  refine ⟨_, (report_sends table σ env ((restore engine table).run env world).2).1, ?_⟩
  rw [reset, Printing.run_lift_bind, requests_bind, (restore_sends engine table).requests_eq]

section Ended

variable {engine : EngineKind} {table : TableName} {stopwatch : Nat → Nat}
  {world : World Machine} {anchor : Anchor} {pages : Option Store.Pages}
  {connection : Store.Connection}
  (h : world.state.link = some (.store anchor pages connection))
include h

/-- An abandoned session releases the open store. -/
theorem abandon_released :
    ((abandon engine table).run (Machine.environment stopwatch) world).2.state.Released := by
  have hrequests := (abandon_sends engine table).requests_eq (Machine.environment stopwatch) world
  refine Machine.released_of_requests (abandon_uses engine table) (by decide) (by decide) h
    [] table [] ?_ (List.forall_mem_nil _)
  rw [hrequests, List.nil_append, List.append_nil]

/-- A session that is reset releases the open store, also if the console ends its report. -/
theorem reset_released :
    ((reset engine table).run.run (Machine.environment stopwatch) world).2.state.Released := by
  obtain ⟨looked, hlooked, hsent⟩ :=
    requests_reset engine table (Machine.environment stopwatch) world
  refine Machine.released_of_requests (reset_uses engine table) (by decide) (by decide) h [] table
    looked ?_ fun request hrequest => hlooked.subset hrequest
  rw [hsent, List.nil_append]

end Ended
end Configuration

namespace Series

/-- Over a store that requests have led to, about tables whose names do not differ only in
case, every query of a run forces the selected index if it exists and no index otherwise, and
so says its statement, whatever was selected before and however the console ends the run.  A
session that has ended, at the end of a run, by a reset or abandoned, leaves no index forced until
scans are forbidden again. -/
theorem runOn_selected {history : List Request}
    (hnames : Store.CaseDistinct (history.filterMap Request.table?))
    (refusal : Option StoreFault) (series : Series) (engine : EngineKind)
    (stopwatch : Nat → Nat) {world : World Machine} {anchor : Anchor}
    {pages : Option Store.Pages}
    (hlink : world.state.link =
      some (.store anchor pages ((Store.Connection.opened .empty refusal).after history))) :
    let env := Machine.environment stopwatch
    let database := ((Store.Connection.opened .empty refusal).after history).database
    let index := series.plan.selected.indexName series.plan.table
    (∀ encounter ∈ (series.runOn engine).encounters env world, encounter.1.isQuery = true →
      encounter.1 ∈ series.plan.queries ∧
      ∃ connection, encounter.2.link = some (.store anchor pages connection) ∧
        connection.database = database ∧
        connection.hint series.plan.table =
          (if database.hasIndexExactly index = true then some index else none) ∧
        ∀ head, connection.matchText head series.plan.table =
          head ++ series.plan.table.text ++
            (if database.hasIndexExactly index = true then " INDEXED BY " ++ index else "") ++
            Store.Statement.condition) ∧
      ((series.runOn engine).run env world).2.state.Released ∧
      ∀ (other : World Machine) anchor pages connection,
        other.state.link = some (.store anchor pages connection) → ∀ engine table,
          ((Configuration.abandon engine table).run env other).2.state.Released ∧
            ((Configuration.reset engine table).run.run env other).2.state.Released := by
  intro env database index
  obtain ⟨asked, looked, hsent, hasked, hlooked⟩ :=
    (Plan.requests_runOn env series.plan engine world).parts
  have huses : (series.runOn engine).Uses [.call, .measure, .write, .note, .abandonment] :=
    (series.plan.runOn_uses engine).bind fun _ => .pure _
  rw [← series.requests_runOn] at hsent
  refine ⟨fun encounter hencounter hquery => ?_, ?_, fun other anchor pages connection h engine
    table => ⟨Configuration.abandon_released h, Configuration.reset_released h⟩⟩
  · obtain ⟨met, hmet, hmetLink⟩ :=
      Machine.exists_meets huses (by decide) (by decide) hlink hencounter
    obtain ⟨hselected, -⟩ := Store.Connection.after_selection_eq
      ((Store.Connection.opened .empty refusal).after history) series.plan.table
      series.plan.selected
    have horderly := Store.Connection.orderly_after refusal hnames
    rw [hsent] at hmet
    simp only [Store.Connection.meets_append, List.mem_append] at hmet
    -- only what is asked between selection and restoration are queries
    rcases hmet with ((hmet | hmet) | hmet) | hmet
    · rw [Configuration.isQuery_of_mem_selection
        (Store.Connection.fst_mem_of_mem_meets hmet)] at hquery
      cases hquery
    · obtain ⟨hdatabase, hhint⟩ :=
        Store.Connection.meets_of_asks (fun request h => (hasked request h).1) hmet
      have hforced := (congrFun hhint series.plan.table).trans
        (Store.Connection.hint_after_selection horderly series.plan.table series.plan.selected)
      exact ⟨(hasked _ (Store.Connection.fst_mem_of_mem_meets hmet)).2 hquery, met, hmetLink,
        hdatabase.trans hselected, hforced, Store.Connection.matchText_of_hint_eq_ite hforced⟩
    · rw [Configuration.isQuery_of_mem_restoration
        (Store.Connection.fst_mem_of_mem_meets hmet)] at hquery
      cases hquery
    · have hlookup := hlooked _ (Store.Connection.fst_mem_of_mem_meets hmet)
      rw [(Configuration.asks_of_mem_lookups hlookup).2] at hquery
      cases hquery
  · exact Machine.released_of_requests huses (by decide) (by decide) hlink _ _ _ hsent hlooked

/-- A run that selects the only index of a table forces it. -/
theorem runOn_selected_pathFirst :
    let records : TableName := ⟨"records", rfl⟩
    let history : List Request := [.recreateTable records, .createIndex records .pathFirst]
    let connection := (Store.Connection.opened .empty none).after history
    let world := World.fresh
      (⟨.empty [], .unreachable, some (.store .hidden none connection)⟩ : Machine) .unlimited
    let series := Series.unrun ⟨[⟨"a", 0, 4⟩], records, .pathFirst, .count, 2, true⟩
    (∀ encounter ∈ (series.runOn .embedded).encounters (Machine.environment fun _ => 5) world,
      encounter.1.isQuery = true → ∃ met, encounter.2.link = some (.store .hidden none met) ∧
        met.hint records = some "records_idx_pv" ∧
        met.matchText Store.Statement.countHead records = "SELECT COUNT(*) FROM records" ++
          " INDEXED BY records_idx_pv WHERE kpath REGEXP ?1 AND kvalue BETWEEN ?2 AND ?3") ∧
      ((series.runOn .embedded).run (Machine.environment fun _ => 5) world).2.state.Released := by
  intro records history connection world series
  have hnames : Store.CaseDistinct (history.filterMap Request.table?) := by decide
  have hexists : ((Store.Connection.opened .empty none).after
      [.recreateTable ⟨"records", rfl⟩, .createIndex ⟨"records", rfl⟩ .pathFirst]
        ).database.hasIndexExactly "records_idx_pv" = true := by decide +kernel
  have hindex : series.plan.selected.indexName series.plan.table = "records_idx_pv" := by decide
  have hlink : world.state.link = some (.store .hidden none connection) := rfl
  have hselected := runOn_selected hnames none series .embedded (fun _ => 5) hlink
  simp only [hindex] at hselected
  obtain ⟨hqueries, hreleased, -⟩ := hselected
  refine ⟨fun encounter hencounter hquery => ?_, hreleased⟩
  obtain ⟨-, met, hmetLink, -, hhint, htext⟩ := hqueries encounter hencounter hquery
  rw [if_pos hexists] at hhint
  refine ⟨met, hmetLink, hhint, (htext Store.Statement.countHead).trans ?_⟩
  rw [if_pos hexists]
  rfl

end Series
end IndexBench
