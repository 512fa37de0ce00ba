import IndexBench.Proofs.Store.Selection
import Mathlib.Data.List.Basic

/-!
# What a session leaves

However a session on a table ends, it leaves scans allowed and the indexes of this table
eligible, as far as they exist, and nothing else is changed by it: no row, no index and no
mark of an index of another table.

Main definitions:

- `Configuration.session` is a session in which a script asks, and `Configuration.Ending`
  how it ends.
- `Script.Inquires` says that a script asks an engine nothing but queries.
- `Connection.settled` is a connection after a session, and `Connection.Settles` says how it
  compares with the one before.

Main results:

- Theorem `IndexOrder.indexName_eq_iff`: indexes of different tables have different names.
- Theorem `Connection.after_bracket`: what a selection, queries and a restoration lead to.
- Theorem `Configuration.session_settles`: a session leads to a settled connection, whether
  it is reset, dropped, or not even reported.
-/

namespace IndexBench

open Script

/-! ## Names of indexes -/

/-- Indexes have the same name only if they are of the same order and on the same table. -/
theorem IndexOrder.indexName_eq_iff {order other : IndexOrder} {table owner : TableName} :
    order.indexName table = other.indexName owner ↔ order = other ∧ table = owner := by
  constructor
  · intro h
    have hsame : Store.sameName (order.indexName table) (other.indexName owner) = true := by
      rw [h, Store.sameName_refl]
    obtain ⟨-, rfl⟩ := Store.sameName_indexName_iff.mp hsame
    simp only [indexName, String.append_assoc, String.append_left_inj] at h
    cases table
    cases owner
    cases h
    exact ⟨rfl, rfl⟩
  · rintro ⟨rfl, rfl⟩
    rfl

namespace Store
namespace Connection

variable {connection : Connection} {table : TableName} {requests : List Request}

/-! ## Uses of tables -/

/-- A connection after uses of tables. -/
def noteUses (connection : Connection) (tables : List TableName) : Connection :=
  { connection with
    usedSettings := tables.foldl (fun used table => BuiltIn.remember used table.text)
      connection.usedSettings }

/-- Uses of tables one after the other are noted in a row. -/
theorem noteUses_append (tables others : List TableName) :
    connection.noteUses (tables ++ others) = (connection.noteUses tables).noteUses others := by
  simp only [noteUses, List.foldl_append]

/-- Only uses of tables of settings are kept. -/
theorem noteUses_eq_self {tables : List TableName}
    (h : ∀ used ∈ tables, BuiltIn.isSetting used.text = false) :
    connection.noteUses tables = connection := by
  induction tables with
  | nil => rfl
  | cons used tables ih =>
      obtain ⟨hfirst, hlater⟩ := List.forall_mem_cons.mp h
      have hkept : connection.noteUses [used] = connection := by
        simp [noteUses, BuiltIn.remember, hfirst]
      rw [← List.singleton_append, noteUses_append, hkept, ih hlater]

/-- Requests that ask note the uses of their tables and do nothing else. -/
theorem after_of_asks (h : ∀ request ∈ requests, request.asks = true) :
    connection.after requests = connection.noteUses (requests.filterMap Request.table?) := by
  induction requests generalizing connection with
  | nil => rfl
  | cons request requests ih =>
      obtain ⟨hfirst, hlater⟩ := List.forall_mem_cons.mp h
      have hrequest : (connection.answer request).state =
          connection.noteUses request.table?.toList := by
        cases request <;> first | rfl | cases hfirst
      calc connection.after (request :: requests)
        _ = (connection.answer request).state.after requests := rfl
        _ = (connection.noteUses request.table?.toList).noteUses
              (requests.filterMap Request.table?) := by rw [ih hlater, hrequest]
        _ = connection.noteUses ((request :: requests).filterMap Request.table?) := by
            rw [← noteUses_append]
            cases request <;> rfl

/-! ## Marks put again -/

/-- Entries of marks after a request to mark an index, which puts a mark if the index exists. -/
def markIn (database : Database) (index : String) (eligible : Bool)
    (entries : List (String × Bool)) : List (String × Bool) :=
  if database.hasIndexExactly index then
    (index, eligible) :: entries.filter fun entry => entry.1 != index
  else entries

/-- A request to mark an index changes the entries of marks only. -/
theorem state_setIndexEligible (connection : Connection) (index : String) (eligible : Bool) :
    (connection.answer (.setIndexEligible index eligible)).state =
      { connection with
        eligibility := markIn connection.database index eligible connection.eligibility } := by
  simp only [answer, markIn]
  split
  · rfl
  · rfl

section Entries

variable (database : Database) (index other : String) (eligible last : Bool)
  (entries : List (String × Bool))

/-- The mark of an index changes if it is put on this index and the index exists. -/
theorem lookup_markIn :
    (markIn database index eligible entries).lookup other =
      if other = index ∧ database.hasIndexExactly index = true then some eligible
      else entries.lookup other := by
  unfold markIn
  by_cases hindex : database.hasIndexExactly index = true
  · by_cases hother : other = index
    · simp [hindex, hother]
    · rw [if_pos hindex, if_neg fun h => hother h.1, List.lookup_cons,
        beq_eq_false_iff_ne.mpr hother]
      exact lookup_filter_ne hother entries
  · rw [if_neg hindex, if_neg fun h => hindex h.2]

/-- The last mark of an index counts. -/
theorem markIn_self :
    markIn database index last (markIn database index eligible entries) =
      markIn database index last entries := by
  unfold markIn
  split
  · simp [List.filter_filter]
  · rfl

/-- The last mark of an index counts, also if another was marked between. -/
theorem markIn_between (between : Bool) :
    markIn database index last
        (markIn database other between (markIn database index eligible entries)) =
      markIn database index last (markIn database other between entries) := by
  have hdropped : (((index, eligible) :: entries.filter fun entry => entry.1 != index).filter
      fun entry => entry.1 != index) = entries.filter fun entry => entry.1 != index := by
    simp [List.filter_filter]
  have hfilter : ((((index, eligible) :: entries.filter fun entry => entry.1 != index).filter
      fun entry => entry.1 != other).filter fun entry => entry.1 != index) =
        (entries.filter fun entry => entry.1 != other).filter fun entry => entry.1 != index := by
    rw [List.filter_comm, hdropped, List.filter_comm]
  unfold markIn
  split
  · split
    · simp only [List.filter_cons (x := (other, between)), hfilter]
    · rw [hdropped]
  · rfl

end Entries

/-! ## Settled connections -/

/-- A connection with scans allowed and both indexes of a table marked eligible, as far as they
exist. -/
def settled (connection : Connection) (table : TableName) : Connection :=
  { connection with
    scanFallback := true
    eligibility := markIn connection.database (IndexOrder.valueFirst.indexName table) true
      (markIn connection.database (IndexOrder.pathFirst.indexName table) true
        connection.eligibility) }

/-- A restoration settles a connection, whatever tables were used. -/
theorem after_restoration (tables : List TableName) :
    (connection.noteUses tables).after (Configuration.restoration table) =
      (connection.settled table).noteUses tables := by
  simp only [after, Configuration.restoration, List.foldl_cons, List.foldl_nil,
    state_setIndexEligible]
  rfl

/-- What a selection has marked is marked again when the connection is settled. -/
theorem settled_after_selection (selected : IndexOrder) :
    (connection.after (Configuration.selection table selected)).settled table =
      connection.settled table := by
  have hforbidden : (connection.answer (.setScanFallback false)).state =
      { connection with scanFallback := false } := rfl
  simp only [after, Configuration.selection, List.foldl_cons, List.foldl_nil,
    state_setIndexEligible, hforbidden, settled, markIn_self, markIn_between]

/-- Whether connections differ in that scans are allowed and the indexes of a table that
exist are eligible, and in no other switch, mark, row or index. -/
structure Settles (table : TableName) (before after : Connection) : Prop where
  database_eq : after.database = before.database
  refusal_eq : after.refusal = before.refusal
  scanFallback_eq : after.scanFallback = true
  eligible : ∀ order : IndexOrder,
    before.database.hasIndexExactly (order.indexName table) = true →
      after.mark? (order.indexName table) = some true
  mark?_eq : ∀ index, (∀ order : IndexOrder,
      before.database.hasIndexExactly (order.indexName table) = true →
        index ≠ order.indexName table) →
    after.mark? index = before.mark? index

/-- The marks of the indexes of other tables stay. -/
theorem Settles.mark?_other {before after : Connection} (h : Settles table before after)
    {other : TableName} (hother : other ≠ table) (order : IndexOrder) :
    after.mark? (order.indexName other) = before.mark? (order.indexName other) :=
  h.mark?_eq _ fun _ _ hname => hother (IndexOrder.indexName_eq_iff.mp hname).2

/-- A settled connection compares with the one before like that, whatever tables were used. -/
theorem settles_settled (connection : Connection) (table : TableName)
    (tables : List TableName) :
    Settles table connection ((connection.settled table).noteUses tables) := by
  have hmarks (index : String) : ((connection.settled table).noteUses tables).mark? index =
      if index = IndexOrder.valueFirst.indexName table ∧
          connection.database.hasIndexExactly (IndexOrder.valueFirst.indexName table) = true then
        some true
      else if index = IndexOrder.pathFirst.indexName table ∧
          connection.database.hasIndexExactly (IndexOrder.pathFirst.indexName table) = true then
        some true
      else connection.mark? index := by
    simp only [mark?, noteUses, settled, lookup_markIn]
  refine ⟨rfl, rfl, rfl, fun order horder => ?_, fun index hindex => ?_⟩
  · rw [hmarks]
    cases order with
    | valueFirst => rw [if_pos ⟨rfl, horder⟩]
    | pathFirst =>
        rw [if_neg fun h => absurd (indexName_inj.mp h.1) (by decide), if_pos ⟨rfl, horder⟩]
  · rw [hmarks, if_neg fun h => hindex .valueFirst h.2 h.1,
      if_neg fun h => hindex .pathFirst h.2 h.1]

/-- A selection, requests that ask, a restoration and requests that ask lead to the settled
connection. -/
theorem after_bracket {sent asked looked : List Request} {selected : IndexOrder}
    (hsent : sent = Configuration.selection table selected ++ asked ++
      Configuration.restoration table ++ looked)
    (hasked : ∀ request ∈ asked, request.asks = true)
    (hlooked : ∀ request ∈ looked, request.asks = true) :
    connection.after sent =
      (connection.settled table).noteUses (sent.filterMap Request.table?) := by
  have hselection : (Configuration.selection table selected).filterMap Request.table? = [] := rfl
  have hrestoration : (Configuration.restoration table).filterMap Request.table? = [] := rfl
  rw [hsent, after_append, after_append, after_append, after_of_asks hasked, after_restoration,
    settled_after_selection, after_of_asks hlooked, ← noteUses_append]
  simp only [List.filterMap_append, hselection, hrestoration, List.nil_append, List.append_nil]

end Connection
end Store

/-! ## Scripts that ask queries -/

/-- Whether a script asks an engine nothing but queries, with notes and writes between them,
whatever it is answered. -/
structure Script.Inquires {α : Type} (script : Script α) : Prop where
  uses : script.Uses [.call, .measure, .write, .note]
  isQuery : ∀ {σ : Type} (env : Environment σ) (world : World σ),
    ∀ request ∈ script.requests env world, request.isQuery = true

namespace Script.Inquires

variable {α β : Type}

/-- A value asks nothing. -/
theorem pure (value : α) : (Pure.pure value : Script α).Inquires where
  uses := .pure value
  isQuery _ _ := List.forall_mem_nil _

/-- Scripts in a row ask queries if each of them does. -/
theorem bind {script : Script α} {f : α → Script β} (h : script.Inquires)
    (hf : ∀ value, (f value).Inquires) : (script >>= f).Inquires where
  uses := h.uses.bind fun value => (hf value).uses
  isQuery env world request hrequest := by
    rw [requests_bind] at hrequest
    rcases List.mem_append.mp hrequest with hfirst | hlater
    · exact h.isQuery env world request hfirst
    · exact (hf _).isQuery env _ request hlater

/-- A query may be asked. -/
theorem call {request : Request} (h : request.isQuery = true) :
    (Script.call request).Inquires where
  uses := .perform .call rfl (by decide)
  isQuery _ _ := List.forall_mem_singleton.mpr h

/-- Queries may be asked one after the other, whether or not they fail. -/
theorem forM_call {queries : List Request} (h : ∀ request ∈ queries, request.isQuery = true) :
    (queries.forM fun request => do let _ ← Script.call request).Inquires := by
  induction queries with
  | nil => exact .pure ()
  | cons request queries ih =>
      obtain ⟨hfirst, hlater⟩ := List.forall_mem_cons.mp h
      exact ((call hfirst).bind fun _ => .pure ()).bind fun _ => ih hlater

/-- Queries ask, and so change nothing. -/
theorem asks {script : Script α} (h : script.Inquires) {σ : Type} (env : Environment σ)
    (world : World σ) : ∀ request ∈ script.requests env world, request.asks = true :=
  fun request hrequest => Request.asks_of_isQuery (h.isQuery env world request hrequest)

/-- A script that asks queries leaves a store as it is, apart from the uses of its tables. -/
theorem link_run {script : Script α} (h : script.Inquires) (stopwatch : Nat → Nat)
    {world : World Machine} {anchor : Anchor} {pages : Option Store.Pages}
    {connection : Store.Connection}
    (hlink : world.state.link = some (.store anchor pages connection)) :
    ∃ tables, (script.run (Machine.environment stopwatch) world).2.state.link =
      some (.store anchor pages (connection.noteUses tables)) := by
  have hlast : (script.run (Machine.environment stopwatch) world).2.state.link =
      some (.store anchor pages
        (connection.after (script.requests (Machine.environment stopwatch) world))) :=
    (Machine.encounters_eq h.uses (by decide) (by decide) hlink).2
  rw [Store.Connection.after_of_asks (h.asks _ world)] at hlast
  exact ⟨_, hlast⟩

end Script.Inquires

/-- Between its beginning and its end a session of a run asks queries. -/
theorem Plan.inquires_body (plan : Plan) : plan.body.Inquires where
  uses := plan.body_uses.mono (by decide)
  isQuery env world request hrequest :=
    isQuery_of_mem_queries ((plan.body_sends _ env world).1.subset hrequest)

/-! ## Sessions -/

namespace Configuration

/-- How a session ends. -/
inductive Ending where
  /-- By a reset, which is reported. -/
  | reset
  /-- It is dropped, and not reported. -/
  | dropped
  deriving DecidableEq, Repr

/-- A session in which a script asks.  If its beginning cannot be reported it has ended there;
else it ends as the value of the script says. -/
def session {α : Type} (engine : EngineKind) (table : TableName) (selected : IndexOrder)
    (inner : Script α) (ending : α → Ending) : Printing α := do
  configure engine table selected
  let value ← inner
  match ending value with
  | .reset => reset engine table
  | .dropped => abandon engine table
  return value

/-- Lookups ask, and use no table. -/
theorem asks_of_lookups {table : TableName} {looked : List Request}
    (h : ∀ request ∈ looked, request ∈ lookups table) :
    looked.filterMap Request.table? = [] ∧ ∀ request ∈ looked, request.asks = true := by
  refine ⟨List.filterMap_eq_nil_iff.mpr fun request hrequest => ?_, fun request hrequest =>
    (asks_of_mem_lookups (h request hrequest)).1⟩
  have hmem := h request hrequest
  simp only [lookups, List.mem_cons, List.not_mem_nil, or_false] at hmem
  rcases hmem with rfl | rfl | rfl <;> rfl

section Session

variable {α : Type} (engine : EngineKind) (table : TableName) (selected : IndexOrder)
  {inner : Script α} (hinner : inner.Inquires)
include hinner

/-- A session neither connects nor touches a file. -/
theorem session_uses (ending : α → Ending) :
    (session engine table selected inner ending).run.Uses
      [.call, .measure, .write, .note, .abandonment] := by
  refine Uses.bind_except ((configure_uses engine table selected).mono (by decide)) fun _ =>
    Uses.bind_except (Uses.lift_except (hinner.uses.mono (by decide))) fun value => ?_
  cases ending value with
  | reset =>
      exact Uses.bind_except ((reset_uses engine table).mono (by decide)) fun _ => .pure _
  | dropped =>
      exact Uses.bind_except
        (Uses.lift_except ((abandon_uses engine table).mono (by decide))) fun _ => .pure _

/-- A session asks the same queries however it ends: between a selection and a restoration,
with lookups around them. -/
theorem requests_session {σ : Type} (env : Environment σ) (world : World σ) :
    ∃ queries : List Request, (∀ request ∈ queries, request.isQuery = true) ∧
      ∀ ending : α → Ending, ∃ before behind,
        (∀ request ∈ before, request ∈ lookups table) ∧
        (∀ request ∈ behind, request ∈ lookups table) ∧
        (session engine table selected inner ending).run.requests env world =
          selection table selected ++ (before ++ queries) ++ restoration table ++ behind := by
  rcases configure_cases env engine table selected world with
    ⟨hresult, hsent⟩ | ⟨fault, looked, hresult, hlooked, hsent⟩
  · refine ⟨inner.requests env _, hinner.isQuery env
      ((configure engine table selected).run.run env world).2, fun ending => ?_⟩
    rw [session, ExceptT.run_bind, requests_bind, hresult, hsent]
    generalize ((configure engine table selected).run.run env world).2 = world
    simp only [Printing.run_lift_bind, requests_bind]
    cases ending (inner.run env world).1 with
    | reset =>
        obtain ⟨behind, hbehind, hreset⟩ :=
          requests_reset engine table env (inner.run env world).2
        refine ⟨lookups table, behind, fun _ h => h, fun _ h => hbehind.subset h, ?_⟩
        have hvalue (value : α) : (reset engine table >>= fun _ => Pure.pure value).run.requests
            env (inner.run env world).2 = restoration table ++ behind := by
          rw [ExceptT.run_bind, requests_bind, hreset]
          cases ((reset engine table).run.run env (inner.run env world).2).1 <;>
            exact List.append_nil _
        rw [hvalue]
        simp only [List.append_assoc]
    | dropped =>
        refine ⟨lookups table, [], fun _ h => h, List.forall_mem_nil _, ?_⟩
        rw [Printing.run_lift_bind, requests_bind, (abandon_sends engine table).requests_eq]
        simp
  · refine ⟨[], List.forall_mem_nil _, fun ending => ⟨looked, [],
      fun request hrequest => hlooked.subset hrequest, List.forall_mem_nil _, ?_⟩⟩
    rw [session, ExceptT.run_bind, requests_bind, hresult, hsent, List.append_nil,
      List.append_nil]
    exact List.append_nil _

/-- A session on a store in which a script asks queries leads to the settled connection,
whatever the console takes, whether the session is reset, dropped or cannot be reported, and
whether or not queries fail.  Scans are allowed there and the indexes of the table that exist
are eligible; no row, no index and no other mark has changed, so no mark of an index of
another table.  If a table of settings was asked, the store keeps its name besides. -/
theorem session_settles (stopwatch : Nat → Nat) {world : World Machine} {anchor : Anchor}
    {pages : Option Store.Pages} {connection : Store.Connection}
    (hlink : world.state.link = some (.store anchor pages connection)) :
    let env := Machine.environment stopwatch
    ∃ tables : List TableName,
      let settled := (connection.settled table).noteUses tables
      (∀ ending : α → Ending,
        ((session engine table selected inner ending).run.requests env world).filterMap
          Request.table? = tables ∧
        ((session engine table selected inner ending).run.run env world).2.state.link =
          some (.store anchor pages settled)) ∧
      connection.Settles table settled ∧
      (∀ other, other ≠ table → ∀ order : IndexOrder,
        settled.mark? (order.indexName other) = connection.mark? (order.indexName other)) ∧
      ((∀ used ∈ tables, Store.BuiltIn.isSetting used.text = false) →
        settled.usedSettings = connection.usedSettings) := by
  intro env
  obtain ⟨queries, hqueries, hrequests⟩ :=
    requests_session engine table selected hinner env world
  have hsettles := Store.Connection.settles_settled connection table
    (queries.filterMap Request.table?)
  refine ⟨queries.filterMap Request.table?, fun ending => ?_, hsettles,
    fun other => hsettles.mark?_other, fun hused => by
      rw [Store.Connection.noteUses_eq_self hused]
      rfl⟩
  obtain ⟨before, behind, hbefore, hbehind, hsent⟩ := hrequests ending
  obtain ⟨hnone, hasksBefore⟩ := asks_of_lookups hbefore
  obtain ⟨hnone', hasksBehind⟩ := asks_of_lookups hbehind
  have hasked : ∀ request ∈ before ++ queries, request.asks = true :=
    List.forall_mem_append.mpr ⟨hasksBefore, fun request hrequest =>
      Request.asks_of_isQuery (hqueries request hrequest)⟩
  have htables : ((session engine table selected inner ending).run.requests env world).filterMap
      Request.table? = queries.filterMap Request.table? := by
    have hselection : (selection table selected).filterMap Request.table? = [] := rfl
    have hrestoration : (restoration table).filterMap Request.table? = [] := rfl
    simp only [hsent, List.filterMap_append, hselection, hrestoration, hnone, hnone',
      List.nil_append, List.append_nil]
  obtain ⟨-, hlast⟩ := Machine.encounters_eq
    (session_uses engine table selected hinner ending) (by decide) (by decide) hlink
  rw [Store.Connection.after_bracket hsent hasked hasksBehind, htables] at hlast
  exact ⟨htables, hlast⟩

end Session

/-- A session on a table with one of the indexes, in which a query fails and whose reset does
not fit the console, leaves the other table as it was. -/
theorem session_settles_interrupted :
    let records : TableName := ⟨"records", rfl⟩
    let archive : TableName := ⟨"archive", rfl⟩
    let history : List Request :=
      [ .recreateTable records, .insertRows records [⟨"/a", 1, ""⟩],
        .createIndex records .pathFirst, .recreateTable archive,
        .createIndex archive .valueFirst, .setIndexEligible "archive_idx_vp" false ]
    let connection := (Store.Connection.opened .empty none).after history
    let world := World.fresh
      (⟨.empty [], .unreachable, some (.store .hidden none connection)⟩ : Machine)
      (.limited (some 80))
    let inner : Script PUnit := [.countMatches records ⟨"(", 0, 9⟩,
      .enumerateMatches records ⟨"^", 0, 9⟩].forM fun request => do let _ ← call request
    ∃ ended : Store.Connection,
      ((session .embedded records .valueFirst inner fun _ => .reset).run.run
        (Machine.environment fun _ => 5) world).2.state.link = some (.store .hidden none ended) ∧
      ((session .embedded records .valueFirst inner fun _ => .dropped).run.run
        (Machine.environment fun _ => 5) world).2.state.link = some (.store .hidden none ended) ∧
      ended.scanFallback = true ∧ ended.mark? "records_idx_pv" = some true ∧
        ended.mark? "records_idx_vp" = none ∧ ended.mark? "archive_idx_vp" = some false := by
  intro records archive history connection world inner
  have hinner : inner.Inquires := .forM_call (by decide)
  have hlink : world.state.link = some (.store .hidden none connection) := rfl
  have hconnection : connection = ⟨⟨[
      ⟨"records", [⟨"/a", 1, ""⟩], [⟨"records_idx_pv", .pathFirst⟩]⟩,
      ⟨"archive", [], [⟨"archive_idx_vp", .valueFirst⟩]⟩]⟩,
      none, true, [("archive_idx_vp", false)], []⟩ := by
    decide
  obtain ⟨tables, hended, hsettles, hother, -⟩ :=
    session_settles .embedded records .valueFirst hinner (fun _ => 5) hlink
  refine ⟨_, (hended fun _ => .reset).2, (hended fun _ => .dropped).2, hsettles.scanFallback_eq,
    ?_, ?_, ?_⟩
  · exact hsettles.eligible .pathFirst (by rw [hconnection]; decide)
  · refine (hsettles.mark?_eq "records_idx_vp" fun order horder hname => ?_).trans
      (by rw [hconnection]; decide)
    cases order with
    | valueFirst =>
        rw [hconnection] at horder
        exact absurd horder (by decide)
    | pathFirst => exact absurd hname (by decide)
  · exact (hother archive (by decide) .valueFirst).trans (by rw [hconnection]; decide)

end Configuration
end IndexBench
