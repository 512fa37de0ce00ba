import IndexBench.Proofs.Loading.Result
import IndexBench.Proofs.Run.Trace
import IndexBench.Summary

/-!
# The requests of a load

Whatever the engine answers, a load sends its requests in a fixed order: the table is created
anew, the rows are inserted in whole batches, the indexes are built.  The first request that
fails is the last that is sent, and its failure is that of the load.  A record that is no row
ends the load before the batch that it stands in, and a size of the batches that no buffer has
room for ends it before the first one.

Main definitions:

- `Sent` says how requests that are due go until one of them fails.
- `Fallible.Follows` says which requests a script is due to send and what it comes to.
- `Loading.Due` says which requests a load is due to send.

Main results:

- Theorem `Loading.prepareTable_until_failure`: the requests of a load over any engine, and what
  the load comes to.
-/

namespace IndexBench

/-! ## Requests until one fails -/

/-- How requests that are due go: each is sent in its turn, until all are or one of them fails. -/
inductive Sent : List Request → List Call → Option Failure → Prop
  | all : Sent [] [] none
  | failed (request : Request) (later : List Request) (failure : Failure) :
      Sent (request :: later) [⟨request, some failure⟩] (some failure)
  | next (request : Request) {later : List Request} {calls : List Call} {stop : Option Failure}
      (h : Sent later calls stop) : Sent (request :: later) (⟨request, none⟩ :: calls) stop

namespace Sent

variable {due more : List Request} {calls calls' : List Call} {stop : Option Failure}

/-- After requests that all succeed go those that are due next. -/
theorem append (h : Sent due calls none) (hmore : Sent more calls' stop) :
    Sent (due ++ more) (calls ++ calls') stop := by
  generalize hnone : (none : Option Failure) = succeeded at h
  induction h with
  | all => exact hmore
  | failed => cases hnone
  | next request _ ih => exact .next request (ih hnone)

/-- After a request that fails none goes any more. -/
theorem append_of_failed {failure : Failure} (h : Sent due calls (some failure))
    (more : List Request) : Sent (due ++ more) calls (some failure) := by
  generalize hsome : some failure = failed at h
  induction h with
  | all => cases hsome
  | failed request later failure => exact .failed request (later ++ more) failure
  | next request _ ih => exact .next request (ih hsome)

/-- No more requests are sent than are due. -/
theorem length_le (h : Sent due calls stop) : calls.length ≤ due.length := by
  induction h with
  | all => exact Nat.le_refl 0
  | failed => exact Nat.succ_le_succ (Nat.zero_le _)
  | next request _ ih => exact Nat.succ_le_succ ih

/-- If no request fails all that are due are sent. -/
theorem eq_map (h : Sent due calls none) : calls = due.map fun request => ⟨request, none⟩ := by
  generalize hnone : (none : Option Failure) = succeeded at h
  induction h with
  | all => rfl
  | failed => cases hnone
  | next request _ ih => rw [ih hnone, List.map_cons, ← hnone]

end Sent

/-- The number of rows that an insertion reports, if it succeeds. -/
def Deed.inserted? : Deed → Option Nat
  | ⟨.call (.insertRows _ _), .ok count⟩ => some count
  | _ => none

/-! ## Scripts and what they are due to send -/

namespace Fallible

variable {σ α β : Type}

/-- Whether a script, run in a world, sends requests that are due until one fails, and then
comes to its failure.  If none fails, the insertions among them report the given counts and
the script comes to a result. -/
def Follows (env : Environment σ) (script : Fallible α) (world : World σ) (due : List Request)
    (counts : List Nat) (result : Except Failure α) : Prop :=
  ∃ stop, Sent due ((script.run.trace env world).filterMap Deed.call?) stop ∧
    (stop = none → (script.run.trace env world).filterMap Deed.inserted? = counts) ∧
    (script.run.run env world).1 = stop.elim result .error

namespace Follows

variable {env : Environment σ} {world : World σ} {due more : List Request}
  {counts counts' : List Nat} {result : Except Failure β}

/-- A value sends nothing. -/
theorem pure (value : α) :
    Follows env (Pure.pure value) world [] [] (.ok value) :=
  ⟨none, .all, fun _ => rfl, rfl⟩

/-- A failure sends nothing. -/
theorem throw (failure : Failure) :
    Follows env (MonadExcept.throw failure : Fallible α) world [] [] (.error failure) :=
  ⟨none, .all, fun _ => rfl, rfl⟩

/-- Noting an event sends nothing. -/
theorem note (event : Event) :
    Follows env (liftM (Script.note event)) world [] [] (.ok ()) :=
  ⟨none, .all, fun _ => rfl, rfl⟩

/-- A request is sent, and the script comes to its failure, or to the one reply that it can
have. -/
theorem require {request : Request} {reply : request.Reply}
    (h : ∀ answered, (env.answer request world.state).outcome = .ok answered →
      answered = reply) :
    Follows env (Loading.require request) world [request]
      (Deed.inserted? ⟨.call request, .ok reply⟩).toList (.ok reply) := by
  have htrace : (Loading.require request).run.trace env world =
      [⟨.call request, (env.answer request world.state).outcome⟩] := rfl
  have hrun : ((Loading.require request).run.run env world).1 =
      (env.answer request world.state).outcome := rfl
  rw [Follows, htrace, hrun]
  cases houtcome : (env.answer request world.state).outcome with
  | error failure => exact ⟨some failure, .failed request [] failure, nofun, rfl⟩
  | ok answered =>
      obtain rfl := h answered houtcome
      refine ⟨none, .next request .all, fun _ => ?_, rfl⟩
      rw [List.filterMap_cons]
      cases Deed.inserted? ⟨.call request, .ok answered⟩ <;> rfl

/-- Inserting rows sends one request, and the script comes to what it reports. -/
theorem insertRows (env : Environment σ) (world : World σ) (table : TableName) (rows : List Row) :
    ∃ count, Follows env (Loading.require (.insertRows table rows)) world
      [.insertRows table rows] [count] (.ok count) := by
  cases houtcome : (env.answer (.insertRows table rows) world.state).outcome with
  | error failure => exact ⟨0, require fun answered h => by rw [houtcome] at h; cases h⟩
  | ok count => exact ⟨count, require fun answered h => by rw [houtcome] at h; cases h; rfl⟩

/-- Scripts in a row send their requests in a row, until one of them fails. -/
theorem bind {script : Fallible α} {f : α → Fallible β} {value : α}
    (h : Follows env script world due counts (.ok value))
    (hf : Follows env (f value) (script.run.run env world).2 more counts' result) :
    Follows env (script >>= f) world (due ++ more) (counts ++ counts') result := by
  obtain ⟨stop, hsent, hcounts, hresult⟩ := h
  rw [Follows, ExceptT.run_bind, Script.trace_bind, Script.run_bind, List.filterMap_append,
    List.filterMap_append, hresult]
  cases stop with
  | some failure =>
      refine ⟨some failure, ?_, nofun, rfl⟩
      exact (List.append_nil _).symm ▸ hsent.append_of_failed more
  | none =>
      obtain ⟨stop, hsent', hcounts', hresult'⟩ := hf
      exact ⟨stop, hsent.append hsent', fun hstop => by
        rw [← hcounts rfl, ← hcounts' hstop]; rfl, hresult'⟩

/-- Doing something with the value of a script sends nothing more. -/
theorem map {script : Fallible α} {value : α}
    (h : Follows env script world due counts (.ok value)) (g : α → β) :
    Follows env (script >>= fun value => Pure.pure (g value)) world due counts
      (.ok (g value)) := by
  have hbind := h.bind (f := fun value => Pure.pure (g value)) (.pure (g value))
  rwa [List.append_nil, List.append_nil] at hbind

/-- Changing what a script comes to sends nothing more. -/
theorem map_result {script : Fallible α} {result : Except Failure α}
    (h : Follows env script world due counts result) (g : α → β) :
    Follows env (g <$> script) world due counts (result.map g) := by
  obtain ⟨stop, hsent, hcounts, hresult⟩ := h
  have hrun : (g <$> script).run = Except.map g <$> script.run := ExceptT.run_map g script
  have htrace : (g <$> script).run.trace env world = script.run.trace env world := by
    rw [hrun, map_eq_pure_bind, Script.trace_bind, Script.trace_pure, List.append_nil]
  rw [Follows, htrace, hrun, Script.run_map, hresult]
  refine ⟨stop, hsent, hcounts, ?_⟩
  cases stop <;> rfl

end Follows
end Fallible

namespace Loading

open Fallible Dataset

variable {σ : Type} {env : Environment σ} {world : World σ}

/-! ## The steps of a load -/

/-- What a load is due to send for batches of rows: the indexes are built only if no record is
malformed. -/
def due (table : TableName) (batches : List (List Row)) (malformed : Option Failure) :
    List Request :=
  .recreateTable table :: batches.map (.insertRows table) ++
    malformed.elim [.createIndex table .pathFirst, .createIndex table .valueFirst] fun _ => []

/-- Batches are inserted one by one, and what the insertions report is added up. -/
theorem follows_insertAll (env : Environment σ) (world : World σ) (table : TableName)
    (imported : Nat) (batches : List (List Row)) :
    ∃ counts, Follows env (insertAll table imported batches) world
      (batches.map (Request.insertRows table)) counts (.ok (counts.foldl addRows imported)) := by
  induction batches generalizing imported world with
  | nil => exact ⟨[], .pure imported⟩
  | cons rows batches ih =>
      obtain ⟨count, hinsert⟩ := Follows.insertRows env world table rows
      obtain ⟨counts, hlater⟩ :=
        ih ((require (.insertRows table rows)).run.run env world).2 (addRows imported count)
      exact ⟨count :: counts, hinsert.bind hlater⟩

/-- Building an index sends one request. -/
theorem follows_buildIndex (table : TableName) (order : IndexOrder) :
    Follows env (buildIndex table order) world [.createIndex table order] [] (.ok ()) :=
  (Follows.note _).bind (.require fun _ _ => rfl)

/-- A load ends with the failure of a record that is no row, or with building both indexes. -/
theorem follows_finish (table : TableName) (malformed : Option Failure) (count : Nat) :
    Follows env (finish table malformed count) world
      (malformed.elim [.createIndex table .pathFirst, .createIndex table .valueFirst]
        fun _ => []) []
      (malformed.elim (.ok count) .error) := by
  cases malformed with
  | some failure => exact .throw failure
  | none =>
      have hbuilds : Follows env (IndexOrder.buildSequence.forM (buildIndex table))
          ((liftM (Script.note (.imported table count)) : Fallible Unit).run.run env world).2
          [.createIndex table .pathFirst, .createIndex table .valueFirst] [] (.ok ()) :=
        (follows_buildIndex table .pathFirst).bind
          ((follows_buildIndex table .valueFirst).bind (.pure ()))
      exact (Follows.note _).bind (hbuilds.bind ((Follows.note _).map fun _ => count))

/-- The start of a load sends one request. -/
theorem follows_start (engine : EngineKind) (table : TableName) (size : Nat) :
    Follows env (start engine table size) world [.recreateTable table] [] (.ok ()) := by
  have hrecreate (world : World σ) : Follows env (require (.recreateTable table)) world
      [.recreateTable table] [] (.ok ()) := .require fun _ _ => rfl
  exact (Follows.note _).bind ((hrecreate _).bind (.note _))

/-- A load sends its requests in order, up to the batch with a record that is no row. -/
theorem follows_load (engine : EngineKind) (table : TableName) {reader : Reader} {size : Nat}
    {batches : List (List Row)} {malformed : Option Failure}
    (h : reader.batches (batchSize size) = (batches, malformed)) :
    ∃ counts, Follows env (load engine table reader size) world (due table batches malformed)
      counts (malformed.elim (.ok (Summary.total counts % UInt64.size)) .error) := by
  obtain ⟨counts, hinsert⟩ :=
    follows_insertAll env ((start engine table size).run.run env world).2 table 0 batches
  refine ⟨counts, ?_⟩
  rw [foldl_addRows (by decide), Nat.zero_add] at hinsert
  rw [load, fill_eq h]
  have hfinish := hinsert.bind (follows_finish table malformed (Summary.total counts % UInt64.size))
  rw [List.append_nil] at hfinish
  exact (follows_start engine table size).bind hfinish

/-- A load for which there is no buffer creates the table anew, and panics. -/
theorem follows_prepareTable_of_not_hasRoom (engine : EngineKind) (table : TableName)
    (reader : Reader) {size : Nat} (h : hasRoom (batchSize size) = false) :
    Follows env (prepareTable engine table reader size).run world [.recreateTable table] []
      (.ok (.error .capacityOverflow)) := by
  rw [run_prepareTable_of_not_hasRoom h]
  exact (follows_start engine table size).bind (.pure _)

/-! ## Datasets and their batches -/

/-- Which batches the records of a dataset make: all rows cut up, or the whole batches of those
before the first record that is no row, with the failure of that record. -/
inductive Cut (max : Nat) (records : List RawRecord) :
    List (List Row) → Option Failure → Prop where
  | whole {rows : List Row} {batches : List (List Row)} (hrows : ReadAs records rows)
      (h : Batched max rows batches) : Cut max records batches none
  | malformed {good later : List RawRecord} {bad : RawRecord} {rows : List Row}
      {failure : Failure} {batches : List (List Row)} (hrecords : records = good ++ bad :: later)
      (hgood : ReadAs good rows) (hbad : Row.ofRecord bad = .error failure)
      (h : Batched max (rows.take (rows.length / max * max)) batches) :
      Cut max records batches (some failure)

/-- There are no more batches than records. -/
theorem Cut.length_le {max : Nat} {records : List RawRecord} {batches : List (List Row)}
    {malformed : Option Failure} (hmax : 0 < max) (h : Cut max records batches malformed) :
    batches.length ≤ records.length := by
  cases h with
  | whole hrows h =>
      rw [List.Forall₂.length_eq hrows]
      exact h.length_le hmax
  | @malformed good later bad rows _ _ hrecords hgood hbad h =>
      have hrows := (h.length_le hmax).trans (List.length_take_le' _ rows)
      rw [← List.Forall₂.length_eq hgood] at hrows
      rw [hrecords, List.length_append]
      exact Nat.le_add_right_of_le hrows

/-- A reader makes batches of the records of its bytes. -/
theorem exists_cut {max : Nat} (hmax : 0 < max) (bytes : List UInt8) :
    ∃ batches malformed, (Reader.ofBytes bytes).batches max = (batches, malformed) ∧
      Cut max (Cursor.ofBytes bytes).records batches malformed := by
  rcases readAs_or_bad (Cursor.ofBytes bytes).records with
    ⟨rows, hrows⟩ | ⟨good, bad, later, rows, failure, hrecords, hgood, hbad⟩
  · obtain ⟨batches, hbatches, hcut⟩ := Reader.batches_of_readAs hmax hrows
    exact ⟨batches, none, hbatches, .whole hrows hcut⟩
  · obtain ⟨batches, hbatches, hcut⟩ := Reader.batches_of_bad hmax hrecords hgood hbad
    exact ⟨batches, some failure, hbatches, .malformed hrecords hgood hbad hcut⟩

/-- What a load is due to send: the table is created anew, and all else needs a buffer. -/
def dueFor (table : TableName) (size : Nat) (batches : List (List Row))
    (malformed : Option Failure) : List Request :=
  if hasRoom (batchSize size) then due table batches malformed else [.recreateTable table]

/-- What a load comes to if none of its requests fails. -/
def outcomeFor (size : Nat) (malformed : Option Failure) (reported : List Nat) :
    Except Failure (Except Panic Nat) :=
  if hasRoom (batchSize size) then
    malformed.elim (.ok (.ok (Summary.total reported % UInt64.size))) .error
  else .ok (.error .capacityOverflow)

/-- A load sends its requests in order, as far as there is a buffer for its batches. -/
theorem follows_prepareTable (engine : EngineKind) (table : TableName) {reader : Reader}
    {size : Nat} {batches : List (List Row)} {malformed : Option Failure}
    (h : reader.batches (batchSize size) = (batches, malformed)) :
    ∃ counts, Follows env (prepareTable engine table reader size).run world
      (dueFor table size batches malformed) counts (outcomeFor size malformed counts) := by
  unfold dueFor outcomeFor
  by_cases hroom : hasRoom (batchSize size) = true
  · obtain ⟨counts, hload⟩ := @follows_load _ env world engine table _ _ _ _ h
    refine ⟨counts, ?_⟩
    rw [if_pos hroom, if_pos hroom, run_prepareTable_of_hasRoom hroom]
    have hmapped := hload.map_result (Except.ok (ε := Panic))
    cases malformed <;> exact hmapped
  · refine ⟨[], ?_⟩
    rw [if_neg hroom, if_neg hroom]
    exact follows_prepareTable_of_not_hasRoom engine table reader (Bool.eq_false_iff.mpr hroom)

/-- A load over any engine sends the requests that are due for the batches of its dataset, in
order, until the first that fails; the number of records bounds how many these are.  It comes to
the failure of that request, or else of the first record that is no row.  Otherwise it comes to
the sum in 64 bits of what the insertions report, and only if all rows are inserted and both
indexes built.  In batches that no buffer has room for it inserts none, and panics if the table
could be created anew. -/
theorem prepareTable_until_failure {σ : Type} (env : Environment σ) (world : World σ)
    (engine : EngineKind) (table : TableName) (bytes : List UInt8) (size : Nat) :
    let script := (prepareTable engine table (.ofBytes bytes) size).run.run
    let records := (Cursor.ofBytes bytes).records
    let reported := (script.trace env world).filterMap Deed.inserted?
    ∃ batches malformed calls stop,
      Cut (batchSize size) records batches malformed ∧
      Sent (dueFor table size batches malformed) calls stop ∧
      (script.run env world).2.calls = world.calls ++ calls ∧
      calls.length ≤ records.length + 3 ∧
      (script.run env world).1 = stop.elim (outcomeFor size malformed reported) .error ∧
      ∀ count, (script.run env world).1 = .ok (.ok count) →
        ReadAs records batches.flatten ∧ count = Summary.total reported % UInt64.size ∧
          calls = (due table batches none).map fun request => ⟨request, none⟩ := by
  intro script records reported
  have hmax : 0 < batchSize size := Nat.lt_of_lt_of_le Nat.one_pos (Nat.le_max_right size 1)
  obtain ⟨batches, malformed, hbatches, hcut⟩ := exists_cut hmax bytes
  obtain ⟨counts, stop, hsent, hcounts, hresult⟩ := follows_prepareTable engine table hbatches
  have hlength : (dueFor table size batches malformed).length ≤ records.length + 3 := by
    have hfew : batches.length ≤ records.length := hcut.length_le hmax
    unfold dueFor
    split
    · cases malformed <;> simp only [due, List.length_append, List.length_cons, List.length_map,
        Option.elim, List.length_nil] <;> omega
    · simp
  have hvalue : (script.run env world).1 =
      stop.elim (outcomeFor size malformed reported) .error := by
    cases stop with
    | some failure => exact hresult
    | none =>
        have hreported : reported = counts := hcounts rfl
        rw [hreported]
        exact hresult
  refine ⟨batches, malformed, _, stop, hcut, hsent, Script.calls_run env script world,
    hsent.length_le.trans hlength, hvalue, fun count hcount => ?_⟩
  rw [hvalue] at hcount
  cases stop with
  | some failure => cases hcount
  | none =>
      by_cases hroom : hasRoom (batchSize size) = true
      · rw [Option.elim_none, outcomeFor, if_pos hroom] at hcount
        rw [dueFor, if_pos hroom] at hsent
        cases hcut with
        | malformed => cases hcount
        | whole hrows h =>
            cases hcount
            exact ⟨h.flatten_eq ▸ hrows, rfl, hsent.eq_map⟩
      · rw [Option.elim_none, outcomeFor, if_neg hroom] at hcount
        cases hcount

/-- Rows that an engine reports may be more than 64 bits can tell, and then a load comes to a
smaller number than their sum; in batches of as many rows as 64 bits can tell it comes to no
number and to no failure. -/
theorem prepareTable_wraps :
    let records : TableName := ⟨"records", rfl⟩
    let bytes := Utf8.encode "/a;1;r\n/b;2;r\n"
    let answer : (request : Request) → Except Failure request.Reply
      | .recreateTable _ => .ok ()
      | .insertRows _ rows => .ok (if rows = [⟨"/a", 1, "r"⟩] then UInt64.size - 1 else 1)
      | .createIndex _ _ => .ok ()
      | _ => .error .connectionClosed
    let env : Environment Unit := ⟨fun request _ => ⟨answer request, [], ()⟩,
      fun _ _ => ⟨.ok (), [], ()⟩, fun _ _ => .absent, fun _ _ _ => .ok (), fun _ => 0⟩
    let world := World.fresh () .unlimited
    let script (size : Nat) := (prepareTable .server records (.ofBytes bytes) size).run.run
    ((script 1).trace env world).filterMap Deed.inserted? = [UInt64.size - 1, 1] ∧
      ((script 1).run env world).1 = .ok (.ok 0) ∧
      ((script (UInt64.size - 1)).run env world).1 = .ok (.error .capacityOverflow) := by
  decide

end Loading
end IndexBench
