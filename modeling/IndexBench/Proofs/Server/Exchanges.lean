import IndexBench.Proofs.Server.Parameters
import IndexBench.Server.Connection

/-!
# Exchanges with a server

A connection answers a request by an exchange: it sends the statements of the request, takes one
reply for each of them and reads the last.  Only the table that is created again needs two
statements, of which the second is sent if the first was accepted; no statement is ever sent
again.

Main definitions:

- `Answers` says everything that a request on an open connection can lead to.
- `Exchange` is a request with its statements, their replies and its outcome;
  `Connection.exchanges` are the exchanges of requests in a row.
- `Spoils` says which reply makes a request fail, and how.
- `Exchange.OneForOne` says what an exchange on an open connection is.

Main results:

- Theorem `Connection.answers_answer`: what a request on an open connection leads to.
- Theorem `outcome_eq_error_iff`: a reply that is read fails for the reasons of `Spoils` only.
- Theorem `Connection.exchanges_one_for_one`: requests are translated one for one.
-/

namespace IndexBench
namespace Server

/-! ## Replies that make a request fail -/

/-- The types of values that are read from a row. -/
inductive CellType where
  | boolean
  | integer
  | text
  deriving DecidableEq, Repr

/-- The type of a value, if it has one. -/
def Cell.type? : Cell → Option CellType
  | .null => none
  | .boolean _ => some .boolean
  | .integer _ => some .integer
  | .text _ => some .text

/-- The type of the value that a request reads from the first row, if it reads one. -/
def readType? : Request → Option CellType
  | .scanFallback => some .text
  | .indexEligibility _ => some .boolean
  | .countMatches _ _ => some .integer
  | _ => none

/-- Whether a reply rejects its statement, be it after some rows. -/
def Reply.isRejection : Reply → Bool
  | .rejected _ => true
  | .interrupted _ _ => true
  | .rows _ _ => false

/-- A reply makes a request fail. -/
inductive Spoils : Request → Reply → Failure → Prop where
  | rejected {request : Request} {text : String} :
      Spoils request (.rejected text) (.server (.rejected text))
  | interrupted {request : Request} {rows : List (List Cell)} {text : String} :
      Spoils request (.interrupted rows text) (.server (.rejected text))
  /-- A count needs a row. -/
  | noRow {table : TableName} {selector : Selector} {tag : String} :
      Spoils (.countMatches table selector) (.rows [] tag) (.server .noRow)
  /-- There is no value where one is read. -/
  | null {request : Request} {type : CellType} {row : List Cell} {rows : List (List Cell)}
      {tag : String} (hreads : readType? request = some type)
      (hnull : (Reply.scalar row).type? = none) :
      Spoils request (.rows (row :: rows) tag) (.server .nullColumn)
  /-- A value has another type than the one that is read. -/
  | mismatched {request : Request} {type other : CellType} {row : List Cell}
      {rows : List (List Cell)} {tag : String} (hreads : readType? request = some type)
      (hother : (Reply.scalar row).type? = some other) (hne : other ≠ type) :
      Spoils request (.rows (row :: rows) tag) (.server .wrongType)
  /-- There was no index to mark. -/
  | unknownIndex {index : String} {eligible : Bool} {rows : List (List Cell)} {tag : String}
      (hnone : Reply.touched tag = 0) :
      Spoils (.setIndexEligible index eligible) (.rows rows tag) (.unknownIndex index)

namespace Connection

/-- What a request makes of the reply to its last statement. -/
def read (request : Request) (reply : Reply) : Except Failure request.Reply :=
  (accept reply).bind fun (rows, tag) => readReply rows tag request

/-- A row spoils a request that reads a value from it if there is no value, or one of another
type. -/
theorem spoils_row_iff {request : Request} {type : CellType}
    (hreads : readType? request = some type) (row : List Cell) (rows : List (List Cell))
    (tag : String) (failure : Failure) :
    Spoils request (.rows (row :: rows) tag) failure ↔
      (Reply.scalar row).type? = none ∧ failure = .server .nullColumn ∨
      (∃ other, (Reply.scalar row).type? = some other ∧ other ≠ type) ∧
        failure = .server .wrongType := by
  constructor
  · intro hspoils
    cases hspoils with
    | null _ hnull => exact .inl ⟨hnull, rfl⟩
    | mismatched hother_reads hother hne =>
        obtain rfl := Option.some.inj (hreads.symm.trans hother_reads)
        exact .inr ⟨⟨_, hother, hne⟩, rfl⟩
    | unknownIndex _ => cases hreads
  · rintro (⟨hnull, rfl⟩ | ⟨⟨other, hother, hne⟩, rfl⟩)
    · exact .null hreads hnull
    · exact .mismatched hreads hother hne

/-- Rows spoil a request that reads none of them only if there was no index to mark. -/
theorem spoils_unread_iff {request : Request} (hreads : readType? request = none)
    (rows : List (List Cell)) (tag : String) (failure : Failure) :
    Spoils request (.rows rows tag) failure ↔
      ∃ index eligible, request = .setIndexEligible index eligible ∧ Reply.touched tag = 0 ∧
        failure = .unknownIndex index := by
  constructor
  · intro hspoils
    cases hspoils with
    | noRow => cases hreads
    | null hother_reads _ => rw [hreads] at hother_reads; cases hother_reads
    | mismatched hother_reads _ _ => rw [hreads] at hother_reads; cases hother_reads
    | unknownIndex hnone => exact ⟨_, _, rfl, hnone, rfl⟩
  · rintro ⟨index, eligible, rfl, hnone, rfl⟩
    exact .unknownIndex hnone

/-- No row at all spoils a lookup. -/
theorem not_spoils_lookup {request : Request} {type : CellType}
    (hreads : readType? request = some type) (hne : type ≠ .integer) (tag : String)
    (failure : Failure) : ¬Spoils request (.rows [] tag) failure := by
  intro hspoils
  cases hspoils with
  | noRow => exact hne (Option.some.inj hreads).symm
  | unknownIndex _ => cases hreads

/-- Rows that are read fail for the reasons of `Spoils` only. -/
theorem readReply_eq_error_iff (request : Request) (rows : List (List Cell)) (tag : String)
    (failure : Failure) :
    readReply rows tag request = .error failure ↔ Spoils request (.rows rows tag) failure := by
  cases request with
  | scanFallback =>
      cases rows with
      | nil =>
          have hspared : ¬Spoils .scanFallback (.rows [] tag) failure :=
            not_spoils_lookup rfl (by decide) tag failure
          simp [readReply, readSetting, hspared]
      | cons row rows =>
          rw [spoils_row_iff rfl, readReply, readSetting]
          cases Reply.scalar row <;> simp [Cell.type?, eq_comm]
  | indexEligibility index =>
      cases rows with
      | nil =>
          have hspared : ¬Spoils (.indexEligibility index) (.rows [] tag) failure :=
            not_spoils_lookup rfl (by decide) tag failure
          simp [readReply, readMark, hspared]
      | cons row rows =>
          rw [spoils_row_iff rfl, readReply, readMark]
          cases Reply.scalar row <;> simp [Cell.type?, eq_comm]
  | countMatches table selector =>
      cases rows with
      | nil =>
          constructor
          · intro hread
            cases hread
            exact .noRow
          · intro hspoils
            cases hspoils with
            | noRow => rfl
      | cons row rows =>
          rw [spoils_row_iff rfl, readReply, readCount]
          cases Reply.scalar row <;> simp [Cell.type?, eq_comm]
  | setIndexEligible index eligible =>
      rw [spoils_unread_iff rfl, readReply]
      by_cases hnone : Reply.touched tag = 0
      · simp [hnone, eq_comm]
      · simp [hnone]
  | _ =>
      rw [spoils_unread_iff rfl, readReply]
      simp

/-- A reply that is read fails for the reasons of `Spoils` only. -/
theorem read_eq_error_iff (request : Request) (reply : Reply) (failure : Failure) :
    read request reply = .error failure ↔ Spoils request reply failure := by
  cases reply with
  | rejected text =>
      constructor
      · intro hread
        cases hread
        exact .rejected
      · intro hspoils
        cases hspoils
        rfl
  | interrupted rows text =>
      constructor
      · intro hread
        cases hread
        exact .interrupted
      · intro hspoils
        cases hspoils
        rfl
  | rows rows tag => exact readReply_eq_error_iff request rows tag failure

/-! ## What a request leads to -/

/-- A connection after statements, each of which took a reply. -/
def advance (connection : Connection) (statements : List Statement) : Connection :=
  { connection with
    replies := connection.replies.drop statements.length
    sent := connection.sent ++ statements }

end Connection

/-- What a request leads to on an open connection. -/
inductive Answers (connection : Connection) :
    (request : Request) → Response request.Reply Connection → Prop where
  /-- Closing needs no statement. -/
  | close : Answers connection .close connection.disconnect
  /-- A table that cannot be dropped is not created. -/
  | refuse {table : TableName} {failure : Failure}
      (hdrop : Connection.read (.recreateTable table)
        (connection.replies.headD Connection.silent) = .error failure) :
      Answers connection (.recreateTable table)
        ⟨.error failure, [], connection.advance [.drop table]⟩
  /-- A table that was dropped is created. -/
  | recreate {table : TableName}
      (hdrop : Connection.read (.recreateTable table)
        (connection.replies.headD Connection.silent) = .ok ()) :
      Answers connection (.recreateTable table)
        ⟨Connection.read (.recreateTable table)
            (connection.replies.tail.headD Connection.silent), [],
          connection.advance [.drop table, .create table]⟩
  /-- Any other request is one statement. -/
  | single {request : Request} {statement : Statement}
      (hstatements : Statement.ofRequest request = [statement]) :
      Answers connection request
        ⟨Connection.read request (connection.replies.headD Connection.silent), [],
          connection.advance [statement]⟩

namespace Connection

/-- A request of one statement on an open connection. -/
theorem answer_of_single {connection : Connection} (hopen : connection.isOpen = true)
    {request : Request} {statement : Statement}
    (hstatements : Statement.ofRequest request = [statement]) :
    connection.answer request =
      ⟨read request (connection.replies.headD silent), [], connection.advance [statement]⟩ := by
  have hanswer : connection.answer request = connection.exchange request := by
    cases request with
    | close => cases hstatements
    | _ => exact if_pos hopen
  rw [hanswer, exchange, hstatements]
  simp only [sendAll, send, advance, List.length_singleton, List.drop_one]
  rfl

/-- What a request leads to on an open connection. -/
theorem answers_answer {connection : Connection} (hopen : connection.isOpen = true)
    (request : Request) : Answers connection request (connection.answer request) := by
  cases request with
  | close => exact .close
  | recreateTable table =>
      have hanswer : connection.answer (.recreateTable table) =
          connection.exchange (.recreateTable table) := if_pos hopen
      rw [hanswer]
      cases haccept : accept (connection.replies.headD silent) with
      | error failure =>
          have hexchange : connection.exchange (.recreateTable table) =
              ⟨.error failure, [], connection.advance [.drop table]⟩ := by
            simp only [exchange, Statement.ofRequest, sendAll, send, haccept]
            rw [advance, List.length_singleton, List.drop_one]
            rfl
          rw [hexchange]
          apply Answers.refuse
          rw [read, haccept]
          rfl
      | ok accepted =>
          have hexchange : connection.exchange (.recreateTable table) =
              ⟨read (.recreateTable table) (connection.replies.tail.headD silent), [],
                connection.advance [.drop table, .create table]⟩ := by
            simp only [exchange, Statement.ofRequest, sendAll, send, haccept, List.append_assoc]
            rw [advance, List.length_cons, List.length_singleton, ← List.tail_drop, List.drop_one]
            rfl
          rw [hexchange]
          apply Answers.recreate
          rw [read, haccept]
          rfl
  | _ =>
      rw [answer_of_single hopen rfl]
      exact .single rfl

/-! ## Exchanges -/

/-- The next replies of a server. -/
def upcoming : List Reply → Nat → List Reply
  | _, 0 => []
  | replies, n + 1 => replies.headD silent :: upcoming replies.tail n

/-- Replies are taken in order. -/
theorem upcoming_add (replies : List Reply) (m n : Nat) :
    upcoming replies (m + n) = upcoming replies m ++ upcoming (replies.drop m) n := by
  induction m generalizing replies with
  | zero => rw [Nat.zero_add, upcoming, List.nil_append, List.drop_zero]
  | succ m ih =>
      rw [Nat.succ_add, upcoming, upcoming, ih, List.drop_tail, List.cons_append]

end Connection

/-- A request with the statements that were sent for it, the reply to each of them and its
outcome. -/
structure Exchange where
  request : Request
  statements : List Statement
  replies : List Reply
  outcome : Except Failure request.Reply

/-- The exchange of a request that led to a response. -/
def Exchange.of (connection : Connection) (request : Request)
    (response : Response request.Reply Connection) : Exchange :=
  let statements := response.state.sent.drop connection.sent.length
  ⟨request, statements, Connection.upcoming connection.replies statements.length,
    response.outcome⟩

namespace Connection

/-- The connection after requests in a row. -/
def after (connection : Connection) : List Request → Connection
  | [] => connection
  | request :: requests => (connection.answer request).state.after requests

/-- The exchanges of requests in a row. -/
def exchanges (connection : Connection) : List Request → List Exchange
  | [] => []
  | request :: requests =>
      .of connection request (connection.answer request) ::
        (connection.answer request).state.exchanges requests

end Connection

/-- The statements of a request on an open connection, with their replies. -/
inductive Sends : Request → List Statement → List Reply → Prop where
  | close : Sends .close [] []
  /-- A table that cannot be dropped is not created. -/
  | refuse {table : TableName} {reply : Reply} (hdrop : reply.isRejection = true) :
      Sends (.recreateTable table) [.drop table] [reply]
  /-- A table that was dropped is created. -/
  | recreate {table : TableName} {first second : Reply} (hdrop : first.isRejection = false) :
      Sends (.recreateTable table) [.drop table, .create table] [first, second]
  /-- Any other request is one statement. -/
  | single {request : Request} {statement : Statement} {reply : Reply}
      (hstatements : Statement.ofRequest request = [statement]) :
      Sends request [statement] [reply]

namespace Exchange

/-- Fetching rows counts those that came before the end. -/
def Counts : Exchange → Prop
  | ⟨.enumerateMatches _ _, _, replies, outcome⟩ =>
      ∀ n, outcome = .ok n ↔ ∃ rows tag, replies = [.rows rows tag] ∧ rows.length = n
  | _ => True

/-- What an exchange on an open connection is. -/
structure OneForOne (exchange : Exchange) : Prop where
  sends : Sends exchange.request exchange.statements exchange.replies
  /-- Texts depend on the operation only. -/
  texts : ∀ other, Operation.ofRequest other = Operation.ofRequest exchange.request →
    exchange.statements.map Statement.text <+:
      (Statement.ofRequest other).map Statement.text
  /-- Nothing of a request is lost: its values travel as parameters, in a fixed order. -/
  values : (Operation.ofRequest exchange.request).request?
    (exchange.statements.flatMap Statement.parameters) = some exchange.request
  /-- Each text has a place for each parameter of its statement. -/
  numbered : ∀ statement ∈ exchange.statements, statement.Numbered
  /-- Requests fail by their replies only. -/
  fails : exchange.request ≠ .close → ∀ failure,
    exchange.outcome = .error failure ↔
      ∃ reply ∈ exchange.replies, Spoils exchange.request reply failure
  counts : exchange.Counts

end Exchange

/-- A connection that is closed is left as it was, but for being closed. -/
theorem Connection.state_disconnect (connection : Connection) :
    connection.disconnect.state = { connection with isOpen := false } := by
  unfold disconnect
  by_cases hopen : connection.isOpen = true
  · rw [if_pos hopen]
    cases connection.parting <;> rfl
  · rw [if_neg hopen]

/-- A response only adds to what was sent, and takes a reply for each statement. -/
theorem Answers.exists_sent {connection : Connection} {request : Request}
    {response : Response request.Reply Connection} (h : Answers connection request response) :
    ∃ statements, response.state.sent = connection.sent ++ statements ∧
      response.state.replies = connection.replies.drop statements.length := by
  cases h with
  | close =>
      rw [connection.state_disconnect]
      exact ⟨[], (List.append_nil _).symm, rfl⟩
  | refuse hdrop => exact ⟨_, rfl, rfl⟩
  | recreate hdrop => exact ⟨_, rfl, rfl⟩
  | single hstatements => exact ⟨_, rfl, rfl⟩

namespace Exchange

variable {connection : Connection} {request : Request}

/-- The statements of an exchange are those that were added. -/
theorem of_eq {response : Response request.Reply Connection} {statements : List Statement}
    (h : response.state.sent = connection.sent ++ statements) :
    Exchange.of connection request response =
      ⟨request, statements, Connection.upcoming connection.replies statements.length,
        response.outcome⟩ := by
  rw [Exchange.of, h, List.drop_left]

/-- The texts of some of the statements of a request depend on its operation only. -/
theorem texts_isPrefix {statements : List Statement}
    (h : statements <+: Statement.ofRequest request) {other : Request}
    (hother : Operation.ofRequest other = Operation.ofRequest request) :
    statements.map Statement.text <+: (Statement.ofRequest other).map Statement.text := by
  rw [Statement.text_ofRequest hother]
  exact h.map Statement.text

/-- A reply that is read counts its rows if they are fetched. -/
theorem counts_read (request : Request) (statements : List Statement) (reply : Reply) :
    Counts ⟨request, statements, [reply], Connection.read request reply⟩ := by
  cases request with
  | enumerateMatches table selector =>
      intro n
      cases reply with
      | rejected text => simp [Connection.read, Connection.accept, Except.bind]
      | interrupted rows text => simp [Connection.read, Connection.accept, Except.bind]
      | rows rows tag =>
          simp [Connection.read, Connection.accept, Except.bind, Connection.readReply]
  | _ => trivial

/-- A request of one statement is an exchange one for one. -/
theorem oneForOne_single {statement : Statement}
    (hstatements : Statement.ofRequest request = [statement]) (reply : Reply) :
    OneForOne ⟨request, [statement], [reply], Connection.read request reply⟩ where
  sends := .single hstatements
  texts other hother := texts_isPrefix (hstatements ▸ List.prefix_rfl) hother
  values := by
    rw [← hstatements]
    exact Operation.request?_ofRequest request
  numbered sent hsent := Statement.numbered_of_mem (hstatements.symm ▸ hsent)
  fails _ failure := by
    rw [Connection.read_eq_error_iff]
    simp only [List.mem_singleton, exists_eq_left]
  counts := counts_read request [statement] reply

/-- The exchange that closes a connection is one for one. -/
theorem oneForOne_close (outcome : Except Failure Unit) :
    OneForOne ⟨.close, [], [], outcome⟩ where
  sends := .close
  texts _ hother := texts_isPrefix List.prefix_rfl hother
  values := rfl
  numbered _ hsent := absurd hsent List.not_mem_nil
  fails hclose _ := absurd rfl hclose
  counts := trivial

/-- A table cannot be dropped if and only if the reply is a rejection. -/
theorem isRejection_iff (table : TableName) (reply : Reply) :
    reply.isRejection = true ↔
      ∃ failure, Connection.read (.recreateTable table) reply = .error failure := by
  cases reply with
  | rejected text => exact iff_of_true rfl ⟨_, rfl⟩
  | interrupted rows text => exact iff_of_true rfl ⟨_, rfl⟩
  | rows rows tag =>
      refine iff_of_false Bool.false_ne_true ?_
      rintro ⟨failure, hread⟩
      cases hread

/-- The exchange of a table that cannot be dropped is one for one. -/
theorem oneForOne_refuse {table : TableName} {reply : Reply} {failure : Failure}
    (hdrop : Connection.read (.recreateTable table) reply = .error failure) :
    OneForOne ⟨.recreateTable table, [.drop table], [reply], .error failure⟩ where
  sends := .refuse ((isRejection_iff table reply).mpr ⟨failure, hdrop⟩)
  texts _ hother := texts_isPrefix (List.prefix_append [Statement.drop table] _) hother
  values := rfl
  numbered sent hsent := by
    have hmem : sent ∈ Statement.ofRequest (.recreateTable table) :=
      List.mem_append_left [Statement.create table] hsent
    exact Statement.numbered_of_mem hmem
  fails _ other := by
    rw [← hdrop, Connection.read_eq_error_iff]
    simp only [List.mem_singleton, exists_eq_left]
  counts := trivial

/-- The exchange of a table that was dropped is one for one. -/
theorem oneForOne_recreate {table : TableName} {first : Reply}
    (hdrop : Connection.read (.recreateTable table) first = .ok ()) (second : Reply) :
    OneForOne ⟨.recreateTable table, [.drop table, .create table], [first, second],
      Connection.read (.recreateTable table) second⟩ where
  sends := by
    apply Sends.recreate
    rw [Bool.eq_false_iff]
    intro hrejection
    obtain ⟨failure, hread⟩ := (isRejection_iff table first).mp hrejection
    rw [hdrop] at hread
    cases hread
  texts _ hother := texts_isPrefix List.prefix_rfl hother
  values := rfl
  numbered sent hsent := by
    have hmem : sent ∈ Statement.ofRequest (.recreateTable table) := hsent
    exact Statement.numbered_of_mem hmem
  fails _ failure := by
    have hspared : ¬Spoils (.recreateTable table) first failure := by
      intro hspoils
      rw [← Connection.read_eq_error_iff, hdrop] at hspoils
      cases hspoils
    rw [Connection.read_eq_error_iff]
    simp only [List.mem_cons, List.not_mem_nil, or_false, exists_eq_or_imp, exists_eq_left,
      hspared, false_or]
  counts := trivial

end Exchange

/-- What a request leads to on an open connection is one for one. -/
theorem Answers.oneForOne {connection : Connection} {request : Request}
    {response : Response request.Reply Connection} (h : Answers connection request response) :
    (Exchange.of connection request response).OneForOne := by
  cases h with
  | close =>
      have hsent : connection.disconnect.state.sent = connection.sent ++ [] := by
        rw [connection.state_disconnect, List.append_nil]
      rw [Exchange.of_eq hsent]
      exact Exchange.oneForOne_close _
  | refuse hdrop =>
      rw [Exchange.of_eq rfl]
      exact Exchange.oneForOne_refuse hdrop
  | recreate hdrop =>
      rw [Exchange.of_eq rfl]
      exact Exchange.oneForOne_recreate hdrop _
  | single hstatements =>
      rw [Exchange.of_eq rfl]
      exact Exchange.oneForOne_single hstatements _

namespace Connection

/-- A request only adds to what was sent, and takes a reply for each statement. -/
theorem exists_sent (connection : Connection) (request : Request) :
    ∃ statements, (connection.answer request).state.sent = connection.sent ++ statements ∧
      (connection.answer request).state.replies = connection.replies.drop statements.length := by
  by_cases hopen : connection.isOpen = true
  · exact (answers_answer hopen request).exists_sent
  · rw [answer_of_closed (Bool.eq_false_iff.mpr hopen) request]
    exact ⟨[], (List.append_nil _).symm, rfl⟩

/-- Only closing closes a connection. -/
theorem isOpen_answer {connection : Connection} (hopen : connection.isOpen = true)
    {request : Request} (hrequest : request ≠ .close) :
    (connection.answer request).state.isOpen = true := by
  have hanswers := answers_answer hopen request
  generalize connection.answer request = response at hanswers ⊢
  cases hanswers with
  | close => exact absurd rfl hrequest
  | refuse hdrop => exact hopen
  | recreate hdrop => exact hopen
  | single hstatements => exact hopen

/-- Requests in a row send the statements of their exchanges, each with the next reply. -/
theorem sent_after (connection : Connection) (requests : List Request) :
    (connection.after requests).sent =
      connection.sent ++ (connection.exchanges requests).flatMap Exchange.statements ∧
    (connection.exchanges requests).flatMap Exchange.replies =
      upcoming connection.replies
        ((connection.exchanges requests).flatMap Exchange.statements).length := by
  induction requests generalizing connection with
  | nil => exact ⟨(List.append_nil _).symm, rfl⟩
  | cons request requests ih =>
      obtain ⟨statements, hsent, hreplies⟩ := connection.exists_sent request
      obtain ⟨hlater, htaken⟩ := ih (connection.answer request).state
      rw [exchanges, Exchange.of_eq hsent]
      simp only [List.flatMap_cons, List.length_append]
      constructor
      · rw [after, hlater, hsent, List.append_assoc]
      · rw [htaken, hreplies, upcoming_add]

/-- Every exchange up to the one that closes the connection is one for one. -/
theorem oneForOne_exchanges {connection : Connection} (hopen : connection.isOpen = true)
    {requests : List Request} {before later : List Exchange} {exchange : Exchange}
    (h : connection.exchanges requests = before ++ exchange :: later)
    (hbefore : .close ∉ before.map Exchange.request) : exchange.OneForOne := by
  induction requests generalizing connection before with
  | nil => cases before <;> cases h
  | cons request requests ih =>
      cases before with
      | nil =>
          obtain ⟨rfl, -⟩ := List.cons.inj h
          exact (answers_answer hopen request).oneForOne
      | cons first before =>
          obtain ⟨rfl, hrest⟩ := List.cons.inj h
          have hrequest : request ≠ .close := by
            intro hclose
            exact hbefore (hclose ▸ List.mem_cons_self)
          have hlater : .close ∉ before.map Exchange.request := by
            intro hclose
            exact hbefore (List.mem_cons_of_mem request hclose)
          exact ih (isOpen_answer hopen hrequest) hrest hlater

/-- The exchanges of requests are theirs, in order. -/
theorem map_request_exchanges (connection : Connection) (requests : List Request) :
    (connection.exchanges requests).map Exchange.request = requests := by
  induction requests generalizing connection with
  | nil => rfl
  | cons request requests ih => exact congrArg (request :: ·) (ih _)

/-- Requests on an open connection are translated to statements one for one: a statement for each
request, or none to close, or two to create a table again, the second only if the first was
accepted.  The statements are sent in the order of the requests, each takes the next reply, and
the replies alone decide which requests fail. -/
theorem exchanges_one_for_one {connection : Connection} (hopen : connection.isOpen = true)
    (requests : List Request) :
    (connection.exchanges requests).map Exchange.request = requests ∧
    (connection.after requests).sent =
      connection.sent ++ (connection.exchanges requests).flatMap Exchange.statements ∧
    (connection.exchanges requests).flatMap Exchange.replies =
      upcoming connection.replies
        ((connection.exchanges requests).flatMap Exchange.statements).length ∧
    ∀ before exchange later,
      connection.exchanges requests = before ++ exchange :: later →
      .close ∉ before.map Exchange.request → exchange.OneForOne := by
  obtain ⟨hsent, hreplies⟩ := connection.sent_after requests
  refine ⟨connection.map_request_exchanges requests, hsent, hreplies, ?_⟩
  intro before exchange later hexchanges hbefore
  exact oneForOne_exchanges hopen hexchanges hbefore

/-- A session in which a table cannot be dropped, the index to mark is not there and the server
breaks off while rows are fetched. -/
theorem exchanges_one_for_one_faulty :
    let connection :=
      opened [.rejected "locked", .rows [] "UPDATE 0", .interrupted [[]] "cancelled"]
    let requests : List Request :=
      [.recreateTable ⟨"t", rfl⟩, .setIndexEligible "t_idx_pv" true,
        .enumerateMatches ⟨"t", rfl⟩ ⟨"^a$", 0, 1⟩, .close]
    connection.isOpen = true ∧
    (connection.exchanges requests).map Exchange.request = requests ∧
    (connection.after requests).sent =
      connection.sent ++ (connection.exchanges requests).flatMap Exchange.statements ∧
    (connection.exchanges requests).flatMap Exchange.replies =
      upcoming connection.replies
        ((connection.exchanges requests).flatMap Exchange.statements).length ∧
    ∀ before exchange later,
      connection.exchanges requests = before ++ exchange :: later →
      .close ∉ before.map Exchange.request → exchange.OneForOne := by
  intro connection requests
  exact ⟨rfl, exchanges_one_for_one rfl requests⟩

/-- A setting that is null makes its lookup fail, although the server rejected nothing. -/
theorem fails_without_rejection :
    ∃ exchange : Exchange,
      (opened [.rows [[.null]] "SELECT 1"]).exchanges [.scanFallback] = [exchange] ∧
      ¬((∃ failure, exchange.outcome = .error failure) ↔
        (∃ reply ∈ exchange.replies, reply.isRejection = true) ∨
        (∃ table selector, exchange.request = .countMatches table selector ∧
          ∃ tag, .rows [] tag ∈ exchange.replies) ∨
        ∃ index eligible, exchange.request = .setIndexEligible index eligible ∧
          ∃ rows tag, .rows rows tag ∈ exchange.replies ∧ Reply.touched tag = 0) := by
  refine ⟨⟨.scanFallback, [.showScan], [.rows [[.null]] "SELECT 1"],
    .error (.server .nullColumn)⟩, rfl, ?_⟩
  intro hiff
  obtain ⟨reply, hreply, hrejection⟩ | ⟨table, selector, hrequest, -⟩ |
    ⟨index, eligible, hrequest, -⟩ := hiff.mp ⟨_, rfl⟩
  · obtain rfl := List.mem_singleton.mp hreply
    cases hrejection
  · cases hrequest
  · cases hrequest

end Connection
end Server
end IndexBench
