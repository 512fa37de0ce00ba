import IndexBench.Server.Reply
import IndexBench.Server.Statement
import IndexBench.World

/-!
# Connections to a server

A connection sends statements and takes a reply for each.  Once it is closed it
stays closed, and every request but another close fails without a statement.

Main definitions:

- `Server.Connection` is a connection with the replies that are to come.
- `Server.Connection.send` sends one statement.
- `Server.Connection.answer` answers every request.

Main results:

- Theorem `Server.Connection.answer_of_closed`: a closed connection sends nothing.
-/

namespace IndexBench
namespace Server

/-- A connection to a server. -/
structure Connection where
  isOpen : Bool
  /-- The replies that the server has yet to give. -/
  replies : List Reply
  /-- Every statement, in order. -/
  sent : List Statement
  /-- What goes wrong when the connection is closed, if anything does. -/
  parting : Option ServerFault
  deriving DecidableEq, Repr

namespace Connection

/-- A connection that has just been opened. -/
def opened (replies : List Reply) : Connection :=
  ⟨true, replies, [], none⟩

/-- What a server says that has no reply left. -/
def silent : Reply :=
  .rejected "no reply left"

/-- The rows and the tag of a reply, which is read to its end: rows before a
rejection are lost. -/
def accept : Reply → Except Failure (List (List Cell) × String)
  | .rejected text => .error (.server (.rejected text))
  | .interrupted _ text => .error (.server (.rejected text))
  | .rows rows tag => .ok (rows, tag)

/-- Sends a statement and takes the next reply. -/
def send (connection : Connection) (statement : Statement) :
    Except Failure (List (List Cell) × String) × Connection :=
  (accept (connection.replies.headD silent),
    { connection with
      replies := connection.replies.tail
      sent := connection.sent ++ [statement] })

/-- A statement takes one reply and is recorded. -/
@[simp]
theorem send_sent (connection : Connection) (statement : Statement) :
    (connection.send statement).2.sent = connection.sent ++ [statement] :=
  rfl

/-- Sends statements until one fails; answers the last reply. -/
def sendAll (connection : Connection) :
    List Statement → Except Failure (List (List Cell) × String) × Connection
  | [] => (.ok ([], Reply.defaultTag), connection)
  | [statement] => connection.send statement
  | statement :: statements =>
      match connection.send statement with
      | (.error failure, connection) => (.error failure, connection)
      | (.ok _, connection) => connection.sendAll statements

/-! ## Reading replies -/

/-- A setting in words: the first value of the first row, if there is a row. -/
def readSetting : List (List Cell) → Except Failure (Option String)
  | [] => .ok none
  | row :: _ =>
      match Reply.scalar row with
      | .text value => .ok (some value)
      | .null => .error (.server .nullColumn)
      | _ => .error (.server .wrongType)

/-- A mark: the first value of the first row, if there is a row. -/
def readMark : List (List Cell) → Except Failure (Option String)
  | [] => .ok none
  | row :: _ =>
      match Reply.scalar row with
      | .boolean value => .ok (some (if value then "t" else "f"))
      | .null => .error (.server .nullColumn)
      | _ => .error (.server .wrongType)

/-- A count: the first value of the first row, which there must be.  A negative
number of 64 bits is read as the unsigned number with the same bits. -/
def readCount : List (List Cell) → Except Failure Nat
  | [] => .error (.server .noRow)
  | row :: _ =>
      match Reply.scalar row with
      | .integer value => .ok (value % (Natural.greatest + 1)).toNat
      | .null => .error (.server .nullColumn)
      | _ => .error (.server .wrongType)

/-- What the last reply to the statements of a request means. -/
def readReply (rows : List (List Cell)) (tag : String) :
    (request : Request) → Except Failure request.Reply
  | .setScanFallback _ => .ok ()
  | .setIndexEligible index _ =>
      if Reply.touched tag = 0 then .error (.unknownIndex index) else .ok ()
  | .scanFallback => readSetting rows
  | .indexEligibility _ => readMark rows
  | .countMatches _ _ => readCount rows
  | .enumerateMatches _ _ => .ok rows.length
  | .recreateTable _ => .ok ()
  | .insertRows _ _ => .ok (Reply.touched tag)
  | .createIndex _ _ => .ok ()
  | .close => .ok ()

/-! ## Requests -/

/-- Answers a request on an open connection by its statements. -/
def exchange (connection : Connection) (request : Request) :
    Response request.Reply Connection :=
  let (outcome, connection) := connection.sendAll (Statement.ofRequest request)
  ⟨outcome.bind fun (rows, tag) => readReply rows tag request, [], connection⟩

/-- Closes a connection, which is closed even if the server does not take leave.
Closing it again does nothing. -/
def disconnect (connection : Connection) : Response Unit Connection :=
  let closed := { connection with isOpen := false }
  if connection.isOpen then
    match connection.parting with
    | none => ⟨.ok (), [.serverDisconnected], closed⟩
    | some fault => ⟨.error (.server fault), [], closed⟩
  else ⟨.ok (), [], closed⟩

/-- Answers a request. -/
def answer (request : Request) (connection : Connection) : Response request.Reply Connection :=
  match request with
  | .close => connection.disconnect
  | request =>
      if connection.isOpen then connection.exchange request
      else ⟨.error .connectionClosed, [], connection⟩

/-- A request on a closed connection sends nothing and leaves it as it was. -/
theorem answer_of_closed {connection : Connection} (h : connection.isOpen = false)
    (request : Request) : (connection.answer request).state = connection := by
  cases request with
  | close =>
     cases connection
     simp_all [answer, disconnect]
  | _ => simp [answer, h]

end Connection
end Server
end IndexBench
