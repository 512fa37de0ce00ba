import IndexBench.Disk
import IndexBench.Server.Connection
import IndexBench.Server.Url
import IndexBench.Store.Connection

/-!
# Machines

A machine has a disk, a network and at most one open connection.  It answers
every action of a script.

Main definitions:

- `Link` is an open connection of either kind, and `Anchor` where an open store lives.
- `Machine` is a machine; `Machine.connect` and `Machine.answer` are its moves.
- `Machine.environment` makes it an environment for scripts.
-/

namespace IndexBench

/-- What becomes of a connection to a server. -/
inductive Network where
  | unreachable
  /-- A server that gives these replies. -/
  | serving (replies : List Server.Reply)
  deriving DecidableEq, Repr

/-- Where an open store lives. -/
inductive Anchor where
  /-- With its connection only. -/
  | hidden
  /-- In memory, within reach by its name. -/
  | pool (name : String)
  /-- In a file. -/
  | file (place : Place)
  deriving DecidableEq, Repr

/-- An open connection. -/
inductive Link where
  /-- To a store, whose pages may be shared. -/
  | store (anchor : Anchor) (pages : Option Store.Pages) (connection : Store.Connection)
  | server (connection : Server.Connection)
  deriving DecidableEq, Repr

/-- A machine. -/
structure Machine where
  disk : Disk
  network : Network
  link : Option Link
  deriving DecidableEq, Repr

/-- The kind of engine that an address leads to. -/
def Address.engine : Address → EngineKind
  | .server _ => .server
  | .store _ => .embedded
  | .memory => .embedded

namespace Machine

/-! ## Connecting -/

/-- A machine with a new connection to a store. -/
def attach (machine : Machine) (anchor : Anchor) (pages : Option Store.Pages)
    (connection : Store.Connection) : Machine :=
  { machine with link := some (.store anchor pages connection) }

/-- The open store that a new connection shares pages with. -/
def sharing? (machine : Machine) (pages : Option Store.Pages) :
    Option (Anchor × Store.Connection) :=
  match machine.link with
  | some (.store anchor own connection) =>
      if own.isSome && own = pages then some (anchor, connection) else none
  | _ => none

/-- The database in memory within reach by a name. -/
def pooled (machine : Machine) (name : String) : Store.Database :=
  match machine.link with
  | some (.store (.pool own) _ connection) =>
      if own = name then connection.database else .empty
  | _ => .empty

/-- Whether the open connection uses the file at a place. -/
def uses (machine : Machine) (place : Place) : Bool :=
  match machine.link with
  | some (.store anchor _ _) => anchor = .file place
  | _ => false

/-- Opens the store in the file at a place.  A log that nobody uses is settled
first. -/
def openFile (machine : Machine) (text : String) (locator : Store.Locator) (place : Place)
    (pages : Option Store.Pages) : Except StoreFault Unit × Machine :=
  match machine.disk.stored place text locator.mode with
  | .error fault => (.error fault, machine)
  | .ok found =>
      let touched := { machine with disk := machine.disk.touch place }
      let found := if machine.uses place then found else found.settle
      let hasRoom := Disk.hasRoomBeside place
      match found.enter locator hasRoom with
      | .error fault => (.error fault, touched)
      | .ok kept =>
          if locator.frozen then
            (.ok (), touched.attach .hidden pages (.opened kept.withoutLog locator.refusal))
          else
            let refusal := locator.refusal.or (if hasRoom then none else some .cannotLog)
            (.ok (),
              { touched with disk := touched.disk.put place (.database kept) }.attach
                (.file place) pages (.opened kept.database refusal))

/-- Opens the store that a locator leads to. -/
def openLocator (machine : Machine) (text : String) (locator : Store.Locator) :
    Except StoreFault Unit × Machine :=
  let place? :=
    match locator.site with
    | .file name => machine.disk.storePlace? name
    | _ => none
  let pages := locator.pages? place?
  match machine.sharing? pages, locator.site, place? with
  | some (anchor, connection), _, _ => (.ok (), machine.attach anchor pages connection.renewed)
  | none, .hidden, _ =>
      (.ok (), machine.attach .hidden pages (.opened .empty locator.refusal))
  | none, .pool name, _ =>
      (.ok (), machine.attach (.pool name) pages
        (.opened (machine.pooled name) locator.refusal))
  | none, .file _, some place => machine.openFile text locator place pages
  | none, .file _, none => (.error (.cannotOpen text), machine)

/-- Connects to a store in memory. -/
def openMemory (machine : Machine) : Response Unit Machine :=
  ⟨.ok (), [], machine.attach .hidden none (.opened .empty none)⟩

/-- Connects to the store that a text opens. -/
def openStore (machine : Machine) (text : String) : Response Unit Machine :=
  match Store.Locator.parse text with
  | .error fault => ⟨.error (.store fault), [], machine⟩
  | .ok locator =>
      let (outcome, machine) := machine.openLocator text locator
      ⟨outcome.mapError .store, [], machine⟩

/-- Connects to a server. -/
def openServer (machine : Machine) (url : String) : Response Unit Machine :=
  match Server.urlFault? url, machine.network with
  | some fault, _ => ⟨.error (.server fault), [], machine⟩
  | none, .unreachable => ⟨.error (.server (.unreachable .networkUnreachable)), [], machine⟩
  | none, .serving replies =>
      ⟨.ok (), [.serverConnected], { machine with link := some (.server (.opened replies)) }⟩

/-- Connects to a database in place of the open connection, which stays open if
that fails. -/
def connect (address : Address) (machine : Machine) : Response Unit Machine :=
  match address with
  | .memory => machine.openMemory
  | .store text => machine.openStore text
  | .server url => machine.openServer url

/-! ## Requests -/

/-- A machine after a request to its store, which is kept on the disk if it lives
there. -/
def keep (machine : Machine) (anchor : Anchor) (pages : Option Store.Pages)
    (connection : Store.Connection) : Machine :=
  match anchor with
  | .file place =>
      { machine with disk := machine.disk.change place connection.database }.attach anchor pages
        connection
  | _ => machine.attach anchor pages connection

/-- Answers a request by the open connection. -/
def answer (request : Request) (machine : Machine) : Response request.Reply Machine :=
  match machine.link with
  | none => ⟨.error .connectionClosed, [], machine⟩
  | some (.store anchor pages connection) =>
      let response := connection.answer request
      ⟨response.outcome, response.events, machine.keep anchor pages response.state⟩
  | some (.server connection) =>
      let response := connection.answer request
      ⟨response.outcome, response.events, { machine with link := some (.server response.state) }⟩

/-- A machine as an environment for scripts. -/
def environment (stopwatch : Nat → Nat) : Environment Machine where
  answer := answer
  connect := connect
  inspect path machine := machine.disk.read path
  save path bytes machine :=
    (machine.disk.write path bytes).map fun disk => { machine with disk := disk }
  stopwatch := stopwatch

end Machine
end IndexBench
