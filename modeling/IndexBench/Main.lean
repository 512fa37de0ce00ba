import IndexBench.Command.Prepare

/-!
# The program

Runs a command on the machine at hand: the file system, the console and a clock.
The program holds both commands and runs the one whose name it is started under.
Events go to standard error from the level that the variable `PATHBENCH_LOG`
names, which is `warn` if it names none.

Main definitions:

- `Host` is what a command runs on; `Host.answer` performs an action.
- `Host.survey` looks at the disk at hand, `Host.writeBack` writes to it.
- `main` is the program.
-/

namespace IndexBench

/-- What a command runs on: a machine with as much of the disk at hand as its
open store needs. -/
abbrev Host : Type := IO.Ref Machine

namespace Host

/-! ## Files -/

/-- The number of the error that a file is no directory. -/
def notDirectoryCode : UInt32 := 20

/-- The number of the error that a name is too long. -/
def nameTooLongCode : UInt32 := 36

/-- Whether an error has a number, of either sign. -/
def hasCode (code expected : UInt32) : Bool :=
  code = expected || code = -expected

/-- The fault behind an error of the system. -/
def faultOf : IO.Error → IoFault
  | .noFileOrDirectory .. => .notFound
  | .inappropriateType _ code _ =>
      if hasCode code notDirectoryCode then .notDirectory else .isDirectory
  | .invalidArgument name code text =>
      if hasCode code nameTooLongCode then .nameTooLong
      else .reported (toString (IO.Error.invalidArgument name code text))
  | error => .reported (toString error)

/-- What an attempt yields, or the fault behind its error. -/
def attempt {α : Type} (action : IO α) : IO (Except IoFault α) := do
  match ← action.toBaseIO with
  | .ok value => return .ok value
  | .error error => return .error (faultOf error)

/-- What is found at a path. -/
def inspect (path : String) : IO FileState := do
  match ← attempt (IO.FS.readBinFile path) with
  | .ok bytes => return .file bytes.data.toList
  | .error .notFound => return .absent
  | .error .isDirectory => return .directory
  | .error .nameTooLong => return .tooLong
  | .error _ => return .blocked

/-- Writes a file. -/
def save (path : String) (bytes : List UInt8) : IO (Except IoFault Unit) :=
  attempt (IO.FS.writeBinFile path ⟨bytes.toArray⟩)

/-! ## Databases -/

/-- The name of the file that a store is kept in, if it is kept in one. -/
def fileName? (text : String) : Option String :=
  match Store.Locator.parse text with
  | .error _ => none
  | .ok locator =>
      match locator.site with
      | .file name => some name
      | _ => none

/-- Looks at a place of the disk at hand. -/
def look (disk : Disk) (place : Place) : IO Disk := do
  match ← inspect place.path with
  | .directory => return disk.put place .directory
  | .file bytes => return disk.put place (.file bytes)
  | _ => return disk

/-- As much of the disk at hand as is needed to open a store. -/
def survey (text : String) : IO Disk := do
  let home := (Place.names (← IO.currentDir).toString).filter (· != "")
  let disk := Disk.empty home
  match fileName? text with
  | none => return disk
  | some name => (disk.storeTrail name).foldlM look disk

/-- Writes what stands at a place now, unless it was there before. -/
def writeBack (before after : Disk) (place : Place) : IO (Except IoFault Unit) := do
  let node := after.node? place
  if node = before.node? place then return .ok ()
  match node.bind Node.bytes? with
  | some bytes => save place.path bytes
  | none => return .ok ()

/-- Connects to the store that a text opens. -/
def openStore (host : Host) (text : String) : IO (Except Failure Unit) := do
  let machine := { ← host.get with disk := ← survey text }
  let response := machine.openStore text
  let place? := (fileName? text).bind machine.disk.storePlace?
  let written ←
    match place? with
    | some place => writeBack machine.disk response.state.disk place
    | none => pure (.ok ())
  match response.outcome, written with
  | .error failure, _ => return .error failure
  | .ok (), .error _ => return .error (.store (.cannotOpen text))
  | .ok (), .ok () =>
      host.set response.state
      return .ok ()

/-- Connects to a database. -/
def connect (host : Host) : Address → IO (Except Failure Unit)
  | .store text => openStore host text
  | address => do
      let response := Machine.connect address (← host.get)
      host.set response.state
      return response.outcome

/-- Writes the open store back to the file that keeps it. -/
def finish (host : Host) : IO Unit := do
  let machine ← host.get
  match machine.link with
  | some (.store (.file place) _ connection) =>
      if connection.refusal.isNone then
        let _ ← writeBack (.empty []) machine.disk place
  | _ => pure ()

/-! ## Actions -/

/-- Notes an event on standard error. -/
def note (threshold : Level) (event : Event) : IO Unit := do
  if threshold.shows event.level then IO.eprintln event.render

/-- Sends a request to the open connection. -/
def call (threshold : Level) (host : Host) (request : Request) :
    IO (Except Failure request.Reply) := do
  let response := Machine.answer request (← host.get)
  host.set response.state
  response.events.forM (note threshold)
  return response.outcome

/-- Performs an action. -/
def answer (threshold : Level) (host : Host) : (action : Action) → IO action.Answer
  | .call request => call threshold host request
  | .measure request => do
      let start ← IO.monoMsNow
      let outcome ← call threshold host request
      let stop ← IO.monoMsNow
      return outcome.map fun reply => (reply, stop - start)
  | .write text => attempt (do
      let console ← IO.getStdout
      console.putStr text
      console.flush)
  | .note event => note threshold event
  | .connect address => connect host address
  | .inspect path => inspect path
  | .save path bytes => save path bytes

end Host

/-- The variables that a command may look up. -/
def variableNames : List String :=
  [Command.databaseVariable, Command.settingsVariable, "XDG_CONFIG_HOME", "HOME"]

/-- Reads the variables that a command may look up. -/
def readVariables : IO Command.Variables := do
  let values ← variableNames.mapM fun name => do return (name, ← IO.getEnv name)
  return fun name => (values.lookup name).join

/-- The level from which events are shown. -/
def readThreshold : IO Level := do
  return ((← IO.getEnv "PATHBENCH_LOG").bind Level.ofName?).getD .warn

/-- The command of a name. -/
def commandOf (name : Option String) : Command.Variables → List String → Script Command.Exit :=
  if name = some Command.Prepare.name then Command.Prepare.command else Command.Benchmark.command

end IndexBench

open IndexBench

/-- The program. -/
def main (arguments : List String) : IO UInt32 := do
  let command := commandOf (← IO.appPath).fileName
  let host ← IO.mkRef ⟨.empty [], .unreachable, none⟩
  let script := command (← readVariables) arguments
  let exit ← script.foldM (Host.answer (← readThreshold) host)
  Host.finish host
  match exit.complaint with
  | some complaint => IO.eprintln complaint
  | none => pure ()
  return exit.status.toUInt32
