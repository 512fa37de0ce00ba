import IndexBench.Regex.Fault
import IndexBench.Text.Integer
import IndexBench.Text.Quoted

/-!
# Failures

Every operation that can go wrong answers with a `Failure`, whose wording is
`Failure.message`.  Below a failure there may be a cause, and below this another
one; what is logged of a failure walks down to the last of them.

Main definitions:

- `IoFault`, `RecordFault`, `StoreFault`, `ServerFault` and `SettingsFault` are
  the faults by their origin.
- `Failure` joins them with the faults that belong to no single origin.
- `Cause` is what can be below a failure, `Cause.source?` what is below a cause.
- `Failure.report` is the text under which a failure is logged.
- `Panic` is what no operation answers with: it ends the program at once.
-/

namespace IndexBench

/-! ## Files and consoles -/

/-- Why a file or the console could not be read or written. -/
inductive IoFault where
  | notFound
  | notDirectory
  | isDirectory
  | nameTooLong
  /-- The bytes of a file are no text. -/
  | notText
  | networkUnreachable
  /-- A cause given in words by whoever owns the file or console. -/
  | reported (text : String)
  deriving DecidableEq, Repr

/-- The wording of a file or console fault. -/
def IoFault.message : IoFault → String
  | .notFound => "No such file or directory (os error 2)"
  | .notDirectory => "Not a directory (os error 20)"
  | .isDirectory => "Is a directory (os error 21)"
  | .nameTooLong => "File name too long (os error 36)"
  | .notText => "stream did not contain valid UTF-8"
  | .networkUnreachable => "Network is unreachable (os error 101)"
  | .reported text => text

/-! ## Records -/

/-- What is wrong with a record whose fields are text. -/
inductive FormatFault where
  /-- A catalog record has three fields; this one has `found`. -/
  | catalogFields (found : Nat)
  /-- A dataset record has two or three fields; this one has `found`. -/
  | datasetFields (found : Nat)
  /-- The field called `what` holds `text`, which is no number. -/
  | number (what text : String) (fault : NumberFault)
  /-- A cause given in words. -/
  | reported (text : String)
  deriving DecidableEq, Repr

/-- The wording of a format fault. -/
def FormatFault.message : FormatFault → String
  | .catalogFields found =>
      "expected 3 fields <pattern>;<low>;<high>, found " ++ Natural.render found
  | .datasetFields found =>
      "expected <path>;<value>[;<revision>], found " ++ Natural.render found ++ " fields"
  | .number what text fault => what ++ " '" ++ text ++ "': " ++ fault.message
  | .reported text => text

/-- Why a record could not be read at all. -/
inductive RecordFault where
  /-- Field `field` of record number `record`, which starts at `line` and
  `offset`, is text only in its first `valid` bytes. -/
  | notText (record line offset field valid : Nat)
  /-- The source of the records failed. -/
  | io (cause : IoFault)
  deriving DecidableEq, Repr

/-- The wording of an undecodable field. -/
def RecordFault.fieldMessage (field valid : Nat) : String :=
  "invalid utf-8: invalid UTF-8 in field " ++ Natural.render field ++
    " near byte index " ++ Natural.render valid

/-- The wording of a record fault. -/
def RecordFault.message : RecordFault → String
  | .notText record line offset field valid =>
      "CSV parse error: record " ++ Natural.render record ++ " (line " ++ Natural.render line ++
        ", field: " ++ Natural.render field ++ ", byte: " ++ Natural.render offset ++ "): " ++
        RecordFault.fieldMessage field valid
  | .io cause => cause.message

/-! ## The embedded store -/

/-- Why the embedded store refused a statement. -/
inductive StoreFault where
  | noSuchTable (name : String)
  | noSuchIndex (name : String)
  | noSuchColumn (name statement : String) (offset : Nat)
  | indexExists (name : String)
  /-- A table has the name that an index was to get. -/
  | namedTable (name : String)
  /-- An index has the name that a table was to get. -/
  | namedIndex (name : String)
  /-- Names of this form belong to the store itself. -/
  | reservedName (name : String)
  /-- The table `name` of the store itself may not be `verb`. -/
  | protectedTable (name verb : String)
  /-- A table that the store computes has no indexes. -/
  | computedTable
  /-- A table that the store computes needs to be told from what. -/
  | missingArguments (name : String)
  /-- The grammar has no place for the token at `offset` of the statement. -/
  | unexpected (token statement : String) (offset : Nat)
  | matcher (fault : Regex.Fault)
  /-- The text that opens a store has a zero byte at `offset`. -/
  | zeroByte (offset : Nat)
  /-- The store is said to be on another machine. -/
  | foreignHost (host : String)
  /-- There is no way to use a store, in respect of `what`, of this name. -/
  | noSuchMode (what name : String)
  /-- A store cannot be opened for more than was asked for before. -/
  | modeNotAllowed (name : String)
  | noSuchKeeper (name : String)
  | cannotOpen (text : String)
  /-- The journal or the log of a database cannot be opened. -/
  | cannotLog
  | notDatabase
  /-- What should be a file is a directory. -/
  | unreadable
  | readOnly
  deriving DecidableEq, Repr

/-- The wording of a store fault. -/
def StoreFault.message : StoreFault → String
  | .noSuchTable name => "no such table: " ++ name
  | .noSuchIndex name => "no such index: " ++ name
  | .noSuchColumn name statement offset =>
      "no such column: " ++ name ++ " in " ++ statement ++ " at offset " ++ Natural.render offset
  | .indexExists name => "index " ++ name ++ " already exists"
  | .namedTable name => "there is already a table named " ++ name
  | .namedIndex name => "there is already an index named " ++ name
  | .reservedName name => "object name reserved for internal use: " ++ name
  | .protectedTable name verb => "table " ++ name ++ " may not be " ++ verb
  | .computedTable => "virtual tables may not be indexed"
  | .missingArguments name => "invalid arguments to " ++ name ++ " constructor"
  | .unexpected token statement offset =>
      "near \"" ++ token ++ "\": syntax error in " ++ statement ++ " at offset " ++
        Natural.render offset
  | .matcher fault => fault.message
  | .zeroByte offset => "nul byte found in provided data at position: " ++ Natural.render offset
  | .foreignHost host => "invalid uri authority: " ++ host
  | .noSuchMode what name => "no such " ++ what ++ " mode: " ++ name
  | .modeNotAllowed name => "access mode not allowed: " ++ name
  | .noSuchKeeper name => "no such vfs: " ++ name
  | .cannotOpen text => "unable to open database file: " ++ text
  | .cannotLog => "unable to open database file"
  | .notDatabase => "file is not a database"
  | .unreadable => "disk I/O error"
  | .readOnly => "attempt to write a readonly database"

/-- The cause below a store fault: its result code in words, if it has one. -/
def StoreFault.code : StoreFault → String
  | .zeroByte offset => (StoreFault.zeroByte offset).message
  | .modeNotAllowed _ => "Error code 3: Access permission denied"
  | .readOnly => "Error code 8: Attempt to write a readonly database"
  | .unreadable => "Error code 10: Some kind of disk I/O error occurred"
  | .cannotOpen _ => "Error code 14: Unable to open the database file"
  | .cannotLog => "Error code 14: Unable to open the database file"
  | .notDatabase => "Error code 26: File opened that is not a database file"
  | _ => "Error code 1: SQL error or missing database"

/-! ## The database server -/

/-- Why a database server could not be used. -/
inductive ServerFault where
  /-- The server rejected a statement. -/
  | rejected (text : String)
  /-- The address of the server is malformed. -/
  | address (text : String)
  /-- The option `name` of the address has a value that it cannot have. -/
  | unknownOption (name value : String)
  /-- The server could not be reached. -/
  | unreachable (cause : IoFault)
  /-- A statement that must return a row returned none. -/
  | noRow
  /-- The first column of a row is null where a value is needed. -/
  | nullColumn
  /-- The first column of a row has a type other than the one needed. -/
  | wrongType
  deriving DecidableEq, Repr

/-- The wording of a column that could not be decoded. -/
def ServerFault.columnMessage : ServerFault → String
  | .nullColumn => "unexpected null; try decoding as an \x60Option\x60"
  | _ => "mismatched types"

/-- The wording of a malformed configuration of a server. -/
def ServerFault.configurationMessage (text : String) : String :=
  "error with configuration: " ++ text

/-- The wording of an option that has no value of this name. -/
def ServerFault.optionMessage (name value : String) : String :=
  "unknown value " ++ Quoted.render value ++ " for \x60" ++ name ++ "\x60"

/-- The wording of a server fault. -/
def ServerFault.message : ServerFault → String
  | .rejected text => "error returned from database: " ++ text
  | .address text => configurationMessage text
  | .unknownOption name value =>
      configurationMessage (configurationMessage (optionMessage name value))
  | .unreachable cause => "error communicating with database: " ++ cause.message
  | .noRow => "no rows returned by a query that expected to return at least one row"
  | .nullColumn => "error occurred while decoding column 0: " ++ columnMessage .nullColumn
  | .wrongType => "error occurred while decoding column 0: " ++ columnMessage .wrongType

/-! ## Settings -/

/-- Why a text is no settings document. -/
inductive DocumentFault where
  /-- The text breaks the grammar at this character, counted from zero. -/
  | grammar (position : Nat)
  /-- A key or table is defined twice. -/
  | duplicate (key : String)
  /-- Values are nested too deeply. -/
  | depth
  /-- The value of a setting has the wrong shape. -/
  | shape (setting : String)
  deriving DecidableEq, Repr

/-- The wording of a document fault. -/
def DocumentFault.message : DocumentFault → String
  | .grammar position => "TOML parse error at character " ++ Natural.render position
  | .duplicate key => "TOML parse error: duplicate key " ++ key
  | .depth => "TOML parse error: recursion limit exceeded"
  | .shape setting => "TOML parse error: invalid value for " ++ setting

/-- Why settings could not be loaded from a file. -/
inductive SettingsFault where
  | unreadable (path : String) (cause : IoFault)
  | malformed (path : String) (cause : DocumentFault)
  | missing (path : String)
  deriving DecidableEq, Repr

/-- The wording of a settings fault. -/
def SettingsFault.message : SettingsFault → String
  | .unreadable path cause => "failed to read config " ++ path ++ ": " ++ cause.message
  | .malformed path cause => "failed to parse config " ++ path ++ ": " ++ cause.message
  | .missing path => "config file " ++ path ++ " does not exist"

/-! ## All failures -/

/-- Why an operation of the library failed. -/
inductive Failure where
  | io (cause : IoFault)
  | format (line : Nat) (fault : FormatFault)
  | indexSelector (value : String)
  | tableName (name : String)
  | address (url : String)
  | unknownIndex (name : String)
  | connectionClosed
  | store (fault : StoreFault)
  | server (fault : ServerFault)
  | record (fault : RecordFault)
  | settings (fault : SettingsFault)
  deriving DecidableEq, Repr

namespace Failure

/-- The wording of a failure. -/
def message : Failure → String
  | .io cause => "I/O error: " ++ cause.message
  | .format line fault => "format error on line " ++ Natural.render line ++ ": " ++ fault.message
  | .indexSelector value =>
      "composite index must be one of \x7bvp,pv\x7d, got '" ++ value ++ "'"
  | .tableName name =>
      "invalid table name '" ++ name ++ "': expected [A-Za-z_][A-Za-z0-9_]*"
  | .address url =>
      "unsupported database url '" ++ url ++ "': expected postgres:// or sqlite://"
  | .unknownIndex name => "index '" ++ name ++ "' does not exist"
  | .connectionClosed => "connection already closed"
  | .store fault => "sqlite: " ++ fault.message
  | .server fault => "postgres: " ++ fault.message
  | .record fault => fault.message
  | .settings fault => fault.message

end Failure

/-! ## Causes -/

/-- What can be below a failure. -/
inductive Cause where
  | io (fault : IoFault)
  /-- Field `field` of a record is text only in its first `valid` bytes. -/
  | notText (field valid : Nat)
  | store (fault : StoreFault)
  /-- The result code of the store, below a fault of it. -/
  | code (fault : StoreFault)
  | server (fault : ServerFault)
  /-- A configuration of a server that is malformed, below another one. -/
  | configuration (text : String)
  /-- A cause that is known by its wording only. -/
  | reported (text : String)
  | document (fault : DocumentFault)
  deriving DecidableEq, Repr

namespace Cause

/-- The wording of a cause. -/
def message : Cause → String
  | .io fault => fault.message
  | .notText field valid => RecordFault.fieldMessage field valid
  | .store fault => fault.message
  | .code fault => fault.code
  | .server fault => fault.message
  | .configuration text => ServerFault.configurationMessage text
  | .reported text => text
  | .document fault => fault.message

/-- The cause right below a cause, if there is one. -/
def source? : Cause → Option Cause
  | .store fault => some (.code fault)
  | .server (.rejected text) => some (.reported text)
  | .server (.address text) => some (.reported text)
  | .server (.unknownOption name value) =>
      some (.configuration (ServerFault.optionMessage name value))
  | .server (.unreachable cause) => some (.io cause)
  | .server .nullColumn => some (.reported (ServerFault.columnMessage .nullColumn))
  | .server .wrongType => some (.reported (ServerFault.columnMessage .wrongType))
  | .configuration text => some (.reported text)
  | _ => none

/-- A bound on the number of causes below a cause. -/
def height : Cause → Nat
  | .server _ => 2
  | .store _ => 1
  | .configuration _ => 1
  | _ => 0

/-- The cause right below a cause has fewer below it. -/
theorem height_lt_of_source? {cause source : Cause} (h : cause.source? = some source) :
    source.height < cause.height := by
  unfold source? at h
  split at h <;> cases h <;> simp [height]

/-- The wording of a cause and of every one below it, outermost first. -/
def chain (cause : Cause) : List String :=
  cause.message ::
    match _h : cause.source? with
    | none => []
    | some source => source.chain
termination_by cause.height
decreasing_by exact height_lt_of_source? _h

/-- A cause that has one below it is worded before it. -/
theorem chain_of_source?_eq_some {cause source : Cause} (h : cause.source? = some source) :
    cause.chain = cause.message :: source.chain := by
  rw [chain]
  split
  · rename_i hnone
    rw [hnone] at h
    cases h
  · rename_i other hother
    rw [hother] at h
    rw [Option.some.inj h]

/-- A cause with none below it is worded alone. -/
theorem chain_of_source?_eq_none {cause : Cause} (h : cause.source? = none) :
    cause.chain = [cause.message] := by
  rw [chain]
  split
  · rfl
  · rename_i other hother
    rw [hother] at h
    cases h

end Cause

namespace Failure

/-- The cause right below a failure, if there is one. -/
def source? : Failure → Option Cause
  | .io cause => some (.io cause)
  | .store fault => some (.store fault)
  | .server fault => some (.server fault)
  | .record (.io cause) => some (.io cause)
  | .record (.notText _ _ _ field valid) => some (.notText field valid)
  | .settings (.unreadable _ cause) => some (.io cause)
  | .settings (.malformed _ cause) => some (.document cause)
  | _ => none

/-- The wording of the causes below a failure, outermost first. -/
def causes (failure : Failure) : List String :=
  match failure.source? with
  | none => []
  | some cause => cause.chain

/-- The text under which a failure is logged: its wording, and that of every cause below it. -/
def report (failure : Failure) : String :=
  failure.causes.foldl (fun text cause => text ++ ": " ++ cause) failure.message

end Failure

/-! ## Panics -/

/-- What ends a program at once, without a failure that could be handled. -/
inductive Panic where
  /-- A buffer was to be larger than any can be. -/
  | capacityOverflow
  deriving DecidableEq, Repr

/-- The wording of a panic. -/
def Panic.message : Panic → String
  | .capacityOverflow => "capacity overflow"

end IndexBench
