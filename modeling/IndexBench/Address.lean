import IndexBench.Failure
import IndexBench.Text.Split

/-!
# Database addresses

A database is named by a URL.  Its scheme picks the engine; the rest is handed
to that engine as written.
-/

namespace IndexBench

/-- Where a database is found. -/
inductive Address where
  /-- A database server, by its whole URL. -/
  | server (url : String)
  /-- A store, by the text that opens it. -/
  | store (text : String)
  /-- A private store that lives as long as its connection. -/
  | memory
  deriving DecidableEq, Repr

namespace Address

/-- Reads the URL of a database. -/
def parse (url : String) : Except Failure Address :=
  let cs := url.toList
  if (Text.afterStart? "postgres://".toList cs).isSome ||
      (Text.afterStart? "postgresql://".toList cs).isSome then
    .ok (.server url)
  else if url = "sqlite::memory:" then .ok .memory
  else
    match Text.afterStart? "sqlite://".toList cs with
    | some (c :: rest) => .ok (.store (String.ofList (c :: rest)))
    | _ => .error (.address url)

end Address
end IndexBench
