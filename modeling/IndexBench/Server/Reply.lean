import IndexBench.Failure

/-!
# Replies of a server

A server rejects a statement or answers it with rows and a command tag, whose
last word counts the rows that the statement touched.  It can also break off
after some rows and reject the statement then.
-/

namespace IndexBench
namespace Server

/-- A value in a row. -/
inductive Cell where
  | null
  | boolean (value : Bool)
  | integer (value : Int)
  | text (value : String)
  deriving DecidableEq, Repr

/-- The answer of a server to a statement. -/
inductive Reply where
  | rejected (text : String)
  | rows (rows : List (List Cell)) (tag : String)
  /-- Rows, and then a rejection in place of more rows and the tag. -/
  | interrupted (rows : List (List Cell)) (text : String)
  deriving DecidableEq, Repr

namespace Reply

/-- The tag of an answer that names none. -/
def defaultTag : String := "SELECT 0"

/-- The last word of a text. -/
def lastWord (cs : List Char) : List Char :=
  (cs.reverse.takeWhile (· != ' ')).reverse

/-- Number of rows that a command tag counts: none, if its last word is no
number or its only word. -/
def touched (tag : String) : Nat :=
  if tag.toList.contains ' ' then
    match Natural.parse (String.ofList (lastWord tag.toList)) with
    | .ok n => n
    | .error _ => 0
  else 0

/-- The first value of a row. -/
def scalar : List Cell → Cell
  | [] => .null
  | cell :: _ => cell

end Reply
end Server
end IndexBench
