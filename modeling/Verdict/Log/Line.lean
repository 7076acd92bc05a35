import Verdict.Log.Directive

/-! Log lines. A structured line is a row of `key=value` fields: time, level, logger and
message, then the details that are set, then the exception. -/

namespace Verdict.Log

/-- The levels that have names; some have two, and the first is the one shown. -/
def levels : List (Text × Nat) := [
  ("NOTSET", 0), ("DEBUG", 10), ("INFO", 20), ("WARNING", 30), ("ERROR", 40), ("CRITICAL", 50),
  ("WARN", 30), ("FATAL", 50)]

/-- The name of a level, or its number where it has none. -/
def levelName (n : Int) : Text :=
  match levels.find? fun (_, m) => (m : Int) = n with
  | some (name, _) => name
  | none => "Level " ++ toString n

/-- An exception with what it was raised with. -/
structure Exception where
  title : Text
  arguments : List Datum

namespace Exception

/-- The text of an exception: its one argument, or all of them in parentheses. -/
def message (e : Exception) : Except Fault Text :=
  match e.arguments with
  | [] => .ok ""
  | [d] => if e.title = "KeyError" then d.inspect else d.display
  | ds => do return "(" ++ Text.intercalate ", " (← Datum.inspectItems ds) ++ ")"

/-- A title and a message on one line, the title alone where there is no message. -/
def lineOf (title message : Text) : Text :=
  if message = "" then title else title ++ ": " ++ message

def line (e : Exception) : Except Fault Text := do return lineOf e.title (← e.message)

end Exception

/-- A record as any part of a program may hand it in. -/
structure Entry where
  time : Text
  level : Int
  logger : Text
  message : Text
  arguments : List Datum
  details : List (Text × Datum)
  exception : Option Exception

/-- The details that lines show, in their order. -/
def shownDetails : List Text := ["token", "transform", "operator", "failure_type"]

/-- The fields of a structured line. -/
def Entry.fields (e : Entry) : Except Fault (List (Text × Text)) := do
  let message ← fillIn e.message e.arguments
  let exception ← match e.exception with
    | some x => do pure [(("exception" : Text), ← x.line)]
    | none => pure []
  let details ← (shownDetails.filterMap fun name => (e.details.lookup name).map (name, ·)).mapM
    fun (name, d) => do return (name, ← d.display)
  return ("timestamp", e.time) :: ("level", levelName e.level) :: ("logger", e.logger) ::
    ("message", message) :: (details ++ exception)

def Entry.structuredLine (e : Entry) : Except Fault Text := do
  return Text.intercalate " " ((← e.fields).map fun (k, v) => k ++ "=" ++ v)

end Verdict.Log
