import Verdict.Log.Setup

/-! What is written for the records of an evaluation. Handlers write them in their
format; where there is no handler, warnings are written bare. -/

namespace Verdict.Log

def number : Level → Nat
  | .debug => 10
  | .warning => 30

/-- The line of a contained fault. -/
def causeLine (f : Fault) : Text := Exception.lineOf f.title f.message

/-- A record with the time in front, and the fault that it reports on a line of its own. -/
def plainText (time : Text) (r : Record) : Text :=
  Text.intercalate " - " [time, r.source.text, r.level.text, r.message] ++ "\n" ++
    (r.cause.map fun f => causeLine f ++ "\n").getD ""

def bareText (r : Record) : Text :=
  r.message ++ "\n" ++ (r.cause.map fun f => causeLine f ++ "\n").getD ""

def structuredText (time : Text) (r : Record) : Text :=
  let cause : Option (Text × Text) := r.cause.map fun f => ("exception", causeLine f)
  let fields : List (Text × Text) := ("timestamp", time) :: ("level", r.level.text) ::
    ("logger", r.source.text) :: ("message", r.message) ::
    (r.details.map (fun (d, s) => (d.text, s)) ++ cause.toList)
  Text.intercalate " " (fields.map fun (k, v) => k ++ "=" ++ v) ++ "\n"

def Handler.text (h : Handler) (time : Text) (r : Record) : Text :=
  if number r.level < h.level then ""
  else match h.format with
    | .plain => plainText time r
    | .structured => structuredText time r

/-- What is written for a record. -/
def Root.text (root : Root) (time : Text) (r : Record) : Text :=
  if number r.level < root.level then ""
  else if root.handlers = [] then if number r.level < Root.initial.level then "" else bareText r
  else Text.join (root.handlers.map (·.text time r))

def Root.textOfRecords (root : Root) (time : Text) (rs : List Record) : Text :=
  Text.join (rs.map (root.text time))

end Verdict.Log
