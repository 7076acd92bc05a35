import Verdict.Command.Arguments
import Verdict.ContextFile
import Verdict.Engine
import Verdict.Expression.Reader
import Verdict.Json.Writer
import Verdict.Log.Stream

/-! What a request answers: a status and the texts for the two output streams. -/

namespace Verdict.Command

structure Report where
  status : Nat
  output : Text := ""
  errors : Text := ""
  deriving DecidableEq

/-- What a run depends on besides its words. -/
structure Surroundings where
  settings : Settings := {}
  /-- The time that log lines show. -/
  time : Text
  /-- What paths lead to. -/
  target : Path → Target
  /-- What reads the documents in context files. -/
  reader : DocumentReader
  /-- How many levels deep containers in JSON texts are decoded. -/
  levels : Nat

def Refusal.report : Refusal → Report
  | .help => { status := 0 }
  | .usage e => { status := 2, errors := e.message ++ "\n" }

namespace Request

/-- The entries of the context that is asked for; without one there are none. -/
def entries (r : Request) (s : Surroundings) : Except Fault (List (Datum × Datum)) :=
  match r.context with
  | none => .ok []
  | some text =>
    let path := Path.ofText text
    ContextFile.load s.reader path (s.target path)

/-- An operand of a comparison; what is no text has no reading. -/
def readOperand (levels : Nat) : Datum → Except Fault Operand
  | .string s => Operand.read levels s
  | d => .error (.notJson d.kind)

/-- The outcome of the comparison of three operands. -/
def compare (r : Request) (levels : Nat) (e : Engine) (values : Values) : Traced Outcome := do
  let lhs ← .ofExcept (readOperand levels (r.operands[0]?.getD .null))
  let rhs ← .ofExcept (readOperand levels (r.operands[2]?.getD .null))
  let option : Datum := if r.ignoresCase then .symbol (.option .caseInsensitive) else .null
  e.evaluate (.comparison lhs (r.operands[1]?.getD .null) rhs) values option

def outcomeReport : Outcome → Report
  | .success => { status := 0, output := "true\n" }
  | .failure reason _ => { status := 1, output := "false\n", errors := reason ++ "\n" }

/-- The answer of a verb in a context. -/
def answer (r : Request) (levels : Nat) (e : Engine) (values : Values) : Traced Report :=
  let operand := r.operands.head?.getD .null
  match r.verb with
  | .resolve => do
    let v ← e.resolve operand values
    let text ← .ofExcept (Json.writeValue v)
    return { status := 0, output := text ++ "\n" }
  | .render => do return { status := 0, output := (← e.render operand values) ++ "\n" }
  | .compare => do return outcomeReport (← r.compare levels e values)

/-- The logging that is asked for; without a level nothing is set up. -/
def logging (r : Request) (s : Surroundings) : Except Fault Log.Root :=
  match r.logLevel with
  | none | some "" => .ok .initial
  | some level => Log.setUp s.settings (some level) .initial

def run (r : Request) (s : Surroundings) : Except Fault Report := do
  let root ← r.logging s
  match r.entries s with
  | .error (.contextFile path error) =>
    return { status := 2, errors := "error: " ++ error.message path ++ "\n" }
  | .error f => throw f
  | .ok entries =>
    let t := r.answer s.levels (.ofSettings s.settings none) (.data (.mapping entries))
    let report ← t.outcome
    return { report with errors := root.textOfRecords s.time t.records ++ report.errors }

end Request

/-- The report of a whole command line. -/
def run (words : List Text) (s : Surroundings) : Except Fault Report :=
  match Request.ofWords words with
  | .error refusal => .ok refusal.report
  | .ok r => r.run s

end Verdict.Command
