import Verdict.Transform

/-! The transforms every rule can use: `int`, `double`, `string` and `bool`. Text that is
no number and data that is no scalar are returned as they are. -/

namespace Verdict

namespace Number

/-- The integer part of a number. -/
def toInt : Number → Except Fault Int
  | .int n => .ok n
  | .double .nan => .error .nanToInteger
  | .double x =>
    match x.truncate? with
    | some n => .ok n
    | none => .error .infinityToInteger

def toDouble : Number → Except Fault Double
  | .double x => .ok x
  | .int n => (Double.ofInt? n).elim (.error .integerTooLarge) .ok

end Number

namespace Builtin

/-- Converts what reads as a number, truth values included, and nothing else. -/
def convertNumber (convert : Number → Except Fault Number) (d : Datum) : Except Fault Datum :=
  match d.toValue with
  | .boolean b => (convert (.int (if b then 1 else 0))).map .number
  | .number n => (convert n).map .number
  | .string s =>
    match Number.read? s.toList with
    | some n => (convert n).map .number
    | none => .ok d
  | .absent => .ok d

/-- The integer part of a number or of the number that a text writes. -/
def int : Datum → Except Fault Datum := convertNumber fun n => n.toInt.map .int

/-- The nearest double of a number or of the number that a text writes. -/
def double : Datum → Except Fault Datum := convertNumber fun n => n.toDouble.map .double

/-- The text of a value as templates print it. -/
def string (d : Datum) : Except Fault Datum :=
  match d.toValue with
  | .absent => .ok (.value .absent)
  | v => v.text.map .string

/-- Whether a number is not zero, or a text is the word `true`. -/
def bool (d : Datum) : Except Fault Datum :=
  match d.toValue with
  | .number n => .ok (.boolean (!n.isZero))
  | .string s => .ok (.boolean (normalWord s == "true"))
  | _ => .ok d

def all : List Transform := [⟨"int", int⟩, ⟨"double", double⟩, ⟨"string", string⟩, ⟨"bool", bool⟩]

end Builtin

/-- The registry of the built-in transforms under their own names. -/
def Registry.builtins : Registry :=
  Builtin.all.foldl (fun r t => r.insert t.label t) .empty

end Verdict
