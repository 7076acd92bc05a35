import Verdict.Fault
import Verdict.Number.Basic
import Verdict.Text.Quoted

/-! Resolved values: strings, numbers, truth values, and the mark of whatever could not
be resolved, which is not the empty string. -/

namespace Verdict

inductive Value where
  | string (s : Text)
  | number (n : Number)
  | boolean (b : Bool)
  | absent
  deriving DecidableEq

inductive ValueKind where
  | string | number | boolean | absent
  deriving DecidableEq

def ValueKind.text : ValueKind → Text
  | .string => "string"
  | .number => "number"
  | .boolean => "boolean"
  | .absent => "absent"

namespace Number

/-- A number with all its digits; integers past the limit have no text. -/
def text : Number → Except Fault Text
  | .int n => if Numeral.fitsText n then .ok (Numeral.writeInt n) else .error .digitLimit
  | .double x => .ok x.text

/-- The text of a number in a template, where a double without fractional part is an integer. -/
def templateText (n : Number) : Except Fault Text :=
  match n with
  | .double x =>
    match x.isIntegral, x.truncate? with
    | true, some i => .ok (Numeral.writeInt i)
    | _, _ => n.text
  | .int _ => n.text

end Number

namespace Value

def kind : Value → ValueKind
  | .string _ => .string
  | .number _ => .number
  | .boolean _ => .boolean
  | .absent => .absent

def isAbsent : Value → Bool
  | .absent => true
  | _ => false

def isNaN : Value → Bool
  | .number n => n.isNaN
  | _ => false

/-- The text that a value leaves in a template. -/
def text : Value → Except Fault Text
  | .string s => .ok s
  | .number n => n.templateText
  | .boolean true => .ok "true"
  | .boolean false => .ok "false"
  | .absent => .ok ""

/-- How messages show a truth value. -/
def booleanText (b : Bool) : Text := if b then "True" else "False"

/-- The kind and content of a value, as failure reasons give them. -/
def describe : Value → Except Fault Text
  | .string s => .ok ("string " ++ .ofList (Text.quoted s.toList))
  | .number n => do return "number " ++ (← n.text)
  | .boolean b => .ok ("boolean " ++ booleanText b)
  | .absent => .ok "<absent>"

end Value

end Verdict
