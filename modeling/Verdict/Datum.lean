import Verdict.Value
import Verdict.Vocabulary

/-! Data of any shape, as callers and context files supply them. Only scalars have a
reading as a value; all else counts as absent. -/

namespace Verdict

/-- Kinds of data that are carried along and never looked into. -/
inductive OtherKind where
  | date | datetime | bytes | set | pair
  deriving DecidableEq

inductive Datum where
  | null
  | boolean (b : Bool)
  | number (n : Number)
  | string (s : Text)
  | list (items : List Datum)
  | mapping (entries : List (Datum × Datum))
  | value (v : Value)
  | symbol (s : Symbol)
  | other (kind : OtherKind) (text : Text)

instance : Inhabited Datum := ⟨.null⟩

namespace OtherKind

def text : OtherKind → Text
  | .date => "date"
  | .datetime => "datetime"
  | .bytes => "bytes"
  | .set => "set"
  | .pair => "tuple"

end OtherKind

namespace Datum

/-- The name of the kind of a datum in messages. -/
def kind : Datum → Text
  | .null => "NoneType"
  | .boolean _ => "bool"
  | .number (.int _) => "int"
  | .number (.double _) => "float"
  | .string _ => "str"
  | .list _ => "list"
  | .mapping _ => "dict"
  | .value _ => "Value"
  | .symbol s => s.family
  | .other k _ => k.text

/-- Whether a datum counts as given: nothing, zero and whatever is empty do not. -/
def isGiven : Datum → Bool
  | .null => false
  | .boolean b => b
  | .number n => !n.isZero
  | .string s => s != ""
  | .list items => !items.isEmpty
  | .mapping entries => !entries.isEmpty
  | .value _ | .symbol _ | .other .. => true

/-- The value that a datum stands for. A NaN has no scalar reading. -/
def toValue : Datum → Value
  | .value v => v
  | .boolean b => .boolean b
  | .number n => if n.isNaN then .absent else .number n
  | .string s => .string s
  | .symbol s => .string s.text
  | .null | .list _ | .mapping _ | .other .. => .absent

/-- The text of a datum that is a word, given as text or as a constant. -/
def word? : Datum → Option Text
  | .string s => some s
  | .symbol s => some s.text
  | _ => none

/-! ### Mappings -/

/-- The entry under a text key. -/
def lookup (name : Text) : List (Datum × Datum) → Option Datum
  | [] => none
  | (.string key, d) :: rest => if key = name then some d else lookup name rest
  | _ :: rest => lookup name rest

/-! ### Text -/

def quotedText (s : Text) : Text := .ofList (Text.quoted s.toList)

/-- The shape of a value in a message that shows data. -/
def inspectValue (v : Value) : Except Fault Text := do
  let raw ← match v with
    | .string s => .ok (quotedText s)
    | .number n => n.text
    | .boolean b => .ok (Value.booleanText b)
    | .absent => .ok "None"
  let kind := v.kind.text
  return "Value(kind=<ValueKind." ++ .ofList (Text.toUpper kind.toList) ++ ": '" ++ kind ++
    "'>, raw=" ++ raw ++ ")"

mutual

/-- A datum with its structure visible: texts quoted, lists and mappings bracketed. -/
def inspect : Datum → Except Fault Text
  | .null => .ok "None"
  | .boolean b => .ok (Value.booleanText b)
  | .number n => n.text
  | .string s => .ok (quotedText s)
  | .list items => do return "[" ++ Text.intercalate ", " (← inspectItems items) ++ "]"
  | .mapping entries => do
    return "\x7b" ++ Text.intercalate ", " (← inspectEntries entries) ++ "\x7d"
  | .value v => inspectValue v
  | .symbol s => .ok s.inspect
  | .other _ text => .ok text

def inspectItems : List Datum → Except Fault (List Text)
  | [] => .ok []
  | d :: ds => do return (← inspect d) :: (← inspectItems ds)

def inspectEntries : List (Datum × Datum) → Except Fault (List Text)
  | [] => .ok []
  | (k, d) :: ds => do
    return ((← inspect k) ++ ": " ++ (← inspect d)) :: (← inspectEntries ds)

end

/-- A datum inside a sentence: a text or constant as it is, all else with its structure. -/
def display : Datum → Except Fault Text
  | .string s => .ok s
  | .symbol s => .ok s.display
  | d => d.inspect

end Datum

namespace Value

/-- The content of a value as a datum. -/
def raw : Value → Datum
  | .string s => .string s
  | .number n => .number n
  | .boolean b => .boolean b
  | .absent => .null

end Value

end Verdict
