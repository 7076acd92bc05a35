import Verdict.Text.Unit
import Verdict.Value

/-! Values written as JSON in plain characters only: whatever lies beyond them is
escaped by its 16-bit units. -/

namespace Verdict.Json

def escapeUnit (n : Nat) : List Point := '\\' :: 'u' :: Text.hexDigits 4 n

def escape (c : Point) : List Point :=
  if c = '"' ∨ c = '\\' then [.char '\\', c]
  else if c = '\n' then [.char '\\', .char 'n']
  else if c = '\r' then [.char '\\', .char 'r']
  else if c = '\t' then [.char '\\', .char 't']
  else if c = '\x08' then [.char '\\', .char 'b']
  else if c = '\x0c' then [.char '\\', .char 'f']
  else if ' ' ≤ c ∧ c ≤ '~' then [c]
  else (Text.units c).flatMap escapeUnit

def writeString (cs : List Point) : List Point := '"' :: (cs.flatMap escape ++ [.char '"'])

/-- A double by its shortest text; the numbers without digits have names. -/
def writeDouble : Double → Text
  | .nan => "NaN"
  | .infinite negative => .ofList (Double.signed negative ("Infinity" : Text).toList)
  | x => x.text

def writeValue : Value → Except Fault Text
  | .string s => .ok (.ofList (writeString s.toList))
  | .number (.double x) => .ok (writeDouble x)
  | .number n => n.text
  | .boolean true => .ok "true"
  | .boolean false => .ok "false"
  | .absent => .ok "null"

end Verdict.Json
