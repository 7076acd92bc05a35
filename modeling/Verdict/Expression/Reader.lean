import Verdict.Expression
import Verdict.Json.Nesting

/-! Operands written on a command line. -/

namespace Verdict.Operand

/-- Token text is a token; a JSON scalar is the literal it writes; any other text is a
literal string. Containers are decoded, so many levels deep, only to be dropped. -/
def read (levels : Nat) (text : Text) : Except Fault Operand :=
  if (Token.parse? text.toList).isSome then .ok (.token (.string text))
  else match Json.overflow? levels .start (Json.lexemes text.toList) with
    | some overflow => .error (.tooDeep overflow.text)
    | none =>
      match Json.readScalar text.toList with
      | some v => .ok (.literal v.raw.toValue)
      | none => .ok (.literal (.string text))

end Verdict.Operand
