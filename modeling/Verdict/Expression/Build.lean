import Verdict.Expression

/-! Checked construction of expressions: operands have to be operands, and the children
of a group expressions. -/

namespace Verdict

/-- Refuses what is not an operand; `role` says where it stands. -/
def Operand.check (role : Text) : Operand → Except Fault Unit
  | .other d => .error (.notOperand role d.kind)
  | .literal _ | .token _ => .ok ()

namespace Expression

def check : Expression → Except Fault Unit
  | .stray kind => .error (.notExpression kind)
  | _ => .ok ()

/-- A comparison of two operands; the left one is checked first. -/
def buildComparison (lhs : Operand) (operator : Datum) (rhs : Operand) :
    Except Fault Expression := do
  lhs.check "lhs"
  rhs.check "rhs"
  return .comparison lhs operator rhs

def buildPresence (operand : Operand) (operator : Datum) : Except Fault Expression := do
  operand.check "operand"
  return .presence operand operator

/-- A group as it is, its operator read from a datum. -/
def ofParts (operator : Datum) (children : List Expression) : Expression :=
  .group (GroupOperator.ofDatum operator) children

def buildGroup (operator : Datum) (children : List Expression) : Except Fault Expression := do
  children.forM check
  return ofParts operator children

end Expression

/-- What a datum holds when it is taken for the children of a group: the characters of a
text, the items of a list, the keys of a mapping. None of them is an expression. -/
def Datum.strays (d : Datum) : Except Fault (List Expression) :=
  match d with
  | .string s => .ok (s.toList.map fun _ => .stray "str")
  | .symbol s => .ok (s.text.toList.map fun _ => .stray "str")
  | .list items => .ok (items.map (.stray ·.kind))
  | .mapping entries => .ok (entries.map (.stray ·.1.kind))
  | d => .error (.notIterable d.kind)

end Verdict
