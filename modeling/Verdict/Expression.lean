import Verdict.Comparison

/-! Expression trees over operands, and their evaluation. A group evaluates its children
in order and stops as soon as its outcome is known. -/

namespace Verdict

/-! ### Operands -/

inductive Operand where
  | literal (v : Value)
  /-- Token text, parsed anew on every evaluation. -/
  | token (text : Datum)
  /-- Anything else in an operand's place; it is absent. -/
  | other (d : Datum)

namespace Operand

/-- The name of the kind of an operand in messages. -/
def kind : Operand → Text
  | .literal _ => "Literal"
  | .token _ => "MustacheToken"
  | .other d => d.kind

def resolve (ctx : Context) : Operand → Traced Value
  | .literal v => return v
  | .token text =>
    match Token.ofDatum? text with
    | some t => ctx.resolveToken t
    | none => return .absent
  | .other _ => return .absent

end Operand

/-! ### Trees -/

/-- What joins a group: a known operator, or whatever else was given, kept as it is. -/
inductive GroupOperator where
  | known (op : LogicalOperator)
  | kept (given : Datum)

def GroupOperator.ofDatum (d : Datum) : GroupOperator :=
  match d.word?.bind LogicalOperator.ofWord? with
  | some op => .known op
  | none => .kept d

/-- The presence check that a datum names. -/
def PresenceOperator.ofDatum? (d : Datum) : Option PresenceOperator := d.word?.bind ofWord?

inductive Expression where
  | comparison (lhs : Operand) (operator : Datum) (rhs : Operand)
  | presence (operand : Operand) (operator : Datum)
  | group (operator : GroupOperator) (children : List Expression)
  /-- Something of this kind in an expression's place. -/
  | stray (kind : Text)

instance : Inhabited Expression := ⟨.stray ""⟩

/-! ### Evaluation -/

/-- The outcome of a presence check on a value. -/
def PresenceOperator.test (op : PresenceOperator) (v : Value) : Outcome :=
  match op, v.isAbsent with
  | .exists, false | .notExist, true => .success
  | .exists, true => .failure "Operand does not exist" .conditionFailed
  | .notExist, false => .failure "Operand exists" .conditionFailed

/-- The reason of a conjunction whose child number `index` of `total` failed. -/
def conjunctReason (index total : Nat) (reason : Text) : Text :=
  "'and' operand " ++ toString index ++ " of " ++ toString total ++ " failed: " ++ reason

/-- The reason of a disjunction none of whose children succeeded. -/
def disjunctsReason (reasons : List Text) : Text :=
  "'or' had no successful operand: " ++ Text.intercalate "; " reasons

namespace Expression

mutual

def evaluate (ctx : Context) : Expression → Traced Outcome
  | .comparison lhs operator rhs => do
    let l ← lhs.resolve ctx
    let r ← rhs.resolve ctx
    compare ctx l operator r
  | .presence operand operator =>
    match PresenceOperator.ofDatum? operator with
    | some op => do return op.test (← operand.resolve ctx)
    | none => .ofExcept (unsupported operator)
  | .group (.known .and) [] =>
    return .failure "'and' requires at least one operand" .invalidOperand
  | .group (.known .and) (c :: cs) => evaluateAll ctx (cs.length + 1) 1 (c :: cs)
  | .group (.known .or) [] =>
    return .failure "'or' requires at least one operand" .invalidOperand
  | .group (.known .or) (c :: cs) => evaluateAny ctx [] (c :: cs)
  | .group (.known .not) [c] => do
    match ← evaluate ctx c with
    | .success => return .failure "'not' operand succeeded" .conditionFailed
    | .failure .. => return .success
  | .group (.known .not) cs =>
    return .failure ("'not' requires exactly one operand, got " ++ toString cs.length)
      .invalidOperand
  | .group (.kept given) _ => .ofExcept do
    return .failure ("Unsupported logical operator '" ++ (← given.display) ++ "'")
      .missingOperator
  | .stray kind => do
    .emit (.record {
      level := .debug, source := .expressions
      message := "Cannot evaluate object of type " ++ kind, details := [], cause := none })
    return .failure ("Unsupported expression type '" ++ kind ++ "'") .unknown

/-- Evaluates children up to the first that fails; the first one has number `index`. -/
def evaluateAll (ctx : Context) (total index : Nat) : List Expression → Traced Outcome
  | [] => return .success
  | c :: cs => do
    match ← evaluate ctx c with
    | .success => evaluateAll ctx total (index + 1) cs
    | .failure reason type => return .failure (conjunctReason index total reason) type

/-- Evaluates children up to the first that succeeds, after others failed for `reasons`. -/
def evaluateAny (ctx : Context) (reasons : List Text) : List Expression → Traced Outcome
  | [] => return .failure (disjunctsReason reasons) .conditionFailed
  | c :: cs => do
    match ← evaluate ctx c with
    | .success => return .success
    | .failure reason _ => evaluateAny ctx (reasons ++ [reason]) cs

end

end Expression

end Verdict
