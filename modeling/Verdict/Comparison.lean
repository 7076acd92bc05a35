import Verdict.Context
import Verdict.Outcome
import Verdict.Text.Fold

/-! Comparison of two values. Values of different kinds are first brought to one kind, if
the policy allows it; `holds?` decides, and `compare` adds the reason of a failure. -/

namespace Verdict

/-! ### Reconciling kinds -/

namespace Value

/-- A number, or the number that a string writes; a NaN written out does not count. -/
def asNumber? : Value → Option Value
  | .number n => some (.number n)
  | .string s =>
    match Number.read? s.toList with
    | some n => if n.isNaN then none else some (.number n)
    | none => none
  | _ => none

/-- A truth value, or the one that a string names. -/
def asBoolean? : Value → Option Value
  | .boolean b => some (.boolean b)
  | .string s =>
    let word := normalWord s
    if word = "true" then some (.boolean true)
    else if word = "false" then some (.boolean false)
    else none
  | _ => none

end Value

/-- Two values in a common kind, if they have one under the policy. -/
def coercePair (policy : Policy) (l r : Value) : Option (Value × Value) :=
  if l.kind = r.kind then some (l, r)
  else match l, r with
  | .number _, .string _ | .string _, .number _ =>
    if policy.numericStrings then do return (← l.asNumber?, ← r.asNumber?) else none
  | .boolean _, .string _ | .string _, .boolean _ =>
    if policy.booleanStrings then do return (← l.asBoolean?, ← r.asBoolean?) else none
  | _, _ => none

/-! ### Tests -/

namespace Context

/-- The form in which a string takes part in comparisons. -/
def fold (ctx : Context) (s : Text) : List Point :=
  if ctx.ignoresCase then Text.fold s.toList else s.toList

end Context

/-- Whether `part` stands somewhere in a text. -/
def occursIn (part : List Point) : List Point → Bool
  | [] => part.isEmpty
  | c :: cs => part.isPrefixOf (c :: cs) || occursIn part cs

namespace ComparisonOperator

/-- The test of an operator on strings; it takes no other kind. -/
def stringTest? : ComparisonOperator → Option (List Point → List Point → Bool)
  | .startsWith => some fun a b => b.isPrefixOf a
  | .endsWith => some fun a b => b.isSuffixOf a
  | .contains => some fun a b => occursIn b a
  | .notContains => some fun a b => !occursIn b a
  | _ => none

/-- The test of an operator on the order of numbers. -/
def orderTest? : ComparisonOperator → Option (Number → Number → Bool)
  | .greaterThan => some fun a b => b.lt a
  | .greaterEqual => some fun a b => b.le a
  | .lessThan => some Number.lt
  | .lessEqual => some Number.le
  | _ => none

/-- The operator that a datum names. -/
def ofDatum? (d : Datum) : Option ComparisonOperator := d.word?.bind ofWord?

end ComparisonOperator

/-- Whether two values of one kind are equal. -/
def sameValue (ctx : Context) : Value → Value → Bool
  | .string a, .string b => ctx.fold a == ctx.fold b
  | .number a, .number b => a.eqv b
  | .boolean a, .boolean b => a == b
  | .absent, .absent => true
  | _, _ => false

/-- Whether a comparison of two present values holds; `none` where their kinds do not
fit the operator. -/
def holds? (ctx : Context) (op : ComparisonOperator) (l r : Value) : Option Bool :=
  match op.stringTest? with
  | some test =>
    match l, r with
    | .string a, .string b => some (test (ctx.fold a) (ctx.fold b))
    | _, _ => none
  | none => do
    let (a, b) ← coercePair ctx.policy l r
    match op, op.orderTest? with
    | .equals, _ => return sameValue ctx a b
    | .notEquals, _ => return !sameValue ctx a b
    | _, some test =>
      match a, b with
      | .number x, .number y => return test x y
      | _, _ => none
    | _, none => none

/-! ### Outcomes -/

/-- The outcome when at least one side is absent. Two absent sides are equal if the
policy says so. -/
def compareAbsent (policy : Policy) (op : ComparisonOperator) (l r : Value) : Outcome :=
  if l.isAbsent && r.isAbsent then
    if op = .equals ∧ policy.absentEqualsAbsent then .success
    else .failure "Both operands did not resolve" .invalidOperand
  else if l.isAbsent then .failure "Left operand did not resolve" .invalidOperand
  else .failure "Right operand did not resolve" .invalidOperand

/-- The outcome of a comparison whose kinds do not fit. -/
def mismatch (op : ComparisonOperator) (l r : Value) : Except Fault Outcome := do
  let left ← l.describe
  let right ← r.describe
  return .failure ("Type mismatch: cannot apply '" ++ op.text ++ "' to " ++ left ++ " and " ++
    right) .typeMismatched

/-- The outcome of a comparison that does not hold. -/
def notMet (op : ComparisonOperator) (l r : Value) : Except Fault Outcome := do
  let left ← l.describe
  let right ← r.describe
  return .failure ("Condition not met: " ++ left ++ " " ++ op.text ++ " " ++ right)
    .conditionFailed

/-- The outcome where a datum names no operator. -/
def unsupported (operator : Datum) : Except Fault Outcome := do
  return .failure ("Unsupported operator '" ++ (← operator.display) ++ "'") .missingOperator

/-- Compares two values by the operator that a datum names. Reasons describe the values
as they came, before they were reconciled. -/
def compare (ctx : Context) (l : Value) (operator : Datum) (r : Value) : Traced Outcome :=
  match ComparisonOperator.ofDatum? operator with
  | none => .ofExcept (unsupported operator)
  | some op =>
    if l.isAbsent || r.isAbsent then return compareAbsent ctx.policy op l r
    else match holds? ctx op l r with
    | none => .ofExcept (mismatch op l r)
    | some true => return .success
    | some false => do
      .emit (.record {
        level := .debug, source := .comparison
        message := "Comparison '" ++ op.text ++ "' did not hold"
        details := [(.operator, op.text)], cause := none })
      .ofExcept (notMet op l r)

end Verdict
