import Verdict.Proofs.Resolution

/-! Induction over expression trees, and evaluation one node at a time. In a group the
child at the front decides how it goes on: with its siblings, or not at all. -/

namespace Verdict

namespace Expression

/-- Induction with a hypothesis for each child of a group. -/
@[elab_as_elim]
theorem induct {motive : Expression → Prop}
    (comparison : ∀ lhs operator rhs, motive (.comparison lhs operator rhs))
    (presence : ∀ operand operator, motive (.presence operand operator))
    (group : ∀ operator children, (∀ c ∈ children, motive c) → motive (.group operator children))
    (stray : ∀ kind, motive (.stray kind)) : ∀ x, motive x
  | .comparison lhs operator rhs => comparison lhs operator rhs
  | .presence operand operator => presence operand operator
  | .group operator children =>
    group operator children fun c _ => induct comparison presence group stray c
  | .stray kind => stray kind

/-- Induction by operator, a negation of one child apart from the others, which have none to
look at. -/
@[elab_as_elim, induction_eliminator]
theorem inductByOperator {motive : Expression → Prop}
    (comparison : ∀ lhs operator rhs, motive (.comparison lhs operator rhs))
    (presence : ∀ operand operator, motive (.presence operand operator))
    (and : ∀ children, (∀ c ∈ children, motive c) → motive (.group (.known .and) children))
    (or : ∀ children, (∀ c ∈ children, motive c) → motive (.group (.known .or) children))
    (not : ∀ child, motive child → motive (.group (.known .not) [child]))
    (notOther : ∀ children, (∀ c, children ≠ [c]) → motive (.group (.known .not) children))
    (kept : ∀ given children, motive (.group (.kept given) children))
    (stray : ∀ kind, motive (.stray kind)) (x : Expression) : motive x := by
  induction x using induct with
  | comparison lhs operator rhs => exact comparison lhs operator rhs
  | presence operand operator => exact presence operand operator
  | stray kind => exact stray kind
  | group operator children ih =>
    cases operator with
    | kept given => exact kept given children
    | known operator =>
      cases operator with
      | and => exact and children ih
      | or => exact or children ih
      | not =>
        by_cases hone : ∃ c, children = [c]
        · obtain ⟨c, rfl⟩ := hone
          exact not c (ih c List.mem_cons_self)
        · exact notOther children fun c hc => hone ⟨c, hc⟩

variable {ctx : Context} {total index : Nat} {reasons : List Text} {c : Expression}
  {cs : List Expression} {reason : Text} {type : FailureType} {fault : Fault}

/-! ### Leaves -/

theorem evaluate_comparison (ctx : Context) (lhs : Operand) (operator : Datum) (rhs : Operand) :
    (comparison lhs operator rhs).evaluate ctx =
      ⟨(lhs.resolve ctx).events ++ ((rhs.resolve ctx).events ++
          (compare ctx (lhs.value ctx) operator (rhs.value ctx)).events),
        (compare ctx (lhs.value ctx) operator (rhs.value ctx)).outcome⟩ := by
  rw [evaluate, Traced.bind_of_ok (lhs.resolve_outcome ctx),
    Traced.bind_of_ok (rhs.resolve_outcome ctx)]

theorem evaluate_presence {operator : Datum} {op : PresenceOperator} (operand : Operand)
    (h : PresenceOperator.ofDatum? operator = some op) :
    (presence operand operator).evaluate ctx =
      ⟨(operand.resolve ctx).events, .ok (op.test (operand.value ctx))⟩ := by
  rw [evaluate, h]
  dsimp only
  rw [Traced.bind_of_ok (operand.resolve_outcome ctx)]
  simp

theorem evaluate_presence_of_none {operator : Datum} (operand : Operand)
    (h : PresenceOperator.ofDatum? operator = none) :
    (presence operand operator).evaluate ctx = .ofExcept (unsupported operator) := by
  rw [evaluate, h]

/-! ### Conjunctions -/

theorem evaluate_and (ctx : Context) (cs : List Expression) :
    (group (.known .and) cs).evaluate ctx =
      if cs = [] then return .failure "'and' requires at least one operand" .invalidOperand
      else evaluateAll ctx cs.length 1 cs := by
  cases cs with
  | nil => rw [evaluate, if_pos rfl]
  | cons c cs => rw [evaluate, if_neg (List.cons_ne_nil c cs), List.length_cons]

theorem evaluateAll_cons (ctx : Context) (total index : Nat) (c : Expression)
    (cs : List Expression) : evaluateAll ctx total index (c :: cs) = do
      match ← c.evaluate ctx with
      | .success => evaluateAll ctx total (index + 1) cs
      | .failure reason type => return .failure (conjunctReason index total reason) type := rfl

theorem evaluateAll_of_success (h : (c.evaluate ctx).outcome = .ok .success) :
    evaluateAll ctx total index (c :: cs) =
      ⟨(c.evaluate ctx).events ++ (evaluateAll ctx total (index + 1) cs).events,
        (evaluateAll ctx total (index + 1) cs).outcome⟩ := by
  rw [evaluateAll_cons, Traced.bind_of_ok h]

theorem evaluateAll_of_failure (h : (c.evaluate ctx).outcome = .ok (.failure reason type)) :
    evaluateAll ctx total index (c :: cs) =
      ⟨(c.evaluate ctx).events, .ok (.failure (conjunctReason index total reason) type)⟩ := by
  rw [evaluateAll_cons, Traced.bind_of_ok h]
  simp

theorem evaluateAll_of_fault (h : (c.evaluate ctx).outcome = .error fault) :
    evaluateAll ctx total index (c :: cs) = ⟨(c.evaluate ctx).events, .error fault⟩ := by
  rw [evaluateAll_cons, Traced.bind_of_error h]

/-! ### Disjunctions -/

theorem evaluate_or (ctx : Context) (cs : List Expression) :
    (group (.known .or) cs).evaluate ctx =
      if cs = [] then return .failure "'or' requires at least one operand" .invalidOperand
      else evaluateAny ctx [] cs := by
  cases cs with
  | nil => rw [evaluate, if_pos rfl]
  | cons c cs => rw [evaluate, if_neg (List.cons_ne_nil c cs)]

theorem evaluateAny_cons (ctx : Context) (reasons : List Text) (c : Expression)
    (cs : List Expression) : evaluateAny ctx reasons (c :: cs) = (do
      match ← c.evaluate ctx with
      | .success => return .success
      | .failure reason _ => evaluateAny ctx (reasons ++ [reason]) cs) := rfl

theorem evaluateAny_of_success (h : (c.evaluate ctx).outcome = .ok .success) :
    evaluateAny ctx reasons (c :: cs) = ⟨(c.evaluate ctx).events, .ok .success⟩ := by
  rw [evaluateAny_cons, Traced.bind_of_ok h]
  simp

theorem evaluateAny_of_failure (h : (c.evaluate ctx).outcome = .ok (.failure reason type)) :
    evaluateAny ctx reasons (c :: cs) =
      ⟨(c.evaluate ctx).events ++ (evaluateAny ctx (reasons ++ [reason]) cs).events,
        (evaluateAny ctx (reasons ++ [reason]) cs).outcome⟩ := by
  rw [evaluateAny_cons, Traced.bind_of_ok h]

theorem evaluateAny_of_fault (h : (c.evaluate ctx).outcome = .error fault) :
    evaluateAny ctx reasons (c :: cs) = ⟨(c.evaluate ctx).events, .error fault⟩ := by
  rw [evaluateAny_cons, Traced.bind_of_error h]

/-! ### Negations -/

theorem evaluate_not_of_ne (h : ∀ c, cs ≠ [c]) :
    (group (.known .not) cs).evaluate ctx =
      return .failure ("'not' requires exactly one operand, got " ++ toString cs.length)
        .invalidOperand := by
  rw [evaluate]
  exact h

theorem evaluate_not_singleton (ctx : Context) (c : Expression) :
    (group (.known .not) [c]).evaluate ctx = do
      match ← c.evaluate ctx with
      | .success => return .failure "'not' operand succeeded" .conditionFailed
      | .failure .. => return .success := rfl

theorem evaluate_not_of_success (h : (c.evaluate ctx).outcome = .ok .success) :
    (group (.known .not) [c]).evaluate ctx =
      ⟨(c.evaluate ctx).events, .ok (.failure "'not' operand succeeded" .conditionFailed)⟩ := by
  rw [evaluate_not_singleton, Traced.bind_of_ok h]
  simp

theorem evaluate_not_of_failure (h : (c.evaluate ctx).outcome = .ok (.failure reason type)) :
    (group (.known .not) [c]).evaluate ctx = ⟨(c.evaluate ctx).events, .ok .success⟩ := by
  rw [evaluate_not_singleton, Traced.bind_of_ok h]
  simp

theorem evaluate_not_of_fault (h : (c.evaluate ctx).outcome = .error fault) :
    (group (.known .not) [c]).evaluate ctx = ⟨(c.evaluate ctx).events, .error fault⟩ := by
  rw [evaluate_not_singleton, Traced.bind_of_error h]

end Expression

end Verdict
