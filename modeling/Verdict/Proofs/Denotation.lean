import Verdict.Proofs.Evaluation

/-! The truth of expressions. `denotes` takes every child of a group into account and
`verdict?` the first that decides; where evaluation returns, both agree with it. -/

namespace Verdict

/-- How an evaluation ends: in success or in failure, or by a fault and without a verdict. -/
def Traced.verdict? (x : Traced Outcome) : Option Bool := x.outcome.toOption.map Outcome.succeeded

/-- The verdict under an operator that no word names. Its failure shows the operator. -/
def Datum.strayVerdict? (operator : Datum) : Option Bool :=
  operator.display.toOption.map fun _ => false

/-- What follows from verdicts in order when `b` decides nothing: the first other one if
there is one, else `b`. -/
def settle (b : Bool) (vs : List (Option Bool)) : Option Bool :=
  (vs.find? (· != some b)).getD (some b)

theorem settle_cons (b : Bool) (v : Option Bool) (vs : List (Option Bool)) :
    settle b (v :: vs) = if v = some b then settle b vs else v := by
  by_cases h : v = some b
  · simp [settle, h]
  · simp [settle, h]

theorem forall_of_settle {b : Bool} {vs : List (Option Bool)} (h : settle b vs = some b) :
    ∀ v ∈ vs, v = some b := by
  induction vs with
  | nil => simp
  | cons v vs ih =>
    rw [settle_cons] at h
    split at h
    · next hv => exact List.forall_mem_cons.2 ⟨hv, ih h⟩
    · next hv => exact absurd h hv

theorem mem_of_settle {b : Bool} {v : Option Bool} {vs : List (Option Bool)}
    (h : settle b vs = v) (hv : v ≠ some b) : v ∈ vs := by
  induction vs with
  | nil => exact absurd h.symm hv
  | cons w vs ih =>
    rw [settle_cons] at h
    split at h
    · exact List.mem_cons_of_mem _ (ih h)
    · exact h ▸ List.mem_cons_self

namespace Expression

/-- The truth of an expression, every child of a group taken into account. -/
def denotes (ctx : Context) : Expression → Bool
  | .comparison lhs operator rhs =>
    (compare ctx (lhs.value ctx) operator (rhs.value ctx)).verdict? == some true
  | .presence operand operator =>
    match PresenceOperator.ofDatum? operator with
    | some .exists => !(operand.value ctx).isAbsent
    | some .notExist => (operand.value ctx).isAbsent
    | none => false
  | .group (.known .and) cs => !cs.isEmpty && (cs.map (denotes ctx)).all id
  | .group (.known .or) cs => (cs.map (denotes ctx)).any id
  | .group (.known .not) [c] => !denotes ctx c
  | .group (.known .not) _ => false
  | .group (.kept _) _ => false
  | .stray _ => false

/-- The verdict on an expression, the children of a group taken in order up to the first
that decides; none where a fault is met before that. -/
def verdict? (ctx : Context) : Expression → Option Bool
  | .comparison lhs operator rhs =>
    (compare ctx (lhs.value ctx) operator (rhs.value ctx)).verdict?
  | .presence operand operator =>
    match PresenceOperator.ofDatum? operator with
    | some .exists => some !(operand.value ctx).isAbsent
    | some .notExist => some (operand.value ctx).isAbsent
    | none => operator.strayVerdict?
  | .group (.known .and) cs => if cs = [] then some false else settle true (cs.map (verdict? ctx))
  | .group (.known .or) cs => settle false (cs.map (verdict? ctx))
  | .group (.known .not) [c] => (verdict? ctx c).map not
  | .group (.known .not) _ => some false
  | .group (.kept given) _ => given.strayVerdict?
  | .stray _ => some false

end Expression

/-! ### Evaluation comes to the verdict -/

theorem verdict?_of_ok {x : Traced Outcome} {o : Outcome} (h : x.outcome = .ok o) :
    x.verdict? = some o.succeeded := by
  rw [Traced.verdict?, h]
  rfl

theorem verdict?_of_success {x : Traced Outcome} (h : x.outcome = .ok .success) :
    x.verdict? = some true := verdict?_of_ok h

theorem verdict?_of_failure {x : Traced Outcome} {reason : Text} {type : FailureType}
    (h : x.outcome = .ok (.failure reason type)) : x.verdict? = some false := verdict?_of_ok h

theorem verdict?_of_error {x : Traced Outcome} {fault : Fault} (h : x.outcome = .error fault) :
    x.verdict? = none := by
  rw [Traced.verdict?, h]
  rfl

theorem verdict?_unsupported (operator : Datum) :
    (Traced.ofExcept (unsupported operator)).verdict? = operator.strayVerdict? := by
  rw [Traced.verdict?, Traced.ofExcept_outcome, unsupported, Datum.strayVerdict?]
  cases operator.display <;> rfl

theorem succeeded_test (op : PresenceOperator) (v : Value) :
    (op.test v).succeeded = match op with
      | .exists => !v.isAbsent
      | .notExist => v.isAbsent := by
  cases op <;> cases h : v.isAbsent <;> simp [PresenceOperator.test, Outcome.succeeded, h]

namespace Expression

variable {ctx : Context} {cs : List Expression}

theorem verdict?_not_of_ne (h : ∀ c, cs ≠ [c]) :
    (group (.known .not) cs).verdict? ctx = some false := by
  rw [verdict?]
  exact h

theorem denotes_not_of_ne (h : ∀ c, cs ≠ [c]) :
    (group (.known .not) cs).denotes ctx = false := by
  rw [denotes]
  exact h

theorem verdict?_evaluateAll (total index : Nat)
    (h : ∀ c ∈ cs, (c.evaluate ctx).verdict? = c.verdict? ctx) :
    (evaluateAll ctx total index cs).verdict? = settle true (cs.map (verdict? ctx)) := by
  induction cs generalizing index with
  | nil => rfl
  | cons c cs ih =>
    obtain ⟨hc, hcs⟩ := List.forall_mem_cons.1 h
    rw [List.map_cons, settle_cons, ← hc]
    rcases ho : (c.evaluate ctx).outcome with fault | (_ | ⟨reason, type⟩)
    · rw [evaluateAll_of_fault ho, verdict?_of_error ho]
      rfl
    · rw [evaluateAll_of_success ho, verdict?_of_success ho]
      exact ih (index + 1) hcs
    · rw [evaluateAll_of_failure ho, verdict?_of_failure ho]
      rfl

theorem verdict?_evaluateAny (reasons : List Text)
    (h : ∀ c ∈ cs, (c.evaluate ctx).verdict? = c.verdict? ctx) :
    (evaluateAny ctx reasons cs).verdict? = settle false (cs.map (verdict? ctx)) := by
  induction cs generalizing reasons with
  | nil => rfl
  | cons c cs ih =>
    obtain ⟨hc, hcs⟩ := List.forall_mem_cons.1 h
    rw [List.map_cons, settle_cons, ← hc]
    rcases ho : (c.evaluate ctx).outcome with fault | (_ | ⟨reason, type⟩)
    · rw [evaluateAny_of_fault ho, verdict?_of_error ho]
      rfl
    · rw [evaluateAny_of_success ho, verdict?_of_success ho]
      rfl
    · rw [evaluateAny_of_failure ho, verdict?_of_failure ho]
      exact ih (reasons ++ [reason]) hcs

theorem verdict?_evaluate_not {c : Expression} (h : (c.evaluate ctx).verdict? = c.verdict? ctx) :
    ((group (.known .not) [c]).evaluate ctx).verdict? = (c.verdict? ctx).map not := by
  rw [← h]
  rcases ho : (c.evaluate ctx).outcome with fault | (_ | ⟨reason, type⟩)
  · rw [evaluate_not_of_fault ho, verdict?_of_error ho]
    rfl
  · rw [evaluate_not_of_success ho, verdict?_of_success ho]
    rfl
  · rw [evaluate_not_of_failure ho, verdict?_of_failure ho]
    rfl

/-- Evaluation ends as the verdict says, in a fault exactly where there is none. -/
theorem verdict?_evaluate (ctx : Context) (x : Expression) :
    (x.evaluate ctx).verdict? = x.verdict? ctx := by
  induction x with
  | comparison lhs operator rhs =>
    rw [evaluate_comparison, verdict?]
    rfl
  | presence operand operator =>
    rw [verdict?]
    cases hop : PresenceOperator.ofDatum? operator with
    | none =>
      rw [evaluate_presence_of_none operand hop]
      exact verdict?_unsupported operator
    | some op =>
      rw [evaluate_presence operand hop, verdict?_of_ok rfl, succeeded_test]
      cases op <;> rfl
  | stray kind =>
    rw [verdict?]
    rfl
  | and cs ih =>
    rw [evaluate_and, verdict?]
    split
    · rfl
    · exact verdict?_evaluateAll cs.length 1 ih
  | or cs ih =>
    rw [evaluate_or, verdict?]
    split
    · next hcs => rw [hcs]; rfl
    · exact verdict?_evaluateAny [] ih
  | not c ih =>
    rw [verdict?]
    exact verdict?_evaluate_not ih
  | notOther cs hne =>
    rw [evaluate_not_of_ne hne, verdict?_not_of_ne hne]
    rfl
  | kept given cs =>
    rw [evaluate, verdict?, Traced.verdict?, Datum.strayVerdict?, Traced.ofExcept_outcome]
    cases given.display <;> rfl

/-! ### The verdict is the truth -/

theorem strayVerdict?_eq_some {operator : Datum} {b : Bool} (h : operator.strayVerdict? = some b) :
    b = false := by
  obtain ⟨_, _, rfl⟩ := Option.map_eq_some_iff.1 h
  rfl

/-- Children whose verdicts settle a group one way, as long as each verdict is the truth. -/
theorem all_of_settle {b : Bool} (h : settle true (cs.map (verdict? ctx)) = some b)
    (hc : ∀ c ∈ cs, ∀ b, c.verdict? ctx = some b → c.denotes ctx = b) :
    (cs.map (denotes ctx)).all id = b := by
  cases b with
  | true =>
    have hall := forall_of_settle h
    simp only [List.all_map, List.all_eq_true, Function.comp_apply, id]
    exact fun c hm => hc c hm true (hall _ (List.mem_map_of_mem hm))
  | false =>
    obtain ⟨c, hm, hv⟩ := List.mem_map.1 (mem_of_settle h (by decide))
    simp only [List.all_map, List.all_eq_false, Function.comp_apply, id, Bool.not_eq_true]
    exact ⟨c, hm, hc c hm false hv⟩

theorem any_of_settle {b : Bool} (h : settle false (cs.map (verdict? ctx)) = some b)
    (hc : ∀ c ∈ cs, ∀ b, c.verdict? ctx = some b → c.denotes ctx = b) :
    (cs.map (denotes ctx)).any id = b := by
  cases b with
  | true =>
    obtain ⟨c, hm, hv⟩ := List.mem_map.1 (mem_of_settle h (by decide))
    simp only [List.any_map, List.any_eq_true, Function.comp_apply, id]
    exact ⟨c, hm, hc c hm true hv⟩
  | false =>
    have hall := forall_of_settle h
    simp only [List.any_map, List.any_eq_false, Function.comp_apply, id, Bool.not_eq_true]
    exact fun c hm => hc c hm false (hall _ (List.mem_map_of_mem hm))

theorem denotes_of_verdict? {x : Expression} {b : Bool} (h : x.verdict? ctx = some b) :
    x.denotes ctx = b := by
  induction x generalizing b with
  | comparison lhs operator rhs =>
    rw [verdict?] at h
    rw [denotes, h]
    cases b <;> rfl
  | presence operand operator =>
    rw [verdict?] at h
    rw [denotes]
    cases hop : PresenceOperator.ofDatum? operator with
    | none =>
      rw [hop] at h
      exact (strayVerdict?_eq_some h).symm
    | some op =>
      rw [hop] at h
      cases op <;> exact Option.some.inj h
  | stray kind =>
    rw [verdict?] at h
    rw [denotes]
    exact Option.some.inj h
  | and cs ih =>
    rw [verdict?] at h
    rw [denotes]
    split at h
    · next hcs => rw [hcs]; exact Option.some.inj h
    · next hcs =>
      rw [all_of_settle h fun c hm b => ih c hm, List.isEmpty_eq_false_iff.2 hcs]
      rfl
  | or cs ih =>
    rw [verdict?] at h
    rw [denotes]
    exact any_of_settle h fun c hm b => ih c hm
  | not c ih =>
    rw [verdict?] at h
    obtain ⟨d, hd, rfl⟩ := Option.map_eq_some_iff.1 h
    rw [denotes, ih hd]
  | notOther cs hne =>
    rw [verdict?_not_of_ne hne] at h
    rw [denotes_not_of_ne hne]
    exact Option.some.inj h
  | kept given cs =>
    rw [verdict?] at h
    rw [denotes, strayVerdict?_eq_some h]

/-- Whenever evaluation returns, it succeeds exactly if the expression is true with every
child taken into account: stopping early never changes the answer. -/
theorem evaluate_succeeded (ctx : Context) (x : Expression) (o : Outcome)
    (h : (x.evaluate ctx).outcome = .ok o) : o.succeeded = x.denotes ctx := by
  have hv : x.verdict? ctx = some o.succeeded := by
    rw [← verdict?_evaluate, verdict?_of_ok h]
  exact (denotes_of_verdict? hv).symm

theorem evaluate_succeeded_not_and :
    let ctx : Context := ⟨fun _ => .error (.raised "RuntimeError" ""), .empty, .known .default, {}⟩
    let x := group (.known .not) [group (.known .and)
      [presence (.literal .absent) (.symbol (.presence .notExist)), group (.known .or) [],
        stray "int"]]
    (x.evaluate ctx).outcome = .ok .success ∧ Outcome.success.succeeded = x.denotes ctx := by
  intro ctx x
  have h : (x.evaluate ctx).outcome = .ok .success := rfl
  exact ⟨h, evaluate_succeeded ctx x .success h⟩

end Expression

end Verdict
