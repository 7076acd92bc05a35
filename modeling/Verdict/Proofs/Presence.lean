import Verdict.Proofs.Evaluation
import Verdict.Proofs.FailureTypes

/-! Presence checks beside comparisons. What a presence check finds is equal to itself, and what
it does not find cannot be compared with anything. -/

namespace Verdict

variable {ctx : Context} {op : ComparisonOperator} {v : Value} {d : Datum} {x y : Operand}

/-! ### Equality with itself -/

theorem Number.eqv_self {n : Number} (h : n.isNaN = false) : n.eqv n = true :=
  eqv_of_place? rfl h

theorem Number.isNaN_of_eqv_self {n : Number} (h : n.eqv n = true) : n.isNaN = false := by
  obtain ⟨p, -, hp, -⟩ := (eqv_iff n n).1 h
  rw [Bool.eq_false_iff, ne_eq, isNaN_iff, hp]
  simp

theorem sameValue_self (ctx : Context) (h : v.isNaN = false) : sameValue ctx v v = true := by
  cases v with
  | string s => exact beq_self_eq_true _
  | number n => exact Number.eqv_self h
  | boolean b => exact beq_self_eq_true _
  | absent => rfl

/-- A value equals itself if it is there, a NaN aside. -/
theorem succeeds_equals_self_iff (h : v.isNaN = false) :
    Succeeds ctx .equals v v ↔ v = .absent → ctx.policy.absentEqualsAbsent = true := by
  rw [succeeds_equals_iff, and_iff_right_iff_imp]
  exact fun _ => ⟨v, v, coercePair_of_kind_eq rfl, sameValue_self ctx h⟩

namespace Expression

/-! ### Outcomes -/

/-- The evaluation of a tree succeeds. -/
def Passes (ctx : Context) (x : Expression) : Prop := (x.evaluate ctx).outcome = .ok .success

/-- The evaluation of a tree fails with a reason of this type. -/
def FailsWith (ctx : Context) (x : Expression) (type : FailureType) : Prop :=
  ∃ reason, (x.evaluate ctx).outcome = .ok (.failure reason type)

theorem passes_exists_iff (h : PresenceOperator.ofDatum? d = some .exists) (x : Operand) :
    Passes ctx (.presence x d) ↔ x.value ctx ≠ .absent := by
  rw [Passes, evaluate_presence x h]
  cases x.value ctx <;> simp [PresenceOperator.test, Value.isAbsent]

theorem passes_notExist_iff (h : PresenceOperator.ofDatum? d = some .notExist) (x : Operand) :
    Passes ctx (.presence x d) ↔ x.value ctx = .absent := by
  rw [Passes, evaluate_presence x h]
  cases x.value ctx <;> simp [PresenceOperator.test, Value.isAbsent]

theorem passes_comparison_iff (h : ComparisonOperator.ofDatum? d = some op) (x y : Operand) :
    Passes ctx (.comparison x d y) ↔ Succeeds ctx op (x.value ctx) (y.value ctx) := by
  rw [Passes, evaluate_comparison, compare_of_ofDatum? h, Succeeds]

theorem failsWith_comparison (h : ComparisonOperator.ofDatum? d = some op)
    (habsent : x.value ctx = .absent ∨ y.value ctx = .absent)
    (hequal : ¬ AbsentEqual ctx.policy op (x.value ctx) (y.value ctx)) :
    FailsWith ctx (.comparison x d y) .invalidOperand := by
  have htype := failureType?_compareAbsent hequal
  rw [FailsWith, evaluate_comparison, compare_of_absent h habsent]
  cases ho : compareAbsent ctx.policy op (x.value ctx) (y.value ctx) with
  | success => rw [ho] at htype; cases htype
  | failure reason type => rw [ho] at htype; cases htype; exact ⟨reason, rfl⟩

/-! ### Agreement -/

/-- How a presence check of an operand goes with comparisons of it. Operators are given by any of
their words. -/
structure PresenceLaws (ctx : Context) (x : Operand) : Prop where
  contrary (d e : Datum) (hd : PresenceOperator.ofDatum? d = some .exists)
    (he : PresenceOperator.ofDatum? e = some .notExist) :
    Passes ctx (.presence x d) ↔ ¬ Passes ctx (.presence x e)
  selfEqual (d e : Datum) (hd : PresenceOperator.ofDatum? d = some .exists)
    (he : ComparisonOperator.ofDatum? e = some .equals)
    (hpolicy : ctx.policy.absentEqualsAbsent = false) :
    Passes ctx (.presence x d) ↔ Passes ctx (.comparison x e x)
  /-- What is not there is equal to what is not there if the policy says so. -/
  equated (d e : Datum) (hd : PresenceOperator.ofDatum? d = some .notExist)
    (hx : Passes ctx (.presence x d)) (he : ComparisonOperator.ofDatum? e = some .equals)
    (y : Operand) (hy : y.value ctx = .absent)
    (hpolicy : ctx.policy.absentEqualsAbsent = true) :
    Passes ctx (.comparison x e y) ∧ Passes ctx (.comparison y e x)
  unresolved (d e : Datum) (hd : PresenceOperator.ofDatum? d = some .notExist)
    (hx : Passes ctx (.presence x d)) (op : ComparisonOperator)
    (he : ComparisonOperator.ofDatum? e = some op) (y : Operand)
    (h : ¬ (op = .equals ∧ y.value ctx = .absent ∧ ctx.policy.absentEqualsAbsent = true)) :
    FailsWith ctx (.comparison x e y) .invalidOperand ∧
      FailsWith ctx (.comparison y e x) .invalidOperand

/-- Presence checks and comparisons agree on what is there. -/
theorem presenceLaws_of_isNaN {x : Operand} (hnan : (x.value ctx).isNaN = false) :
    PresenceLaws ctx x where
  contrary d e hd he := by
    rw [passes_exists_iff hd, passes_notExist_iff he]
  selfEqual d e hd he hpolicy := by
    rw [passes_exists_iff hd, passes_comparison_iff he, succeeds_equals_self_iff hnan]
    simp [hpolicy]
  equated d e hd hx he y hy hpolicy := by
    have hxabsent := (passes_notExist_iff hd x).1 hx
    rw [passes_comparison_iff he, passes_comparison_iff he, hxabsent, hy]
    have hself : Succeeds ctx .equals .absent .absent :=
      (succeeds_equals_self_iff rfl).2 fun _ => hpolicy
    exact ⟨hself, hself⟩
  unresolved d e hd hx op he y h := by
    have hxabsent := (passes_notExist_iff hd x).1 hx
    exact ⟨failsWith_comparison he (.inl hxabsent) fun hequal => h ⟨hequal.1, hequal.2.2⟩,
      failsWith_comparison he (.inr hxabsent) fun hequal =>
        h ⟨hequal.1, hequal.2.1, hequal.2.2.2⟩⟩

/-- A NaN is there without being equal to itself, so the laws do not hold of it. -/
theorem PresenceLaws.isNaN (h : PresenceLaws ctx x)
    (hpolicy : ctx.policy.absentEqualsAbsent = false) : (x.value ctx).isNaN = false := by
  cases hx : x.value ctx with
  | number n =>
    have hexists : PresenceOperator.ofDatum? (.string "exists") = some .exists := by decide +kernel
    have hthere : Passes ctx (.presence x (.string "exists")) :=
      (passes_exists_iff hexists x).2 (by simp [hx])
    have hequals := ComparisonOperator.ofDatum?_symbol .equals
    have hself := (h.selfEqual _ _ hexists hequals hpolicy).1 hthere
    rw [passes_comparison_iff hequals, hx,
      succeeds_equals_iff_eqv (coercePair_of_kind_eq rfl)] at hself
    exact Number.isNaN_of_eqv_self hself
  | string s => rfl
  | boolean b => rfl
  | absent => rfl

/-- An empty text is there, and it cannot be compared with a name whose resolver raises. -/
theorem presenceLaws_of_isNaN_raised :
    let ctx : Context := ⟨fun _ => .error .integerTooLarge, .empty, .known .default, {}⟩
    let x : Operand := .token (.string "\x7b\x7bflag\x7d\x7d")
    let y : Operand := .literal (.string "")
    Passes ctx (.presence y (.string "exists")) ∧
      Passes ctx (.comparison y (.string "==") y) ∧
      FailsWith ctx (.comparison x (.string "==") y) .invalidOperand ∧
      FailsWith ctx (.comparison y (.string "==") x) .invalidOperand := by
  intro ctx x y
  have hxvalue : x.value ctx = .absent := by decide +kernel
  have hequals : ComparisonOperator.ofDatum? (.string "==") = some .equals := by decide +kernel
  have hexists : PresenceOperator.ofDatum? (.string "exists") = some .exists := by decide +kernel
  have hnotExist : PresenceOperator.ofDatum? (.string "notExist") = some .notExist := by
    decide +kernel
  have hx : PresenceLaws ctx x := presenceLaws_of_isNaN (by rw [hxvalue]; rfl)
  have hy : PresenceLaws ctx y := presenceLaws_of_isNaN rfl
  have hthere : Passes ctx (.presence y (.string "exists")) :=
    (passes_exists_iff hexists y).2 (by simp [y, Operand.value])
  exact ⟨hthere, (hy.selfEqual _ _ hexists hequals rfl).1 hthere,
    hx.unresolved _ _ hnotExist ((passes_notExist_iff hnotExist x).2 hxvalue) _ hequals y
      (by simp [ctx])⟩

end Expression

end Verdict
