import Verdict.Proofs.Comparison

/-! The verdict of a comparison, which leaves its reason aside. It rests on whether both values
are there, on what holds of them, and on whether both can be written out. -/

namespace Verdict

variable {ctx : Context} {op : ComparisonOperator} {d : Datum} {l r l' r' : Value}

instance (v : Value) : Decidable v.IsOverlong :=
  match v with
  | .number (.int n) => decidable_of_iff _ (Value.isOverlong_int_iff n).symm
  | .number (.double _) | .string _ | .boolean _ | .absent => isFalse (by simp [Value.IsOverlong])

theorem Value.not_isOverlong_string (s : Text) : ¬ (Value.string s).IsOverlong := by
  simp [IsOverlong]

/-- The verdict of a failure on two values, unless one of them has no text for its reason. -/
def failing (l r : Value) (type : FailureType) : Except Fault (Bool × Option FailureType) :=
  if l.IsOverlong ∨ r.IsOverlong then .error .digitLimit else .ok (false, some type)

theorem verdict_describe (l r : Value) (reason : Text → Text → Text) (type : FailureType) :
    (do
      let left ← l.describe
      let right ← r.describe
      return Outcome.failure (reason left right) type : Except Fault Outcome).map
        Outcome.verdict = failing l r type := by
  by_cases hl : l.IsOverlong
  · rw [failing, if_pos (.inl hl), Value.describe_of_isOverlong hl]
    rfl
  · obtain ⟨left, hleft⟩ := Value.describe_of_not_isOverlong hl
    by_cases hr : r.IsOverlong
    · rw [failing, if_pos (.inr hr), hleft, Value.describe_of_isOverlong hr]
      rfl
    · obtain ⟨right, hright⟩ := Value.describe_of_not_isOverlong hr
      rw [failing, if_neg (not_or.2 ⟨hl, hr⟩), hleft, hright]
      rfl

/-! ### Verdicts of comparisons -/

/-- The verdict on two values, or the fault that stands in its way. -/
def verdict (ctx : Context) (l : Value) (d : Datum) (r : Value) :
    Except Fault (Bool × Option FailureType) :=
  (compare ctx l d r).outcome.map Outcome.verdict

theorem verdict_of_absent (hop : ComparisonOperator.ofDatum? d = some op)
    (h : (l.isAbsent || r.isAbsent) = true) :
    verdict ctx l d r = .ok (compareAbsent ctx.policy op l r).verdict := by
  rw [verdict, compare, hop]
  simp only [h, if_true]
  rfl

theorem verdict_of_present (hop : ComparisonOperator.ofDatum? d = some op)
    (h : (l.isAbsent || r.isAbsent) = false) :
    verdict ctx l d r = match holds? ctx op l r with
      | none => failing l r .typeMismatched
      | some true => .ok (true, none)
      | some false => failing l r .conditionFailed := by
  rw [verdict, compare, hop]
  simp only [h, Bool.false_eq_true, if_false]
  rcases holds? ctx op l r with _ | (_ | _)
  · exact verdict_describe l r _ _
  · rw [Traced.emit_bind_outcome]
    exact verdict_describe l r _ _
  · rfl

/-- Two pairs of values are told apart by what is absent, what holds, or what has no text. -/
theorem verdict_congr (hl : l.isAbsent = l'.isAbsent) (hr : r.isAbsent = r'.isAbsent)
    (hlong : l.IsOverlong ∨ r.IsOverlong ↔ l'.IsOverlong ∨ r'.IsOverlong)
    (hholds : ∀ op, ComparisonOperator.ofDatum? d = some op →
      holds? ctx op l r = holds? ctx op l' r') :
    verdict ctx l d r = verdict ctx l' d r' := by
  have hfailing (type : FailureType) : failing l r type = failing l' r' type := by
    simp only [failing, hlong]
  cases hop : ComparisonOperator.ofDatum? d with
  | none => rw [verdict, verdict, compare, compare, hop]
  | some op =>
    cases habsent : l.isAbsent || r.isAbsent with
    | true =>
      have habsent' : (l'.isAbsent || r'.isAbsent) = true := by rw [← hl, ← hr, habsent]
      rw [verdict_of_absent hop habsent, verdict_of_absent hop habsent', compareAbsent,
        compareAbsent, hl, hr]
    | false =>
      have habsent' : (l'.isAbsent || r'.isAbsent) = false := by rw [← hl, ← hr, habsent]
      rw [verdict_of_present hop habsent, verdict_of_present hop habsent', hholds op hop,
        hfailing, hfailing]

/-- Two pairs of values are alike to an operator that takes more than strings if they are equally
equal and equally ordered as what they are compared as. -/
theorem holds?_congr_of_coercePair
    (hsame : ((coercePair ctx.policy l r).map fun p => sameValue ctx p.1 p.2) =
      (coercePair ctx.policy l' r').map fun p => sameValue ctx p.1 p.2)
    (horder : ∀ test, op.orderTest? = some test →
      (coercePair ctx.policy l r).bind (onNumbers test) =
        (coercePair ctx.policy l' r').bind (onNumbers test))
    (hop : op.stringTest? = none) : holds? ctx op l r = holds? ctx op l' r' := by
  cases op with
  | equals => rw [holds?_equals, holds?_equals, hsame]
  | notEquals =>
    have hnot := congrArg (Option.map not) hsame
    rw [Option.map_map, Option.map_map] at hnot
    rw [holds?_notEquals, holds?_notEquals]
    exact hnot
  | greaterThan | greaterEqual | lessThan | lessEqual =>
    rw [holds?_order rfl, holds?_order rfl, horder _ rfl]
  | startsWith | endsWith | contains | notContains => cases hop

end Verdict
