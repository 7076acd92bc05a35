import Verdict.Proofs.Coercion
import Verdict.Proofs.DigitLimit
import Verdict.Proofs.Number.Worth

/-! Laws of comparisons. Operators are words for the same relations seen from either side,
and for relations and their contraries; numbers, however they are given, compare by what
they are worth. -/

namespace Verdict

variable {ctx : Context} {policy : Policy} {op : ComparisonOperator} {l r : Value}

/-! ### Operators -/

namespace ComparisonOperator

theorem ofDatum?_symbol (op : ComparisonOperator) :
    ofDatum? (.symbol (.comparison op)) = some op := by
  cases op <;> decide +kernel

/-- The operator that says of two values what `op` says of them swapped; operators on strings
have none. -/
def converse? : ComparisonOperator → Option ComparisonOperator
  | .equals => some .equals
  | .notEquals => some .notEquals
  | .greaterThan => some .lessThan
  | .greaterEqual => some .lessEqual
  | .lessThan => some .greaterThan
  | .lessEqual => some .greaterEqual
  | .startsWith | .endsWith | .contains | .notContains => none

end ComparisonOperator

/-- Words for one operator compare alike. -/
theorem compare_of_ofDatum? {d : Datum} (h : ComparisonOperator.ofDatum? d = some op)
    (ctx : Context) (l r : Value) :
    compare ctx l d r = compare ctx l (.symbol (.comparison op)) r := by
  rw [compare, compare, h, op.ofDatum?_symbol]

/-! ### Failures -/

/-- What an outcome says apart from its reason. -/
def Outcome.verdict (o : Outcome) : Bool × Option FailureType := (o.succeeded, o.failureType?)

section Describe

variable (l r) (reason : Text → Text → Text) (type : FailureType)

/-- A failure whose reason shows two values never counts as success. -/
theorem describe_both_ne_success : (do
    let left ← l.describe
    let right ← r.describe
    return Outcome.failure (reason left right) type) ≠ Except.ok .success := by
  cases l.describe with
  | error fault => simp [bind, Except.bind]
  | ok left => cases r.describe <;> simp [bind, Except.bind, pure, Except.pure]

/-- Which of two values a reason shows first is not to be seen in the verdict. -/
theorem verdict_describe_swap (other : Text → Text → Text) :
    (do
      let left ← l.describe
      let right ← r.describe
      return Outcome.failure (reason left right) type : Except Fault Outcome).map Outcome.verdict =
    (do
      let left ← r.describe
      let right ← l.describe
      return Outcome.failure (other left right) type : Except Fault Outcome).map
        Outcome.verdict := by
  by_cases hl : l.IsOverlong <;> by_cases hr : r.IsOverlong
  · rw [Value.describe_of_isOverlong hl, Value.describe_of_isOverlong hr]
    rfl
  · obtain ⟨right, hright⟩ := Value.describe_of_not_isOverlong hr
    rw [Value.describe_of_isOverlong hl, hright]
    rfl
  · obtain ⟨left, hleft⟩ := Value.describe_of_not_isOverlong hl
    rw [Value.describe_of_isOverlong hr, hleft]
    rfl
  · obtain ⟨left, hleft⟩ := Value.describe_of_not_isOverlong hl
    obtain ⟨right, hright⟩ := Value.describe_of_not_isOverlong hr
    rw [hleft, hright]
    rfl

end Describe

/-! ### Success -/

/-- The comparison of two values by an operator succeeds. -/
def Succeeds (ctx : Context) (op : ComparisonOperator) (l r : Value) : Prop :=
  (compare ctx l (.symbol (.comparison op)) r).outcome = .ok .success

theorem succeeds_of_absent (h : (l.isAbsent || r.isAbsent) = true) :
    Succeeds ctx op l r ↔ l = .absent ∧ r = .absent ∧ op = .equals ∧
      ctx.policy.absentEqualsAbsent = true := by
  rw [Succeeds, compare, op.ofDatum?_symbol]
  simp only [h, if_true, Traced.pure_outcome, compareAbsent]
  cases l <;> cases r <;> simp_all [Value.isAbsent]

theorem succeeds_of_present (h : (l.isAbsent || r.isAbsent) = false) :
    Succeeds ctx op l r ↔ holds? ctx op l r = some true := by
  rw [Succeeds, compare, op.ofDatum?_symbol]
  simp only [h, Bool.false_eq_true, if_false]
  rcases holds? ctx op l r with _ | (_ | _)
  · simp only [Traced.ofExcept_outcome, reduceCtorEq, iff_false]
    exact describe_both_ne_success l r _ _
  · simp only [Traced.emit_bind_outcome, Traced.ofExcept_outcome, Option.some.injEq, reduceCtorEq,
      iff_false]
    exact describe_both_ne_success l r _ _
  · simp only [Traced.pure_outcome]

/-! ### What holds -/

theorem holds?_equals (ctx : Context) (l r : Value) :
    holds? ctx .equals l r =
      (coercePair ctx.policy l r).map fun p => sameValue ctx p.1 p.2 := by
  simp only [holds?, ComparisonOperator.stringTest?]
  cases coercePair ctx.policy l r <;> rfl

theorem holds?_notEquals (ctx : Context) (l r : Value) :
    holds? ctx .notEquals l r =
      (coercePair ctx.policy l r).map fun p => !sameValue ctx p.1 p.2 := by
  simp only [holds?, ComparisonOperator.stringTest?]
  cases coercePair ctx.policy l r <;> rfl

/-- The result of a test on two numbers, if these are two numbers. -/
def onNumbers (test : Number → Number → Bool) : Value × Value → Option Bool
  | (.number x, .number y) => some (test x y)
  | _ => none

theorem onNumbers_eq_some_iff {test : Number → Number → Bool} {p : Value × Value} {b : Bool} :
    onNumbers test p = some b ↔ ∃ x y, p = (.number x, .number y) ∧ test x y = b := by
  obtain ⟨l, r⟩ := p
  cases l <;> cases r <;> simp [onNumbers]

theorem holds?_order {test : Number → Number → Bool} (h : op.orderTest? = some test)
    (ctx : Context) (l r : Value) :
    holds? ctx op l r = (coercePair ctx.policy l r).bind (onNumbers test) := by
  cases op <;> cases h <;> simp only [holds?, ComparisonOperator.stringTest?] <;>
    rcases coercePair ctx.policy l r with _ | ⟨a, b⟩ <;> try rfl
  all_goals cases a <;> cases b <;> rfl

/-- The result of a test on two strings in the form they are compared in, if these are two
strings. -/
def onStrings (ctx : Context) (test : List Point → List Point → Bool) : Value → Value → Option Bool
  | .string a, .string b => some (test (ctx.fold a) (ctx.fold b))
  | _, _ => none

theorem onStrings_eq_some_iff {test : List Point → List Point → Bool} {b : Bool} :
    onStrings ctx test l r = some b ↔
      ∃ s t, l = .string s ∧ r = .string t ∧ test (ctx.fold s) (ctx.fold t) = b := by
  cases l <;> cases r <;> simp [onStrings]

theorem holds?_string {test : List Point → List Point → Bool} (h : op.stringTest? = some test)
    (ctx : Context) (l r : Value) : holds? ctx op l r = onStrings ctx test l r := by
  simp only [holds?, h]
  cases l <;> cases r <;> rfl

/-! ### When a comparison succeeds -/

theorem absent_of_reconciled {a b : Value} (h : coercePair policy l r = some (a, b))
    (habsent : (l.isAbsent || r.isAbsent) = true) :
    (l = .absent ∧ r = .absent) ∧ a = .absent ∧ b = .absent := by
  cases coercePair_eq_some_iff.1 h with
  | same hkind => cases l <;> cases r <;> simp_all [Value.isAbsent, Value.kind]
  | numbers _ hl hr => cases l <;> cases r <;> simp_all [Value.isAbsent, Value.toNumber?]
  | booleans _ hl hr => cases l <;> cases r <;> simp_all [Value.isAbsent, Value.toBoolean?]

/-- An order holds of what can be taken for two numbers. -/
theorem succeeds_order_iff {test : Number → Number → Bool} (h : op.orderTest? = some test) :
    Succeeds ctx op l r ↔
      ∃ x y, coercePair ctx.policy l r = some (.number x, .number y) ∧ test x y = true := by
  cases ha : l.isAbsent || r.isAbsent with
  | true =>
    rw [succeeds_of_absent ha]
    constructor
    · rintro ⟨-, -, rfl, -⟩
      cases h
    · rintro ⟨x, y, hpair, -⟩
      cases (absent_of_reconciled hpair ha).2.1
  | false =>
    rw [succeeds_of_present ha, holds?_order h, Option.bind_eq_some_iff]
    constructor
    · rintro ⟨p, hpair, htest⟩
      obtain ⟨x, y, rfl, hxy⟩ := onNumbers_eq_some_iff.1 htest
      exact ⟨x, y, hpair, hxy⟩
    · rintro ⟨x, y, hpair, htest⟩
      exact ⟨_, hpair, onNumbers_eq_some_iff.2 ⟨x, y, rfl, htest⟩⟩

/-- Values are equal as what they are compared as; absent ones only if the policy says so. -/
theorem succeeds_equals_iff : Succeeds ctx .equals l r ↔
    (∃ a b, coercePair ctx.policy l r = some (a, b) ∧ sameValue ctx a b = true) ∧
      (l = .absent → ctx.policy.absentEqualsAbsent = true) := by
  cases ha : l.isAbsent || r.isAbsent with
  | true =>
    rw [succeeds_of_absent ha]
    constructor
    · rintro ⟨rfl, rfl, -, hp⟩
      exact ⟨⟨.absent, .absent, coercePair_of_kind_eq rfl, rfl⟩, fun _ => hp⟩
    · rintro ⟨⟨a, b, hpair, -⟩, hp⟩
      obtain ⟨⟨rfl, rfl⟩, -⟩ := absent_of_reconciled hpair ha
      exact ⟨rfl, rfl, rfl, hp rfl⟩
  | false =>
    rw [succeeds_of_present ha, holds?_equals, Option.map_eq_some_iff]
    constructor
    · rintro ⟨⟨a, b⟩, hpair, hsame⟩
      refine ⟨⟨a, b, hpair, hsame⟩, ?_⟩
      rintro rfl
      cases ha
    · rintro ⟨⟨a, b, hpair, hsame⟩, -⟩
      exact ⟨_, hpair, hsame⟩

theorem succeeds_notEquals_iff : Succeeds ctx .notEquals l r ↔
    ∃ a b, coercePair ctx.policy l r = some (a, b) ∧ sameValue ctx a b = false := by
  cases ha : l.isAbsent || r.isAbsent with
  | true =>
    rw [succeeds_of_absent ha]
    constructor
    · rintro ⟨-, -, hop, -⟩
      cases hop
    · rintro ⟨a, b, hpair, hsame⟩
      obtain ⟨-, rfl, rfl⟩ := absent_of_reconciled hpair ha
      cases hsame
  | false =>
    rw [succeeds_of_present ha, holds?_notEquals, Option.map_eq_some_iff]
    constructor
    · rintro ⟨⟨a, b⟩, hpair, hsame⟩
      exact ⟨a, b, hpair, by simpa using hsame⟩
    · rintro ⟨a, b, hpair, hsame⟩
      exact ⟨_, hpair, by simpa using hsame⟩

/-- An operator on strings holds of two strings. -/
theorem succeeds_string_iff {test : List Point → List Point → Bool}
    (h : op.stringTest? = some test) :
    Succeeds ctx op l r ↔
      ∃ s t, l = .string s ∧ r = .string t ∧ test (ctx.fold s) (ctx.fold t) = true := by
  cases ha : l.isAbsent || r.isAbsent with
  | true =>
    rw [succeeds_of_absent ha]
    constructor
    · rintro ⟨-, -, rfl, -⟩
      cases h
    · rintro ⟨s, t, rfl, rfl, -⟩
      cases ha
  | false => rw [succeeds_of_present ha, holds?_string h, onStrings_eq_some_iff]

/-- Strings are equal in the form they are compared in. -/
theorem succeeds_equals_strings_iff (s t : Text) :
    Succeeds ctx .equals (.string s) (.string t) ↔ ctx.fold s = ctx.fold t := by
  have hpair : coercePair ctx.policy (.string s) (.string t) = some (.string s, .string t) :=
    coercePair_of_kind_eq rfl
  rw [succeeds_equals_iff]
  simp [hpair, sameValue]

/-! ### Either side first -/

theorem sameValue_comm (ctx : Context) (a b : Value) : sameValue ctx a b = sameValue ctx b a := by
  cases a <;> cases b <;> simp only [sameValue, Bool.beq_comm, Number.eqv_comm]

theorem holds?_converse {other : ComparisonOperator} (h : op.converse? = some other) (ctx : Context)
    (l r : Value) : holds? ctx op l r = holds? ctx other r l := by
  -- What two values are compared as swaps with them, so a test has to give way to its mirror image.
  have hmap (f : Value × Value → Bool) (hf : ∀ p, f p.swap = f p) :
      (coercePair ctx.policy l r).map f = (coercePair ctx.policy r l).map f := by
    rw [coercePair_swap ctx.policy l r, Option.map_map]
    exact congrArg (Option.map · _) (funext fun p => (hf p).symm)
  have hbind {test swapped : Number → Number → Bool} (htest : ∀ x y, test x y = swapped y x) :
      (coercePair ctx.policy l r).bind (onNumbers test) =
        (coercePair ctx.policy r l).bind (onNumbers swapped) := by
    rw [coercePair_swap ctx.policy l r]
    rcases coercePair ctx.policy l r with _ | ⟨a, b⟩
    · rfl
    · cases a <;> cases b <;> simp [onNumbers, htest]
  cases op <;> cases h
  · rw [holds?_equals, holds?_equals]
    exact hmap _ fun p => sameValue_comm ctx p.2 p.1
  · rw [holds?_notEquals, holds?_notEquals]
    exact hmap _ fun p => congrArg not (sameValue_comm ctx p.2 p.1)
  all_goals
    rw [holds?_order rfl, holds?_order rfl]
    exact hbind fun x y => rfl

theorem compareAbsent_converse {other : ComparisonOperator} (h : op.converse? = some other)
    (policy : Policy) (l r : Value) :
    (compareAbsent policy op l r).verdict = (compareAbsent policy other r l).verdict := by
  have hequals : op = .equals ↔ other = .equals := by
    cases op <;> cases h <;> simp
  simp only [compareAbsent, hequals, Bool.and_comm r.isAbsent]
  cases l.isAbsent <;> cases r.isAbsent <;>
    simp [Outcome.verdict, Outcome.succeeded, Outcome.failureType?]

/-- An operator and its converse come to one verdict on two values, or to one fault. -/
theorem compare_converse {other : ComparisonOperator} (h : op.converse? = some other)
    (ctx : Context) (l r : Value) :
    (compare ctx l (.symbol (.comparison op)) r).outcome.map Outcome.verdict =
      (compare ctx r (.symbol (.comparison other)) l).outcome.map Outcome.verdict := by
  rw [compare, compare, op.ofDatum?_symbol, other.ofDatum?_symbol]
  dsimp only
  rw [Bool.or_comm r.isAbsent, holds?_converse h]
  -- Both sides now take the same branch, and differ in the order of the values in the reason.
  split
  · exact congrArg Except.ok (compareAbsent_converse h _ l r)
  · rcases holds? ctx other r l with _ | (_ | _)
    · exact verdict_describe_swap l r _ _ _
    · rw [Traced.emit_bind_outcome, Traced.emit_bind_outcome]
      exact verdict_describe_swap l r _ _ _
    · rfl

/-! ### One of several -/

theorem succeeds_equals_iff_not_notEquals (hl : l.isAbsent = false)
    (h : (coercePair ctx.policy l r).isSome) :
    Succeeds ctx .equals l r ↔ ¬ Succeeds ctx .notEquals l r := by
  obtain ⟨⟨a, b⟩, hpair⟩ := Option.isSome_iff_exists.1 h
  have hne : l ≠ .absent := by
    rintro rfl
    cases hl
  rw [succeeds_equals_iff, succeeds_notEquals_iff]
  simp [hpair, hne]

theorem succeeds_contains_iff_not_notContains (hl : l.kind = .string) (hr : r.kind = .string) :
    Succeeds ctx .contains l r ↔ ¬ Succeeds ctx .notContains l r := by
  rw [succeeds_string_iff rfl, succeeds_string_iff rfl]
  cases l <;> cases hl
  cases r <;> cases hr
  simp

section Numbers

variable {x y : Number} (h : coercePair ctx.policy l r = some (.number x, .number y))

include h

theorem succeeds_order_iff_test {test : Number → Number → Bool} (hop : op.orderTest? = some test) :
    Succeeds ctx op l r ↔ test x y = true := by
  rw [succeeds_order_iff hop]
  simp [h]

theorem succeeds_equals_iff_eqv : Succeeds ctx .equals l r ↔ x.eqv y = true := by
  have hne : l ≠ .absent := by
    rintro rfl
    cases (absent_of_reconciled h rfl).2.1
  rw [succeeds_equals_iff]
  simp [h, hne, sameValue]

theorem succeeds_notEquals_iff_eqv : Succeeds ctx .notEquals l r ↔ x.eqv y = false := by
  rw [succeeds_notEquals_iff]
  simp [h, sameValue]

theorem not_succeeds_of_stringTest? {test : List Point → List Point → Bool}
    (hop : op.stringTest? = some test) : ¬ Succeeds ctx op l r := by
  rw [succeeds_string_iff hop]
  rintro ⟨s, t, rfl, rfl, -⟩
  have hpair : coercePair ctx.policy (.string s) (.string t) = some (.string s, .string t) :=
    coercePair_of_kind_eq rfl
  rw [hpair] at h
  cases h

/-- Numbers compare as their worths do. -/
theorem succeeds_iff_worth {p q : Worth} (hx : x.worth? = some p) (hy : y.worth? = some q) :
    (Succeeds ctx .lessThan l r ↔ p < q) ∧ (Succeeds ctx .equals l r ↔ p = q) ∧
    (Succeeds ctx .greaterThan l r ↔ q < p) ∧ (Succeeds ctx .lessEqual l r ↔ p ≤ q) ∧
    (Succeeds ctx .greaterEqual l r ↔ q ≤ p) := by
  refine ⟨?_, ?_, ?_, ?_, ?_⟩
  · rw [succeeds_order_iff_test h rfl, Number.lt_iff]
    simp [hx, hy]
  · rw [succeeds_equals_iff_eqv h, Number.eqv_iff]
    simp [hx, hy, eq_comm]
  · rw [succeeds_order_iff_test h rfl, Number.lt_iff]
    simp [hx, hy]
  · rw [succeeds_order_iff_test h rfl, Number.le_iff]
    simp [hx, hy]
  · rw [succeeds_order_iff_test h rfl, Number.le_iff]
    simp [hx, hy]

/-- A NaN differs from every number, itself included, and that is all that holds of it. -/
theorem succeeds_iff_of_isNaN (hnan : x.isNaN = true ∨ y.isNaN = true) (op : ComparisonOperator) :
    Succeeds ctx op l r ↔ op = .notEquals := by
  rw [Number.isNaN_iff, Number.isNaN_iff] at hnan
  have hlt : x.lt y = false ∧ y.lt x = false := by
    simp only [Bool.eq_false_iff, ne_eq, Number.lt_iff]
    rcases hnan with hx | hy <;> simp [*]
  have hle : x.le y = false ∧ y.le x = false := by
    simp only [Bool.eq_false_iff, ne_eq, Number.le_iff]
    rcases hnan with hx | hy <;> simp [*]
  have heqv : x.eqv y = false := by
    simp only [Bool.eq_false_iff, ne_eq, Number.eqv_iff]
    rcases hnan with hx | hy <;> simp [*]
  cases op with
  | equals =>
    rw [succeeds_equals_iff_eqv h]
    simp [heqv]
  | notEquals =>
    rw [succeeds_notEquals_iff_eqv h]
    simp [heqv]
  | greaterThan | greaterEqual | lessThan | lessEqual =>
    rw [succeeds_order_iff_test h rfl]
    simp [hlt, hle]
  | startsWith | endsWith | contains | notContains =>
    exact iff_of_false (not_succeeds_of_stringTest? h rfl) (by simp)

/-- Of less, equal and greater exactly one holds of two numbers that are worth something. -/
theorem existsUnique_succeeds (hx : x.isNaN = false) (hy : y.isNaN = false) :
    (∃! op, op ∈ [.lessThan, .equals, .greaterThan] ∧ Succeeds ctx op l r) ∧
    (Succeeds ctx .lessEqual l r ↔ Succeeds ctx .lessThan l r ∨ Succeeds ctx .equals l r) ∧
    (Succeeds ctx .greaterEqual l r ↔
      Succeeds ctx .greaterThan l r ∨ Succeeds ctx .equals l r) := by
  obtain ⟨p, hp⟩ := Number.exists_worth hx
  obtain ⟨q, hq⟩ := Number.exists_worth hy
  obtain ⟨hlt, heq, hgt, hle, hge⟩ := succeeds_iff_worth h hp hq
  refine ⟨?_, ?_, ?_⟩
  · have hmem (op : ComparisonOperator) :
        op ∈ [.lessThan, .equals, .greaterThan] ↔
          op = .lessThan ∨ op = .equals ∨ op = .greaterThan := by simp
    rcases lt_trichotomy p q with hpq | hpq | hpq
    · refine ⟨.lessThan, ⟨by simp, hlt.2 hpq⟩, ?_⟩
      rintro op ⟨hop, hop'⟩
      rcases (hmem op).1 hop with rfl | rfl | rfl
      · rfl
      · exact absurd (heq.1 hop') hpq.ne
      · exact absurd (hgt.1 hop') hpq.not_gt
    · refine ⟨.equals, ⟨by simp, heq.2 hpq⟩, ?_⟩
      rintro op ⟨hop, hop'⟩
      rcases (hmem op).1 hop with rfl | rfl | rfl
      · exact absurd (hlt.1 hop') hpq.not_lt
      · rfl
      · exact absurd (hgt.1 hop') hpq.not_gt
    · refine ⟨.greaterThan, ⟨by simp, hgt.2 hpq⟩, ?_⟩
      rintro op ⟨hop, hop'⟩
      rcases (hmem op).1 hop with rfl | rfl | rfl
      · exact absurd (hlt.1 hop') hpq.not_gt
      · exact absurd (heq.1 hop') hpq.ne'
      · rfl
  · rw [hle, hlt, heq, le_iff_lt_or_eq]
  · rw [hge, hgt, heq, le_iff_lt_or_eq, eq_comm]

end Numbers

/-! ### The laws -/

/-- The laws of order and negation, as they hold of two values. -/
structure OrderLaws (ctx : Context) (l r : Value) : Prop where
  words (op : ComparisonOperator) (d : Datum) (h : ComparisonOperator.ofDatum? d = some op) :
    compare ctx l d r = compare ctx l (.symbol (.comparison op)) r
  /-- An operator says of two values what its converse says of them swapped. Faults count, the
  reason of a failure does not. -/
  swapped (op other : ComparisonOperator) (h : op.converse? = some other) :
    (compare ctx l (.symbol (.comparison op)) r).outcome.map Outcome.verdict =
      (compare ctx r (.symbol (.comparison other)) l).outcome.map Outcome.verdict
  contrary (hl : l.isAbsent = false) (hr : r.isAbsent = false)
    (h : (coercePair ctx.policy l r).isSome) :
    Succeeds ctx .equals l r ↔ ¬ Succeeds ctx .notEquals l r
  contraryOnStrings (hl : l.kind = .string) (hr : r.kind = .string) :
    Succeeds ctx .contains l r ↔ ¬ Succeeds ctx .notContains l r
  /-- Of two numbers that are not NaN, one is less, or both are equal, or one is greater. -/
  trichotomy (x y : Number) (h : coercePair ctx.policy l r = some (.number x, .number y))
    (hx : x.isNaN = false) (hy : y.isNaN = false) :
    (∃! op, op ∈ [.lessThan, .equals, .greaterThan] ∧ Succeeds ctx op l r) ∧
    (Succeeds ctx .lessEqual l r ↔ Succeeds ctx .lessThan l r ∨ Succeeds ctx .equals l r) ∧
    (Succeeds ctx .greaterEqual l r ↔ Succeeds ctx .greaterThan l r ∨ Succeeds ctx .equals l r)
  /-- Which of the three it is rests on what the numbers are worth, and on that alone. -/
  worths (x y : Number) (h : coercePair ctx.policy l r = some (.number x, .number y)) (p q : Worth)
    (hx : x.worth? = some p) (hy : y.worth? = some q) :
    (Succeeds ctx .lessThan l r ↔ p < q) ∧ (Succeeds ctx .equals l r ↔ p = q) ∧
    (Succeeds ctx .greaterThan l r ↔ q < p) ∧ (Succeeds ctx .lessEqual l r ↔ p ≤ q) ∧
    (Succeeds ctx .greaterEqual l r ↔ q ≤ p)
  nan (x y : Number) (h : coercePair ctx.policy l r = some (.number x, .number y))
    (hnan : x.isNaN = true ∨ y.isNaN = true) (op : ComparisonOperator) :
    Succeeds ctx op l r ↔ op = .notEquals

/-- Comparison obeys the laws of order and negation in every context. -/
theorem orderLaws (ctx : Context) (l r : Value) : OrderLaws ctx l r where
  words _ _ h := compare_of_ofDatum? h ctx l r
  swapped _ _ h := compare_converse h ctx l r
  contrary hl _ h := succeeds_equals_iff_not_notEquals hl h
  contraryOnStrings := succeeds_contains_iff_not_notContains
  trichotomy _ _ := existsUnique_succeeds
  worths _ _ h _ _ := succeeds_iff_worth h
  nan _ _ := succeeds_iff_of_isNaN

/-- An integer given as text is told apart from the double nearest to it. -/
theorem orderLaws_next_to_double :
    let ctx : Context := ⟨fun _ => .ok .null, .empty, .known .default, {}⟩
    let l : Value := .string "9007199254740993"
    let double : Number := .double (.nearest false 9007199254740993 1)
    coercePair ctx.policy l (.number double) =
        some (.number (.int 9007199254740993), .number double) ∧
      double.eqv (.int 9007199254740992) = true ∧ Succeeds ctx .greaterThan l (.number double) ∧
      ¬ Succeeds ctx .equals l (.number double) ∧ Succeeds ctx .notEquals l (.number double) := by
  intro ctx l double
  have hpair : coercePair ctx.policy l (.number double) =
      some (.number (.int 9007199254740993), .number double) := by
    decide +kernel
  have hworth : double.worth? = (Number.int 9007199254740992).worth? := by
    have hplace : double.place? = (Number.int 9007199254740992).place? := by decide +kernel
    rw [Number.worth?_eq, Number.worth?_eq, hplace]
  have hless : (((9007199254740992 : ℤ) : ℚ) : Worth) < ((9007199254740993 : ℤ) : ℚ) := by
    rw [WithBotTop.coe_lt_coe, Int.cast_lt]
    decide
  have hlaws := orderLaws ctx l (.number double)
  obtain ⟨-, hequals, hgreater, -, -⟩ := hlaws.worths _ _ hpair _ _ rfl hworth
  have hne : ¬ Succeeds ctx .equals l (.number double) := fun h => hless.ne' (hequals.1 h)
  have hcontrary := hlaws.contrary rfl rfl (by rw [hpair]; rfl)
  exact ⟨hpair, by decide +kernel, hgreater.2 hless, hne, not_not.1 (mt hcontrary.2 hne)⟩

end Verdict
