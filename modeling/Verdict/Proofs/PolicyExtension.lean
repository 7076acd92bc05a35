import Verdict.Proofs.Comparison

/-! What becomes of a comparison when the policy allows more. What could be compared is compared
as before, reason and all; the only new answers are about values that could not be compared. -/

namespace Verdict

variable {ctx strict lenient : Context} {op : ComparisonOperator} {l r : Value} {d : Datum}
  {kind : ValueKind}

/-! ### Flags -/

/-- Two contexts that compare strings alike; the second allows whatever the first does. -/
structure PolicyWidened (strict lenient : Context) : Prop where
  ignoresCase : strict.ignoresCase = lenient.ignoresCase
  numericStrings : strict.policy.numericStrings = true → lenient.policy.numericStrings = true
  booleanStrings : strict.policy.booleanStrings = true → lenient.policy.booleanStrings = true
  absentEqualsAbsent :
    strict.policy.absentEqualsAbsent = true → lenient.policy.absentEqualsAbsent = true

/-- The second of two contexts allows what the first does not. -/
def NewlyAllows (strict lenient : Context) (flag : Policy → Bool) : Prop :=
  flag strict.policy = false ∧ flag lenient.policy = true

theorem eq_or_newlyAllows {flag : Policy → Bool}
    (h : flag strict.policy = true → flag lenient.policy = true) :
    flag strict.policy = flag lenient.policy ∨ NewlyAllows strict lenient flag := by
  cases hs : flag strict.policy with
  | true => exact .inl (h hs).symm
  | false =>
    cases hl : flag lenient.policy with
    | true => exact .inr ⟨hs, hl⟩
    | false => exact .inl rfl

/-- Whether a policy lets strings be read as values of a kind. -/
def Policy.readsStrings (kind : ValueKind) (policy : Policy) : Bool :=
  match kind with
  | .number => policy.numericStrings
  | .boolean => policy.booleanStrings
  | .string | .absent => false

/-- One of two values is a string and the other is of this kind. -/
def StringBeside (kind : ValueKind) (l r : Value) : Prop :=
  (l.kind = .string ∧ r.kind = kind) ∨ (l.kind = kind ∧ r.kind = .string)

/-! ### Values that go together -/

/-- Of a policy, two values meet only the flag for strings beside their kind. -/
theorem coercePair_congr_readsStrings {p q : Policy}
    (h : ∀ kind, StringBeside kind l r → p.readsStrings kind = q.readsStrings kind) :
    coercePair p l r = coercePair q l r := by
  have hnumber := h .number
  have hboolean := h .boolean
  cases l <;> cases r <;>
    simp_all [StringBeside, Value.kind, Policy.readsStrings, coercePair]

theorem coercePair_of_stringBeside {policy : Policy} (h : StringBeside kind l r)
    (hkind : kind ≠ .string) (hflag : policy.readsStrings kind = false) :
    coercePair policy l r = none := by
  rcases h with ⟨hl, rfl⟩ | ⟨rfl, hr⟩ <;> cases l <;> cases r <;>
    simp_all [Value.kind, Policy.readsStrings, coercePair]

/-- Values that do not go together cannot be compared by any operator. -/
theorem holds?_of_coercePair_eq_none (h : coercePair ctx.policy l r = none)
    (op : ComparisonOperator) : holds? ctx op l r = none := by
  cases op with
  | equals => rw [holds?_equals, h, Option.map_none]
  | notEquals => rw [holds?_notEquals, h, Option.map_none]
  | greaterThan | greaterEqual | lessThan | lessEqual =>
    rw [holds?_order rfl, h, Option.bind_none]
  | startsWith | endsWith | contains | notContains =>
    rw [holds?_string rfl]
    cases l <;> cases r <;> simp_all [onStrings, coercePair, Value.kind]

theorem compare_of_coercePair_eq_none (hop : ComparisonOperator.ofDatum? d = some op)
    (habsent : (l.isAbsent || r.isAbsent) = false) (h : coercePair ctx.policy l r = none) :
    (compare ctx l d r).outcome = mismatch op l r := by
  rw [compare, hop]
  simp only [habsent, Bool.false_eq_true, if_false, holds?_of_coercePair_eq_none h op,
    Traced.ofExcept_outcome]

namespace PolicyWidened

variable (h : PolicyWidened strict lenient)

include h

theorem readsStrings (kind : ValueKind) (hs : strict.policy.readsStrings kind = true) :
    lenient.policy.readsStrings kind = true := by
  cases kind with
  | number => exact h.numericStrings hs
  | boolean => exact h.booleanStrings hs
  | string => cases hs
  | absent => cases hs

theorem coercePair_eq_or (l r : Value) :
    coercePair strict.policy l r = coercePair lenient.policy l r ∨
      ∃ kind, StringBeside kind l r ∧ NewlyAllows strict lenient (Policy.readsStrings kind) := by
  by_cases hnew : ∃ kind, StringBeside kind l r ∧
      NewlyAllows strict lenient (Policy.readsStrings kind)
  · exact .inr hnew
  · refine .inl (coercePair_congr_readsStrings fun kind hbeside => ?_)
    exact (eq_or_newlyAllows (h.readsStrings kind)).resolve_right fun hflag =>
      hnew ⟨kind, hbeside, hflag⟩

theorem holds?_eq (hpair : coercePair strict.policy l r = coercePair lenient.policy l r)
    (op : ComparisonOperator) : holds? strict op l r = holds? lenient op l r := by
  have hfold : strict.fold = lenient.fold := by
    funext s
    rw [Context.fold, Context.fold, h.ignoresCase]
  have hsame : sameValue strict = sameValue lenient := by
    funext a b
    cases a <;> cases b <;> simp only [sameValue, hfold]
  rw [holds?, holds?, hfold, hsame, hpair]

end PolicyWidened

/-! ### Comparisons -/

/-- An operator and two values that only the second of two contexts lets it compare. -/
inductive NewlyCompared (strict lenient : Context) : ComparisonOperator → Value → Value → Prop
  | strings {op : ComparisonOperator} {l r : Value} {kind : ValueKind}
      (h : StringBeside kind l r) (hflag : NewlyAllows strict lenient (Policy.readsStrings kind)) :
      NewlyCompared strict lenient op l r
  | absent (hflag : NewlyAllows strict lenient Policy.absentEqualsAbsent) :
      NewlyCompared strict lenient .equals .absent .absent

theorem PolicyWidened.compareAbsent_eq_or (h : PolicyWidened strict lenient)
    (op : ComparisonOperator) (l r : Value) :
    compareAbsent lenient.policy op l r = compareAbsent strict.policy op l r ∨
      NewlyCompared strict lenient op l r := by
  by_cases hequals : l = .absent ∧ r = .absent ∧ op = .equals
  · obtain ⟨rfl, rfl, rfl⟩ := hequals
    rcases eq_or_newlyAllows h.absentEqualsAbsent with hflag | hflag
    · simp only [compareAbsent, hflag, true_or]
    · exact .inr (.absent hflag)
  · -- nothing but the equality of two absent values looks at the policy
    refine .inl ?_
    cases l <;> cases r <;> simp_all [compareAbsent, Value.isAbsent]

/-- A comparison comes out the same unless it is one that was not allowed before. -/
theorem PolicyWidened.newlyCompared_of_ne (h : PolicyWidened strict lenient)
    (hne : compare lenient l d r ≠ compare strict l d r) :
    ∃ op, ComparisonOperator.ofDatum? d = some op ∧ NewlyCompared strict lenient op l r := by
  rw [compare, compare] at hne
  cases hop : ComparisonOperator.ofDatum? d with
  | none => simp [hop] at hne
  | some op =>
    refine ⟨op, rfl, ?_⟩
    rw [hop] at hne
    cases habsent : l.isAbsent || r.isAbsent with
    | true =>
      simp only [habsent, if_true] at hne
      exact (h.compareAbsent_eq_or op l r).resolve_left fun heq => hne (by rw [heq])
    | false =>
      simp only [habsent, Bool.false_eq_true, if_false] at hne
      rcases h.coercePair_eq_or l r with hpair | ⟨kind, hbeside, hflag⟩
      · rw [h.holds?_eq hpair] at hne
        exact absurd rfl hne
      · exact .strings hbeside hflag

theorem failureType?_of_mismatch {o : Outcome} (h : mismatch op l r = .ok o) :
    o.failureType? = some .typeMismatched := by
  rw [mismatch] at h
  cases hl : l.describe with
  | error fault => rw [hl] at h; cases h
  | ok left =>
    cases hr : r.describe with
    | error fault => rw [hl, hr] at h; cases h
    | ok right => rw [hl, hr] at h; cases h; rfl

/-- A string beside a value that it is not read as is a mismatch to every operator. -/
theorem failureType?_of_stringBeside {o : Outcome}
    (hop : ComparisonOperator.ofDatum? d = some op) (hbeside : StringBeside kind l r)
    (hflag : NewlyAllows strict lenient (Policy.readsStrings kind))
    (ho : (compare strict l d r).outcome = .ok o) : o.failureType? = some .typeMismatched := by
  have hkind : kind = .number ∨ kind = .boolean := by
    have hread := hflag.2
    cases kind <;> simp_all [Policy.readsStrings]
  have habsent : (l.isAbsent || r.isAbsent) = false := by
    rcases hkind with rfl | rfl <;> rcases hbeside with ⟨hl, hr⟩ | ⟨hl, hr⟩ <;>
      cases l <;> cases hl <;> cases r <;> cases hr <;> rfl
  have hpair : coercePair strict.policy l r = none :=
    coercePair_of_stringBeside hbeside (by rcases hkind with rfl | rfl <;> decide) hflag.1
  rw [compare_of_coercePair_eq_none hop habsent hpair] at ho
  exact failureType?_of_mismatch ho

theorem compare_absent_equals (hop : ComparisonOperator.ofDatum? d = some .equals) (ctx : Context) :
    (compare ctx .absent d .absent).outcome =
      .ok (if ctx.policy.absentEqualsAbsent then .success
        else .failure "Both operands did not resolve" .invalidOperand) := by
  rw [compare, hop]
  simp [compareAbsent, Value.isAbsent]

/-- What becomes of a comparison when the policy allows more. -/
structure Conserved (strict lenient : Context) (l : Value) (d : Datum) (r : Value) : Prop where
  /-- What succeeded or failed for good does so in the same way, reason and records included. -/
  kept (o : Outcome) (h : (compare strict l d r).outcome = .ok o)
    (ho : o = .success ∨ o.failureType? = some .conditionFailed ∨
      o.failureType? = some .missingOperator) :
    compare lenient l d r = compare strict l d r
  /-- A mismatch goes away between a string and what strings are newly read as. -/
  mismatched (reason : Text)
    (h : (compare strict l d r).outcome = .ok (.failure reason .typeMismatched))
    (hne : compare lenient l d r ≠ compare strict l d r) :
    (StringBeside .number l r ∧ strict.policy.numericStrings = false ∧
        lenient.policy.numericStrings = true) ∨
      (StringBeside .boolean l r ∧ strict.policy.booleanStrings = false ∧
        lenient.policy.booleanStrings = true)
  /-- Of operands that are not there, only two under `equals` come to anything else. -/
  unresolved (reason : Text)
    (h : (compare strict l d r).outcome = .ok (.failure reason .invalidOperand))
    (hne : compare lenient l d r ≠ compare strict l d r) :
    (compare lenient l d r).outcome = .ok .success ∧
      ComparisonOperator.ofDatum? d = some .equals ∧ l = .absent ∧ r = .absent ∧
      strict.policy.absentEqualsAbsent = false ∧ lenient.policy.absentEqualsAbsent = true

/-- A policy that allows more extends the comparisons of one that allows less. -/
theorem conserved_of_policyWidened (h : PolicyWidened strict lenient) (l : Value) (d : Datum)
    (r : Value) : Conserved strict lenient l d r where
  kept o hstrict ho := by
    by_contra hne
    obtain ⟨op, hop, hnew⟩ := h.newlyCompared_of_ne hne
    cases hnew with
    | strings hbeside hflag =>
      have htype := failureType?_of_stringBeside hop hbeside hflag hstrict
      rcases ho with rfl | ho | ho
      · cases htype
      · simp [htype] at ho
      · simp [htype] at ho
    | absent hflag =>
      rw [compare_absent_equals hop, hflag.1] at hstrict
      cases hstrict
      simp [Outcome.failureType?] at ho
  mismatched reason hstrict hne := by
    obtain ⟨op, hop, hnew⟩ := h.newlyCompared_of_ne hne
    cases hnew with
    | @strings _ _ _ kind hbeside hflag =>
      cases kind with
      | number => exact .inl ⟨hbeside, hflag⟩
      | boolean => exact .inr ⟨hbeside, hflag⟩
      | string => cases hflag.2
      | absent => cases hflag.2
    | absent hflag =>
      rw [compare_absent_equals hop, hflag.1] at hstrict
      cases hstrict
  unresolved reason hstrict hne := by
    obtain ⟨op, hop, hnew⟩ := h.newlyCompared_of_ne hne
    cases hnew with
    | strings hbeside hflag =>
      have htype := failureType?_of_stringBeside hop hbeside hflag hstrict
      cases htype
    | absent hflag =>
      refine ⟨?_, hop, rfl, rfl, hflag⟩
      rw [compare_absent_equals hop, hflag.2, if_pos rfl]

/-- A numeral is compared with a number once strings are read as numbers, and with other strings
as ever. -/
theorem conserved_of_policyWidened_numeral :
    let strict : Context := ⟨fun _ => .ok .null, .empty, .known .default, ⟨false, true, false⟩⟩
    let lenient : Context := ⟨fun _ => .ok .null, .empty, .known .default, ⟨true, true, true⟩⟩
    let l : Value := .string "33"
    PolicyWidened strict lenient ∧
      compare lenient l (.string "==") (.string "33.0") =
        compare strict l (.string "==") (.string "33.0") ∧
      (compare strict l (.string "<") (.number (.int 40))).outcome =
        mismatch .lessThan l (.number (.int 40)) ∧
      (compare lenient l (.string "<") (.number (.int 40))).outcome = .ok .success := by
  intro strict lenient l
  have hwidened : PolicyWidened strict lenient :=
    ⟨rfl, fun _ => rfl, fun _ => rfl, fun _ => rfl⟩
  refine ⟨hwidened, ?_, ?_, ?_⟩
  · exact (conserved_of_policyWidened hwidened _ _ _).kept _ rfl (.inr (.inl rfl))
  · exact compare_of_coercePair_eq_none (by decide +kernel) rfl rfl
  · decide +kernel

end Verdict
