import Verdict.Proofs.Verdicts

/-! Grounds on which comparisons fail. The word of the operator is looked at first, then what is
absent, and last which kind the two values share; no two grounds hold at once. -/

namespace Verdict

variable {ctx : Context} {policy : Policy} {op : ComparisonOperator} {l r a b : Value} {d : Datum}
  {s : Text} {kind : ValueKind}

/-! ### Words of operators -/

namespace ComparisonOperator

/-- A text is a name or another word of an operator, blanks and case aside. -/
def NamedBy (op : ComparisonOperator) (s : Text) : Prop := (normalWord s, op) ∈ words

theorem ofDatum?_eq_some_iff (h : d.word? = some s) : ofDatum? d = some op ↔ op.NamedBy s := by
  rw [ofDatum?, h, Option.bind_some]
  exact Registry.lookup_eq_some_iff_mem (by decide)

/-- What an operator asks for: values of one kind, two numbers or two strings. -/
inductive Demand where
  | oneKind | numbers | strings

def demand : ComparisonOperator → Demand
  | .equals | .notEquals => .oneKind
  | .greaterThan | .greaterEqual | .lessThan | .lessEqual => .numbers
  | .startsWith | .endsWith | .contains | .notContains => .strings

end ComparisonOperator

/-! ### Kinds in common -/

/-- Under a policy a text stands for a value of some kind. -/
inductive Policy.Reads (policy : Policy) (s : Text) : ValueKind → Prop
  | number {n : Number} (h : policy.numericStrings = true)
      (hs : Number.read? s.toList = some n) (hn : n.isNaN = false) : Reads policy s .number
  | boolean (h : policy.booleanStrings = true)
      (hs : normalWord s = "true" ∨ normalWord s = "false") : Reads policy s .boolean

theorem Policy.reads_number_iff :
    policy.Reads s .number ↔ ∃ n, (Value.string s).toNumber? policy = some n := by
  constructor
  · rintro @⟨n, hflag, hs, hn⟩
    refine ⟨n, ?_⟩
    rw [Value.toNumber?, if_pos hflag, hs, Option.filter_some_pos (by rw [hn]; rfl)]
  · rintro ⟨n, h⟩
    rw [Value.toNumber?] at h
    split at h
    · next hflag =>
      obtain ⟨hs, hn⟩ := Option.filter_eq_some_iff.1 h
      exact .number hflag hs (by simpa using hn)
    · cases h

theorem Policy.reads_boolean_iff :
    policy.Reads s .boolean ↔ ∃ b, (Value.string s).toBoolean? policy = some b := by
  constructor
  · rintro (_ | ⟨hflag, hs | hs⟩)
    · exact ⟨true, by simp [Value.toBoolean?, hflag, hs]⟩
    · exact ⟨false, by simp [Value.toBoolean?, hflag, hs]⟩
  · rintro ⟨b, h⟩
    rw [Value.toBoolean?] at h
    split at h
    · next hflag =>
      split at h
      · next hs => exact .boolean hflag (.inl hs)
      · split at h
        · next hs => exact .boolean hflag (.inr hs)
        · cases h
    · cases h

/-- The kind that two values share, a text standing for a value of the other's kind. -/
inductive CommonKind (policy : Policy) : Value → Value → ValueKind → Prop
  | same {l r : Value} (h : l.kind = r.kind) : CommonKind policy l r l.kind
  | left {s : Text} {r : Value} (h : policy.Reads s r.kind) :
      CommonKind policy (.string s) r r.kind
  | right {l : Value} {s : Text} (h : policy.Reads s l.kind) :
      CommonKind policy l (.string s) l.kind

theorem kind_eq_of_coercePair (h : coercePair policy l r = some (a, b)) : a.kind = b.kind := by
  cases coercePair_eq_some_iff.1 h with
  | same hkind => exact hkind
  | numbers => rfl
  | booleans => rfl

theorem exists_coercePair_of_reads (h : policy.Reads s r.kind) :
    ∃ a b, coercePair policy (.string s) r = some (a, b) ∧ a.kind = r.kind := by
  cases r with
  | number n =>
    obtain ⟨x, hx⟩ := Policy.reads_number_iff.1 h
    exact ⟨_, _, coercePair_eq_numbers_iff.2 ⟨hx, rfl, by simp [Value.kind]⟩, rfl⟩
  | boolean b =>
    obtain ⟨x, hx⟩ := Policy.reads_boolean_iff.1 h
    exact ⟨_, _, coercePair_eq_booleans_iff.2 ⟨hx, rfl, by simp [Value.kind]⟩, rfl⟩
  | string t => cases h
  | absent => cases h

/-- What can be taken for a number is one or is a text for one. -/
theorem Value.stands_of_toNumber? {v : Value} {n : Number} (h : v.toNumber? policy = some n) :
    v.kind = .number ∨ ∃ s, v = .string s ∧ policy.Reads s .number := by
  cases v with
  | number m => exact .inl rfl
  | string s => exact .inr ⟨s, rfl, Policy.reads_number_iff.2 ⟨n, h⟩⟩
  | boolean _ | absent => cases h

theorem Value.stands_of_toBoolean? {v : Value} {truth : Bool}
    (h : v.toBoolean? policy = some truth) :
    v.kind = .boolean ∨ ∃ s, v = .string s ∧ policy.Reads s .boolean := by
  cases v with
  | boolean c => exact .inl rfl
  | string s => exact .inr ⟨s, rfl, Policy.reads_boolean_iff.2 ⟨truth, h⟩⟩
  | number _ | absent => cases h

/-- Of two values of two kinds that stand for a third, one is a text and the other is of it. -/
theorem commonKind_of_ne (h : l.kind ≠ r.kind)
    (hl : l.kind = kind ∨ ∃ s, l = .string s ∧ policy.Reads s kind)
    (hr : r.kind = kind ∨ ∃ s, r = .string s ∧ policy.Reads s kind) :
    CommonKind policy l r kind := by
  rcases hl with rfl | ⟨s, rfl, hs⟩
  · rcases hr with hr | ⟨s, rfl, hs⟩
    · exact absurd hr.symm h
    · exact .right hs
  · rcases hr with rfl | ⟨t, rfl, -⟩
    · exact .left hs
    · exact absurd rfl h

/-- Values are compared in the kind that they share. -/
theorem commonKind_iff : CommonKind policy l r kind ↔
    ∃ a b, coercePair policy l r = some (a, b) ∧ a.kind = kind := by
  constructor
  · rintro (h | h | h)
    · exact ⟨_, _, coercePair_of_kind_eq h, rfl⟩
    · exact exists_coercePair_of_reads h
    · -- with the text second it is the same pair swapped, and its two kinds are one
      obtain ⟨a, b, hpair, ha⟩ := exists_coercePair_of_reads h
      refine ⟨b, a, ?_, (kind_eq_of_coercePair hpair).symm.trans ha⟩
      rw [coercePair_swap, hpair]
      rfl
  · rintro ⟨a, b, hpair, rfl⟩
    cases coercePair_eq_some_iff.1 hpair with
    | same h => exact .same h
    | numbers h hl hr =>
      exact commonKind_of_ne h (Value.stands_of_toNumber? hl) (Value.stands_of_toNumber? hr)
    | booleans h hl hr =>
      exact commonKind_of_ne h (Value.stands_of_toBoolean? hl) (Value.stands_of_toBoolean? hr)

theorem CommonKind.unique {other : ValueKind} (h : CommonKind policy l r kind)
    (h' : CommonKind policy l r other) : kind = other := by
  obtain ⟨a, b, hpair, rfl⟩ := commonKind_iff.1 h
  obtain ⟨a', b', hpair', rfl⟩ := commonKind_iff.1 h'
  cases hpair.symm.trans hpair'
  rfl

theorem coercePair_eq_none_iff :
    coercePair policy l r = none ↔ ∀ kind, ¬ CommonKind policy l r kind := by
  rw [Option.eq_none_iff_forall_ne_some]
  constructor
  · intro h kind hkind
    obtain ⟨a, b, hpair, -⟩ := commonKind_iff.1 hkind
    exact h _ hpair
  · rintro h ⟨a, b⟩ hpair
    exact h _ (commonKind_iff.2 ⟨a, b, hpair, rfl⟩)

/-- Two values are compared as numbers if that is the kind they share. -/
theorem commonKind_number_iff : CommonKind policy l r .number ↔
    ∃ x y, coercePair policy l r = some (.number x, .number y) := by
  rw [commonKind_iff]
  constructor
  · rintro ⟨a, b, hpair, ha⟩
    have hb := (kind_eq_of_coercePair hpair).symm.trans ha
    cases a <;> cases ha
    cases b <;> cases hb
    exact ⟨_, _, hpair⟩
  · rintro ⟨x, y, hpair⟩
    exact ⟨_, _, hpair, rfl⟩

/-! ### Mismatches -/

/-- Two values do not give an operator what it asks for. -/
inductive Mismatched (policy : Policy) (l r : Value) : ComparisonOperator.Demand → Prop
  | strings (h : l.kind ≠ .string ∨ r.kind ≠ .string) : Mismatched policy l r .strings
  | kinds {demand : ComparisonOperator.Demand} (hdemand : demand ≠ .strings)
      (h : ∀ kind, ¬ CommonKind policy l r kind) : Mismatched policy l r demand
  | order {kind : ValueKind} (h : CommonKind policy l r kind) (hkind : kind ≠ .number) :
      Mismatched policy l r .numbers

theorem mismatched_oneKind_iff :
    Mismatched policy l r .oneKind ↔ coercePair policy l r = none := by
  rw [coercePair_eq_none_iff]
  constructor
  · rintro (_ | ⟨-, h⟩)
    exact h
  · exact .kinds (by simp)

theorem mismatched_numbers_iff :
    Mismatched policy l r .numbers ↔ ¬ CommonKind policy l r .number := by
  constructor
  · rintro (_ | ⟨-, h⟩ | ⟨h, hkind⟩) hnumber
    · exact h _ hnumber
    · exact hkind (h.unique hnumber)
  · intro hnumber
    by_cases h : ∃ kind, CommonKind policy l r kind
    · obtain ⟨kind, h⟩ := h
      exact .order h fun hkind => hnumber (hkind ▸ h)
    · exact .kinds (by simp) (not_exists.1 h)

theorem mismatched_strings_iff :
    Mismatched policy l r .strings ↔ l.kind ≠ .string ∨ r.kind ≠ .string := by
  constructor
  · rintro (h | ⟨hdemand, -⟩)
    · exact h
    · exact absurd rfl hdemand
  · exact .strings

theorem onNumbers_eq_none_iff {test : Number → Number → Bool} {p : Value × Value} :
    onNumbers test p = none ↔ ∀ x y, p ≠ (.number x, .number y) := by
  obtain ⟨l, r⟩ := p
  cases l <;> cases r <;> simp [onNumbers]

/-- A comparison decides nothing exactly on a mismatch. -/
theorem holds?_eq_none_iff : holds? ctx op l r = none ↔ Mismatched ctx.policy l r op.demand := by
  cases op with
  | equals =>
    rw [holds?_equals, Option.map_eq_none_iff]
    exact mismatched_oneKind_iff.symm
  | notEquals =>
    rw [holds?_notEquals, Option.map_eq_none_iff]
    exact mismatched_oneKind_iff.symm
  | greaterThan | greaterEqual | lessThan | lessEqual =>
    rw [holds?_order rfl, Option.bind_eq_none_iff]
    refine Iff.trans ?_ mismatched_numbers_iff.symm
    rw [commonKind_number_iff]
    simp only [onNumbers_eq_none_iff]
    constructor
    · rintro h ⟨x, y, hpair⟩
      exact h _ hpair x y rfl
    · rintro h _ hpair x y rfl
      exact h ⟨x, y, hpair⟩
  | startsWith | endsWith | contains | notContains =>
    rw [holds?_string rfl]
    refine Iff.trans ?_ mismatched_strings_iff.symm
    cases l <;> cases r <;> simp [onStrings, Value.kind]

/-! ### Absent values -/

theorem Value.isAbsent_eq_true_iff {v : Value} : v.isAbsent = true ↔ v = .absent := by
  cases v <;> simp [isAbsent]

/-- Two absent values that a policy lets count as equal. -/
def AbsentEqual (policy : Policy) (op : ComparisonOperator) (l r : Value) : Prop :=
  op = .equals ∧ l = .absent ∧ r = .absent ∧ policy.absentEqualsAbsent = true

theorem compareAbsent_of_absentEqual (h : AbsentEqual policy op l r) :
    compareAbsent policy op l r = .success := by
  obtain ⟨rfl, rfl, rfl, hflag⟩ := h
  simp [compareAbsent, Value.isAbsent, hflag]

theorem failureType?_compareAbsent (hequal : ¬ AbsentEqual policy op l r) :
    (compareAbsent policy op l r).failureType? = some .invalidOperand := by
  rw [compareAbsent]
  split
  · next hboth =>
    obtain ⟨rfl, rfl⟩ : l = .absent ∧ r = .absent := by
      simpa [Value.isAbsent_eq_true_iff] using hboth
    rw [if_neg fun h => hequal ⟨h.1, rfl, rfl, h.2⟩]
    rfl
  · split <;> rfl

theorem compare_of_absent (hop : ComparisonOperator.ofDatum? d = some op)
    (habsent : l = .absent ∨ r = .absent) :
    (compare ctx l d r).outcome = .ok (compareAbsent ctx.policy op l r) := by
  rw [compare, hop]
  simp only [Bool.or_eq_true, Value.isAbsent_eq_true_iff, if_pos habsent, Traced.pure_outcome]

/-! ### Grounds -/

/-- What there is to say against a comparison by the word `s`, as the type of a failure. -/
inductive Grounds (policy : Policy) (s : Text) (l r : Value) : FailureType → Prop
  | missingOperator (h : ∀ op : ComparisonOperator, ¬ op.NamedBy s) :
      Grounds policy s l r .missingOperator
  | invalidOperand {op : ComparisonOperator} (h : op.NamedBy s)
      (habsent : l = .absent ∨ r = .absent) (hequal : ¬ AbsentEqual policy op l r) :
      Grounds policy s l r .invalidOperand
  | typeMismatched {op : ComparisonOperator} (h : op.NamedBy s) (hl : l ≠ .absent)
      (hr : r ≠ .absent) (hkinds : Mismatched policy l r op.demand) :
      Grounds policy s l r .typeMismatched

theorem ComparisonOperator.NamedBy.unique {other : ComparisonOperator} (h : op.NamedBy s)
    (h' : other.NamedBy s) : op = other := by
  have hop : ofDatum? (.string s) = some op := (ofDatum?_eq_some_iff rfl).2 h
  have hother : ofDatum? (.string s) = some other := (ofDatum?_eq_some_iff rfl).2 h'
  exact Option.some.inj (hop.symm.trans hother)

/-- No two grounds hold of one comparison. -/
theorem Grounds.unique {type other : FailureType} (h : Grounds policy s l r type)
    (h' : Grounds policy s l r other) : type = other := by
  cases h with
  | missingOperator hop =>
    cases h' with
    | missingOperator => rfl
    | invalidOperand hnamed | typeMismatched hnamed => exact absurd hnamed (hop _)
  | invalidOperand hnamed habsent =>
    cases h' with
    | missingOperator hop => exact absurd hnamed (hop _)
    | invalidOperand => rfl
    | typeMismatched _ hl hr => exact absurd habsent (not_or.2 ⟨hl, hr⟩)
  | typeMismatched hnamed hl hr =>
    cases h' with
    | missingOperator hop => exact absurd hnamed (hop _)
    | invalidOperand _ habsent => exact absurd habsent (not_or.2 ⟨hl, hr⟩)
    | typeMismatched => rfl

/-! ### Outcomes -/

/-- The type of a failure tells the ground it has; without any, a comparison can only come out
true or false. -/
structure Classified (policy : Policy) (s : Text) (l r : Value) (o : Outcome) : Prop where
  ground (type : FailureType) (h : type ≠ .conditionFailed) :
    o.failureType? = some type ↔ Grounds policy s l r type
  decided (h : ∀ type, ¬ Grounds policy s l r type) :
    o = .success ∨ o.failureType? = some .conditionFailed
  known : o.failureType? ≠ some .unknown

theorem classified_of_grounds {o : Outcome} {type : FailureType} (h : Grounds policy s l r type)
    (ho : o.failureType? = some type) : Classified policy s l r o where
  ground other hother := by
    rw [ho, Option.some.injEq]
    constructor
    · rintro rfl
      exact h
    · exact h.unique
  decided hnone := absurd h (hnone type)
  known hunknown := by
    cases ho.symm.trans hunknown
    cases h

theorem classified_of_forall_not_grounds {o : Outcome} (h : ∀ type, ¬ Grounds policy s l r type)
    (ho : o = .success ∨ o.failureType? = some .conditionFailed) : Classified policy s l r o where
  ground type htype := by
    refine iff_of_false ?_ (h type)
    rcases ho with rfl | ho
    · simp [Outcome.failureType?]
    · simpa [ho] using htype.symm
  decided _ := ho
  known := by
    rcases ho with rfl | ho
    · simp [Outcome.failureType?]
    · simp [ho]

theorem classified_compareAbsent (h : op.NamedBy s) (habsent : l = .absent ∨ r = .absent) :
    Classified policy s l r (compareAbsent policy op l r) := by
  by_cases hequal : AbsentEqual policy op l r
  · refine classified_of_forall_not_grounds ?_ (.inl (compareAbsent_of_absentEqual hequal))
    rintro type (hop | ⟨hother, -, hnot⟩ | ⟨-, hl, -⟩)
    · exact hop _ h
    · exact hnot (hother.unique h ▸ hequal)
    · exact hl hequal.2.1
  · exact classified_of_grounds (.invalidOperand h habsent hequal)
      (failureType?_compareAbsent hequal)

theorem exists_unsupported (h : d.word? = some s) :
    ∃ o, unsupported d = .ok o ∧ o.failureType? = some .missingOperator := by
  obtain ⟨text, htext⟩ := display_of_isWord (Option.isSome_of_eq_some h)
  rw [unsupported, htext]
  exact ⟨_, rfl, rfl⟩

theorem exists_failure (hl : ¬ l.IsOverlong) (hr : ¬ r.IsOverlong)
    (reason : Text → Text → Text) (type : FailureType) :
    ∃ o, (do
      let left ← l.describe
      let right ← r.describe
      return Outcome.failure (reason left right) type) = Except.ok o ∧
      o.failureType? = some type := by
  obtain ⟨left, hleft⟩ := Value.describe_of_not_isOverlong hl
  obtain ⟨right, hright⟩ := Value.describe_of_not_isOverlong hr
  rw [hleft, hright]
  exact ⟨_, rfl, rfl⟩

/-- An operator that decides two values leaves nothing to be said against their comparison. -/
theorem not_grounds_of_holds? {b : Bool} (h : op.NamedBy s)
    (habsent : ¬ (l = .absent ∨ r = .absent)) (hholds : holds? ctx op l r = some b)
    (type : FailureType) : ¬ Grounds ctx.policy s l r type := by
  rintro (hop | ⟨-, habsent', -⟩ | ⟨hother, -, -, hkinds⟩)
  · exact hop _ h
  · exact habsent habsent'
  · rw [hother.unique h, ← holds?_eq_none_iff, hholds] at hkinds
    cases hkinds

/-- Every comparison of values that can be written out has an outcome, and its failures are of the
type of their ground. -/
theorem compare_classified (ctx : Context) (hs : d.word? = some s) (hl : ¬ l.IsOverlong)
    (hr : ¬ r.IsOverlong) :
    ∃ o, (compare ctx l d r).outcome = .ok o ∧ Classified ctx.policy s l r o := by
  cases hop : ComparisonOperator.ofDatum? d with
  | none =>
    have hnone (op : ComparisonOperator) : ¬ op.NamedBy s := by
      rw [← ComparisonOperator.ofDatum?_eq_some_iff hs, hop]
      simp
    obtain ⟨o, ho, htype⟩ := exists_unsupported hs
    rw [compare, hop]
    exact ⟨o, ho, classified_of_grounds (.missingOperator hnone) htype⟩
  | some op =>
    have hnamed := (ComparisonOperator.ofDatum?_eq_some_iff hs).1 hop
    by_cases habsent : l = .absent ∨ r = .absent
    · exact ⟨_, compare_of_absent hop habsent, classified_compareAbsent hnamed habsent⟩
    · -- nothing but a mismatch is left to be said, and `holds?` is undecided on that alone
      rw [compare, hop]
      simp only [Bool.or_eq_true, Value.isAbsent_eq_true_iff, if_neg habsent]
      cases hholds : holds? ctx op l r with
      | none =>
        obtain ⟨hl', hr'⟩ := not_or.1 habsent
        obtain ⟨o, ho, htype⟩ := exists_failure hl hr _ .typeMismatched
        exact ⟨o, ho, classified_of_grounds
          (.typeMismatched hnamed hl' hr' (holds?_eq_none_iff.1 hholds)) htype⟩
      | some held =>
        have hnone := not_grounds_of_holds? hnamed habsent hholds
        cases held with
        | true => exact ⟨_, rfl, classified_of_forall_not_grounds hnone (.inl rfl)⟩
        | false =>
          obtain ⟨o, ho, htype⟩ := exists_failure hl hr _ .conditionFailed
          exact ⟨o, ho, classified_of_forall_not_grounds hnone (.inr htype)⟩

/-- A truth value and a text for one can be compared, but neither comes before the other. -/
theorem compare_classified_boolean_order :
    let ctx : Context := ⟨fun _ => .ok .null, .empty, .known .default, {}⟩
    let l : Value := .boolean true
    let r : Value := .string " False"
    Grounds ctx.policy " GT" l r .typeMismatched ∧
      ∃ o, (compare ctx l (.string " GT") r).outcome = .ok o ∧
        o.failureType? = some .typeMismatched := by
  intro ctx l r
  have hnamed : ComparisonOperator.greaterThan.NamedBy " GT" := by
    rw [← ComparisonOperator.ofDatum?_eq_some_iff (d := .string " GT") rfl]
    decide +kernel
  have hkind : CommonKind ctx.policy l r .boolean :=
    .right (.boolean rfl (.inr (by decide +kernel)))
  have hground : Grounds ctx.policy " GT" l r .typeMismatched :=
    .typeMismatched hnamed (by simp [l]) (by simp [r]) (.order hkind (by simp))
  obtain ⟨o, ho, hclassified⟩ := compare_classified (d := .string " GT") ctx rfl
    (l := l) (r := r) (by simp [l, Value.IsOverlong]) (Value.not_isOverlong_string _)
  exact ⟨hground, o, ho, (hclassified.ground _ (by simp)).2 hground⟩

end Verdict
