import Verdict.Proofs.Comparison
import Verdict.Proofs.Number.Reading

/-! Chains of comparisons. A value may be taken for one thing on its left and for another on
its right, and still order and equality pass through it, unless two strings stand at the ends:
strings have no order, and two texts of one number are two strings. -/

namespace Verdict

variable {ctx : Context} {policy : Policy} {op : ComparisonOperator} {l m r : Value}

/-! ### Readings -/

/-- No value can be taken both for a number and for a truth value. -/
theorem Value.toBoolean?_of_toNumber? {v : Value} {x : Number} (h : v.toNumber? policy = some x) :
    v.toBoolean? policy = none := by
  cases v with
  | number n => rfl
  | boolean b => cases h
  | absent => cases h
  | string s =>
    have hread : Number.read? s.toList ≠ none := by
      intro hnone
      simp [toNumber?, hnone] at h
    have htrue : normalWord s ≠ "true" := fun hs => hread (Number.read?_of_truthWord (.inl hs))
    have hfalse : normalWord s ≠ "false" := fun hs => hread (Number.read?_of_truthWord (.inr hs))
    simp [toBoolean?, htrue, hfalse]

/-! ### Order -/

theorem orderTest_trans {test : Number → Number → Bool} (h : op.orderTest? = some test)
    {x y z : Number} (hxy : test x y = true) (hyz : test y z = true) : test x z = true := by
  cases op <;> cases h
  · exact Number.lt_trans hyz hxy
  · exact Number.le_trans hyz hxy
  · exact Number.lt_trans hxy hyz
  · exact Number.le_trans hxy hyz

/-- Order passes through a value to whatever is not two strings. -/
theorem succeeds_order_trans_iff {test : Number → Number → Bool} (hop : op.orderTest? = some test)
    (hlm : Succeeds ctx op l m) (hmr : Succeeds ctx op m r) :
    Succeeds ctx op l r ↔ ¬ (l.kind = .string ∧ r.kind = .string) := by
  obtain ⟨x, y, hpair, hxy⟩ := (succeeds_order_iff hop).1 hlm
  obtain ⟨y', z, hpair', hyz⟩ := (succeeds_order_iff hop).1 hmr
  obtain ⟨hl, hm, -⟩ := coercePair_eq_numbers_iff.1 hpair
  obtain ⟨hm', hr, -⟩ := coercePair_eq_numbers_iff.1 hpair'
  have hy : y = y' := Option.some.inj (hm.symm.trans hm')
  subst hy
  rw [succeeds_order_iff hop]
  constructor
  · rintro ⟨u, v, huv, -⟩
    exact (coercePair_eq_numbers_iff.1 huv).2.2
  · intro hs
    exact ⟨x, z, coercePair_eq_numbers_iff.2 ⟨hl, hr, hs⟩, orderTest_trans hop hxy hyz⟩

/-! ### Equality -/

/-- What two values have in common that are equal where case counts. -/
inductive EqualAs (policy : Policy) (l r : Value) : Prop
  | absent (h : policy.absentEqualsAbsent = true) (hl : l = .absent) (hr : r = .absent)
  | string (s : Text) (hl : l = .string s) (hr : r = .string s)
  | number {x y : Number} (hl : l.toNumber? policy = some x) (hr : r.toNumber? policy = some y)
      (h : x.eqv y = true) (hs : ¬ (l.kind = .string ∧ r.kind = .string))
  | boolean {b : Bool} (hl : l.toBoolean? policy = some b) (hr : r.toBoolean? policy = some b)
      (hs : ¬ (l.kind = .string ∧ r.kind = .string))

/-- Values of one kind that are the same have something in common. -/
theorem EqualAs.of_sameValue (hcase : ctx.ignoresCase = false) (hkind : l.kind = r.kind)
    (hsame : sameValue ctx l r = true) (habsent : l = .absent → policy.absentEqualsAbsent = true) :
    EqualAs policy l r := by
  have hfold (s : Text) : ctx.fold s = s.toList := by simp [Context.fold, hcase]
  cases l with
  | string s =>
    cases r <;> cases hkind
    next t =>
      rw [sameValue, hfold, hfold, beq_iff_eq, Text.toList_inj] at hsame
      subst hsame
      exact .string s rfl rfl
  | number x =>
    cases r <;> cases hkind
    exact .number rfl rfl hsame (by simp [Value.kind])
  | boolean x =>
    cases r <;> cases hkind
    next y =>
      rw [sameValue, beq_iff_eq] at hsame
      subst hsame
      exact .boolean rfl rfl (by simp [Value.kind])
  | absent =>
    cases r <;> cases hkind
    exact .absent (habsent rfl) rfl rfl

theorem succeeds_equals_iff_equalAs (hcase : ctx.ignoresCase = false) :
    Succeeds ctx .equals l r ↔ EqualAs ctx.policy l r := by
  rw [succeeds_equals_iff]
  constructor
  · rintro ⟨⟨a, b, hpair, hsame⟩, habsent⟩
    cases coercePair_eq_some_iff.1 hpair with
    | same hkind => exact .of_sameValue hcase hkind hsame habsent
    | numbers hkind hl hr => exact .number hl hr hsame fun hs => hkind (hs.1.trans hs.2.symm)
    | booleans hkind hl hr =>
      rw [sameValue, beq_iff_eq] at hsame
      subst hsame
      exact .boolean hl hr fun hs => hkind (hs.1.trans hs.2.symm)
  · intro h
    cases h with
    | absent h hl hr =>
      subst hl hr
      exact ⟨⟨.absent, .absent, coercePair_of_kind_eq rfl, rfl⟩, fun _ => h⟩
    | string s hl hr =>
      subst hl hr
      refine ⟨⟨.string s, .string s, coercePair_of_kind_eq rfl, by simp [sameValue]⟩, ?_⟩
      intro h
      cases h
    | number hl hr h hs =>
      refine ⟨⟨_, _, coercePair_eq_numbers_iff.2 ⟨hl, hr, hs⟩, h⟩, ?_⟩
      rintro rfl
      cases hl
    | boolean hl hr hs =>
      refine ⟨⟨_, _, coercePair_eq_booleans_iff.2 ⟨hl, hr, hs⟩, by simp [sameValue]⟩, ?_⟩
      rintro rfl
      cases hl

namespace EqualAs

theorem eq_of_strings (h : EqualAs policy l r) (hs : l.kind = .string ∧ r.kind = .string) :
    l = r := by
  cases h with
  | absent _ hl hr => exact hl.trans hr.symm
  | string s hl hr => exact hl.trans hr.symm
  | number _ _ _ hs' => exact absurd hs hs'
  | boolean _ _ hs' => exact absurd hs hs'

/-- Equality passes through a value to whatever is not two strings. -/
theorem trans (hlm : EqualAs policy l m) (hmr : EqualAs policy m r)
    (hs : ¬ (l.kind = .string ∧ r.kind = .string)) : EqualAs policy l r := by
  -- An absent value or a string is its only equal here; what else is in the middle has one reading.
  cases hlm with
  | absent _ hl hm =>
    rw [hl, ← hm]
    exact hmr
  | string s hl hm =>
    rw [hl, ← hm]
    exact hmr
  | number hl hm hxy hlm =>
    cases hmr with
    | absent _ hm' _ =>
      subst hm'
      cases hm
    | string s hm' hr =>
      rw [hr, ← hm']
      exact .number hl hm hxy hlm
    | number hm' hr hyz _ =>
      cases hm.symm.trans hm'
      exact .number hl hr (Number.eqv_trans hxy hyz) hs
    | boolean hm' _ _ => cases (Value.toBoolean?_of_toNumber? hm).symm.trans hm'
  | boolean hl hm hlm =>
    cases hmr with
    | absent _ hm' _ =>
      subst hm'
      cases hm
    | string s hm' hr =>
      rw [hr, ← hm']
      exact .boolean hl hm hlm
    | number hm' _ _ _ => cases (Value.toBoolean?_of_toNumber? hm').symm.trans hm
    | boolean hm' hr _ =>
      cases hm.symm.trans hm'
      exact .boolean hl hr hs

/-- Two strings at the ends are equal if they are one string, or if what joins them is one. -/
theorem trans_iff (hlm : EqualAs policy l m) (hmr : EqualAs policy m r) : EqualAs policy l r ↔
    ¬ (l.kind = .string ∧ r.kind = .string ∧ m.kind ≠ .string) ∨ l = r := by
  by_cases hs : l.kind = .string ∧ r.kind = .string
  · constructor
    · exact fun h => .inr (h.eq_of_strings hs)
    · intro h
      have heq : l = r := by
        rcases h with h | h
        · have hm : m.kind = .string := by_contra fun hm => h ⟨hs.1, hs.2, hm⟩
          exact (hlm.eq_of_strings ⟨hs.1, hm⟩).trans (hmr.eq_of_strings ⟨hm, hs.2⟩)
        · exact h
      subst heq
      cases l <;> cases hs.1
      exact .string _ rfl rfl
  · exact iff_of_true (hlm.trans hmr hs) (.inl fun h => hs ⟨h.1, h.2.1⟩)

end EqualAs

/-! ### Chains -/

/-- The double that the text of thirty-three with a decimal place writes. -/
def thirtyThree : Number := .double (.nearest false 33 1)

/-- Two texts of one number are equal to it, and not to each other. -/
theorem succeeds_equals_thirtyThree (hpolicy : ctx.policy.numericStrings = true) :
    Succeeds ctx .equals (.string "33") (.number (.int 33)) ∧
    Succeeds ctx .equals (.number (.int 33)) (.string "33.0") ∧
    ¬ Succeeds ctx .equals (.string "33") (.string "33.0") := by
  have hint : (Value.string "33").toNumber? ctx.policy = some (.int 33) := by
    rw [Value.toNumber?, if_pos hpolicy]
    decide +kernel
  have hdouble : (Value.string "33.0").toNumber? ctx.policy = some thirtyThree := by
    rw [Value.toNumber?, if_pos hpolicy]
    decide +kernel
  refine ⟨?_, ?_, ?_⟩
  · rw [succeeds_equals_iff_eqv (coercePair_eq_numbers_iff.2 ⟨hint, rfl, by simp [Value.kind]⟩)]
    decide +kernel
  · rw [succeeds_equals_iff_eqv (coercePair_eq_numbers_iff.2 ⟨rfl, hdouble, by simp [Value.kind]⟩)]
    decide +kernel
  · rw [succeeds_equals_strings_iff, Context.fold, Context.fold]
    split <;> decide +kernel

/-- Order is transitive except from a string to a string, and so is equality where case counts,
except from a string over something else to another string. -/
theorem succeeds_trans (ctx : Context) :
    (∀ op l m r, op.orderTest?.isSome → Succeeds ctx op l m → Succeeds ctx op m r →
      (Succeeds ctx op l r ↔ ¬ (l.kind = .string ∧ r.kind = .string))) ∧
    (ctx.ignoresCase = false → ∀ l m r, Succeeds ctx .equals l m → Succeeds ctx .equals m r →
      (Succeeds ctx .equals l r ↔
        ¬ (l.kind = .string ∧ r.kind = .string ∧ m.kind ≠ .string) ∨ l = r)) ∧
    (ctx.policy.numericStrings = true →
      Succeeds ctx .equals (.string "33") (.number (.int 33)) ∧
      Succeeds ctx .equals (.number (.int 33)) (.string "33.0") ∧
      ¬ Succeeds ctx .equals (.string "33") (.string "33.0")) := by
  refine ⟨?_, ?_, succeeds_equals_thirtyThree⟩
  · intro op l m r hop hlm hmr
    obtain ⟨test, htest⟩ := Option.isSome_iff_exists.1 hop
    exact succeeds_order_trans_iff htest hlm hmr
  · intro hcase l m r hlm hmr
    rw [succeeds_equals_iff_equalAs hcase] at hlm hmr ⊢
    exact hlm.trans_iff hmr

/-- A text, an integer and an infinity in ascending order, and a text between two numbers. -/
theorem succeeds_trans_mixed_kinds :
    let ctx : Context := ⟨fun _ => .ok .null, .empty, .known .default, {}⟩
    Succeeds ctx .lessThan (.string "2") (.number (.double (.infinite false))) ∧
      Succeeds ctx .equals (.number (.int 33)) (.number thirtyThree) := by
  intro ctx
  have hdouble : (Value.string "33.0").toNumber? ctx.policy = some thirtyThree := by decide +kernel
  have hlow : Succeeds ctx .lessThan (.string "2") (.number (.int 3)) :=
    (succeeds_order_iff rfl).2 ⟨.int 2, .int 3, by decide +kernel, by decide +kernel⟩
  have hhigh : Succeeds ctx .lessThan (.number (.int 3)) (.number (.double (.infinite false))) :=
    (succeeds_order_iff rfl).2 ⟨_, _, coercePair_of_kind_eq rfl, by decide +kernel⟩
  have hleft : Succeeds ctx .equals (.number (.int 33)) (.string "33.0") :=
    (succeeds_equals_thirtyThree rfl).2.1
  have hright : Succeeds ctx .equals (.string "33.0") (.number thirtyThree) :=
    (succeeds_equals_iff_eqv (coercePair_eq_numbers_iff.2
      ⟨hdouble, rfl, by simp [Value.kind]⟩)).2 (by decide +kernel)
  obtain ⟨horder, hequals, -⟩ := succeeds_trans ctx
  have hless := horder .lessThan _ _ _ rfl hlow hhigh
  have hequal := hequals rfl _ _ _ hleft hright
  exact ⟨hless.2 (by simp [Value.kind]), hequal.2 (.inl (by simp [Value.kind]))⟩

end Verdict
