import Verdict.Proofs.ShortCircuit

/-! The one fault that evaluation can end in. Reasons of failed comparisons show the
values, and an integer past the digit limit has no text; resolvers and transforms that
raise are contained and never stop an evaluation. -/

namespace Verdict

attribute [local instance] powOfNatPow

/-! ### Values without a text -/

namespace Value

/-- An integer of more digits than text may hold. -/
def IsOverlong (v : Value) : Prop :=
  ∃ n : Int, v = .number (.int n) ∧ 10 ^ digitLimit ≤ n.natAbs

theorem isOverlong_int_iff (n : Int) :
    (number (.int n)).IsOverlong ↔ 10 ^ digitLimit ≤ n.natAbs := by
  simp [IsOverlong]

theorem describe_of_isOverlong {v : Value} (h : v.IsOverlong) :
    v.describe = .error .digitLimit := by
  obtain ⟨n, rfl, hn⟩ := h
  have hfit : Numeral.fitsText n = false := decide_eq_false (Nat.not_lt.2 hn)
  rw [describe, Number.text, hfit]
  rfl

theorem describe_of_not_isOverlong {v : Value} (h : ¬ v.IsOverlong) :
    ∃ s, v.describe = .ok s := by
  rcases v with s | (n | x) | b | _
  · exact ⟨_, rfl⟩
  · rw [isOverlong_int_iff, Nat.not_le] at h
    have hfit : Numeral.fitsText n = true := decide_eq_true h
    rw [describe, Number.text, hfit]
    exact ⟨_, rfl⟩
  · exact ⟨_, rfl⟩
  · exact ⟨_, rfl⟩
  · exact ⟨_, rfl⟩

end Value

/-- A reason that shows two values can be written unless one of them is overlong. -/
theorem describe_both_fault_iff (l r : Value) (reason : Text → Text → Outcome)
    (fault : Fault) :
    (do
      let left ← l.describe
      let right ← r.describe
      return reason left right) = Except.error fault ↔
      fault = .digitLimit ∧ (l.IsOverlong ∨ r.IsOverlong) := by
  by_cases hl : l.IsOverlong
  · rw [Value.describe_of_isOverlong hl]
    simp [hl, bind, Except.bind, eq_comm]
  obtain ⟨left, hleft⟩ := Value.describe_of_not_isOverlong hl
  by_cases hr : r.IsOverlong
  · rw [hleft, Value.describe_of_isOverlong hr]
    simp [hr, bind, Except.bind, eq_comm]
  obtain ⟨right, hright⟩ := Value.describe_of_not_isOverlong hr
  rw [hleft, hright]
  simp [hl, hr, bind, Except.bind, pure, Except.pure]

theorem mismatch_fault_iff (op : ComparisonOperator) (l r : Value) (fault : Fault) :
    mismatch op l r = .error fault ↔ fault = .digitLimit ∧ (l.IsOverlong ∨ r.IsOverlong) :=
  describe_both_fault_iff l r _ fault

theorem notMet_fault_iff (op : ComparisonOperator) (l r : Value) (fault : Fault) :
    notMet op l r = .error fault ↔ fault = .digitLimit ∧ (l.IsOverlong ∨ r.IsOverlong) :=
  describe_both_fault_iff l r _ fault

/-! ### Words -/

/-- What is a text or a constant can be shown. -/
theorem display_of_isWord {d : Datum} (h : d.word?.isSome) : ∃ s, d.display = .ok s := by
  cases d with
  | string s => exact ⟨s, rfl⟩
  | symbol s => exact ⟨s.display, rfl⟩
  | _ => cases h

theorem unsupported_of_isWord {operator : Datum} (h : operator.word?.isSome) :
    ∃ o, unsupported operator = .ok o := by
  obtain ⟨s, hs⟩ := display_of_isWord h
  rw [unsupported, hs]
  exact ⟨_, rfl⟩

/-! ### Comparisons -/

/-- A comparison of two present values that does not hold, one of which has no text. -/
def Unwritable (ctx : Context) (l : Value) (operator : Datum) (r : Value) : Prop :=
  ∃ op, ComparisonOperator.ofDatum? operator = some op ∧ l.isAbsent = false ∧ r.isAbsent = false ∧
    holds? ctx op l r ≠ some true ∧ (l.IsOverlong ∨ r.IsOverlong)

theorem compare_fault_iff (ctx : Context) (l : Value) {operator : Datum} (r : Value)
    (h : operator.word?.isSome) (fault : Fault) :
    (compare ctx l operator r).outcome = .error fault ↔
      fault = .digitLimit ∧ Unwritable ctx l operator r := by
  rw [compare]
  cases hop : ComparisonOperator.ofDatum? operator with
  | none =>
    obtain ⟨o, ho⟩ := unsupported_of_isWord h
    simp [Unwritable, hop, ho]
  | some op =>
    dsimp only
    by_cases ha : (l.isAbsent || r.isAbsent) = true
    · rw [if_pos ha]
      simp only [Traced.pure_outcome, reduceCtorEq, false_iff]
      rintro ⟨-, op, -, hl, hr, -⟩
      rw [hl, hr] at ha
      cases ha
    · rw [if_neg ha]
      obtain ⟨hl, hr⟩ : l.isAbsent = false ∧ r.isAbsent = false := by simpa using ha
      rcases hh : holds? ctx op l r with _ | (_ | _)
      · simp [Unwritable, hop, hl, hr, hh, mismatch_fault_iff]
      · simp [Unwritable, hop, hl, hr, hh, notMet_fault_iff]
      · simp [Unwritable, hop, hh]

namespace Expression

/-! ### Trees -/

/-- Every operator in a tree is given by a text or a constant. -/
inductive Worded : Expression → Prop
  | comparison {lhs rhs : Operand} {operator : Datum} (h : operator.word?.isSome) :
      Worded (.comparison lhs operator rhs)
  | presence {operand : Operand} {operator : Datum} (h : operator.word?.isSome) :
      Worded (.presence operand operator)
  | group {operator : GroupOperator} {cs : List Expression}
      (h : ∀ given, operator = .kept given → given.word?.isSome) (hc : ∀ c ∈ cs, Worded c) :
      Worded (.group operator cs)
  | stray {kind : Text} : Worded (.stray kind)

/-- A comparison of two operands, met in these surroundings, whose reason cannot be written. -/
def MeetsUnwritable (w : Surroundings) (lhs : Operand) (operator : Datum) (rhs : Operand) : Prop :=
  Unwritable (((w.past lhs).past rhs) []) (lhs.valueIn w) operator (rhs.valueIn (w.past lhs))

/-- Evaluation comes to a comparison whose reason cannot be written. -/
def ReachesUnwritable (w : Surroundings) (x : Expression) : Prop :=
  ∃ v lhs operator rhs, Reaches w x v (.comparison lhs operator rhs) ∧
    MeetsUnwritable v lhs operator rhs

section Reaching

variable {w : Surroundings} {cs : List Expression}

theorem reachesUnwritable_comparison (lhs : Operand) (operator : Datum) (rhs : Operand) :
    ReachesUnwritable w (.comparison lhs operator rhs) ↔ MeetsUnwritable w lhs operator rhs := by
  constructor
  · rintro ⟨v, l, op, r, h, hu⟩
    cases h
    exact hu
  · exact fun hu => ⟨w, lhs, operator, rhs, .here, hu⟩

theorem reachesUnwritable_and : ReachesUnwritable w (.group (.known .and) cs) ↔
    ∃ t ∈ turns true w cs, ReachesUnwritable t.met t.child := by
  constructor
  · rintro ⟨v, l, op, r, h, hu⟩
    cases h with
    | and ht h => exact ⟨_, ht, v, l, op, r, h, hu⟩
  · rintro ⟨t, ht, v, l, op, r, h, hu⟩
    exact ⟨v, l, op, r, .and ht h, hu⟩

theorem reachesUnwritable_or : ReachesUnwritable w (.group (.known .or) cs) ↔
    ∃ t ∈ turns false w cs, ReachesUnwritable t.met t.child := by
  constructor
  · rintro ⟨v, l, op, r, h, hu⟩
    cases h with
    | or ht h => exact ⟨_, ht, v, l, op, r, h, hu⟩
  · rintro ⟨t, ht, v, l, op, r, h, hu⟩
    exact ⟨v, l, op, r, .or ht h, hu⟩

theorem reachesUnwritable_not (c : Expression) :
    ReachesUnwritable w (.group (.known .not) [c]) ↔ ReachesUnwritable w c := by
  constructor
  · rintro ⟨v, l, op, r, h, hu⟩
    cases h with
    | not h => exact ⟨v, l, op, r, h, hu⟩
  · rintro ⟨v, l, op, r, h, hu⟩
    exact ⟨v, l, op, r, .not h, hu⟩

/-- What evaluates no other node and is no comparison itself. -/
theorem not_reachesUnwritable {x : Expression} (h : ∀ v z, Reaches w x v z → z = x)
    (hx : ∀ l op r, x ≠ .comparison l op r) : ¬ ReachesUnwritable w x := by
  rintro ⟨v, l, op, r, hr, -⟩
  exact hx l op r (h v _ hr).symm

end Reaching

/-- A fault among those who take turns, when each ends in one exactly as it comes to such a
comparison. -/
theorem exists_fault_iff {ts : List Turn} {fault : Fault}
    (h : ∀ t ∈ ts, (t.run.outcome = .error fault ↔
      fault = .digitLimit ∧ ReachesUnwritable t.met t.child)) :
    (∃ t ∈ ts, t.run.outcome = .error fault) ↔
      fault = .digitLimit ∧ ∃ t ∈ ts, ReachesUnwritable t.met t.child := by
  constructor
  · rintro ⟨t, ht, hf⟩
    obtain ⟨hd, hu⟩ := (h t ht).1 hf
    exact ⟨hd, t, ht, hu⟩
  · rintro ⟨hd, t, ht, hu⟩
    exact ⟨t, ht, (h t ht).2 ⟨hd, hu⟩⟩

theorem comparison_fault_iff (w : Surroundings) (lhs : Operand) {operator : Datum} (rhs : Operand)
    (h : operator.word?.isSome) (fault : Fault) :
    ((comparison lhs operator rhs).converse w).outcome = .error fault ↔
      fault = .digitLimit ∧ MeetsUnwritable w lhs operator rhs := by
  rw [outcome_comparison]
  exact compare_fault_iff _ _ _ h fault

theorem converse_fault_iff (w : Surroundings) {x : Expression} (hx : x.Worded) (fault : Fault) :
    (x.converse w).outcome = .error fault ↔ fault = .digitLimit ∧ ReachesUnwritable w x := by
  -- a group that goes on past a child does so on its verdict, never on its fault
  induction x generalizing w with
  | comparison lhs operator rhs =>
    cases hx with
    | comparison h => rw [comparison_fault_iff w lhs rhs h, reachesUnwritable_comparison]
  | presence operand operator =>
    have hno : ¬ ReachesUnwritable w (presence operand operator) :=
      not_reachesUnwritable (by rintro v z ⟨⟩; rfl) (by simp)
    cases hx with
    | presence h =>
      rw [converse]
      cases hop : PresenceOperator.ofDatum? operator with
      | none =>
        obtain ⟨o, ho⟩ := unsupported_of_isWord h
        have halone : (alone (presence operand operator) w).outcome = .ok o :=
          (congrArg Traced.outcome (evaluate_presence_of_none operand hop)).trans ho
        simp [halone, hno]
      | some op =>
        dsimp only
        rw [Dialogue.outcome_bind_of_ok (operand.outcome_converse w)]
        simp [Pure.pure, hno]
  | stray kind =>
    have hno : ¬ ReachesUnwritable w (stray kind) :=
      not_reachesUnwritable (by rintro v z ⟨⟩; rfl) (by simp)
    rw [converse, alone, Dialogue.step, evaluate, Traced.emit_bind_outcome]
    simp [hno]
  | and cs ih =>
    cases hx with
    | group _ hcs =>
      rw [reachesUnwritable_and]
      by_cases hnil : cs = []
      · rw [hnil, converse]
        simp [alone, Dialogue.step, evaluate, turns]
      · rw [← failing?_fault_iff, failing?_conj hnil, inTurn_fault_iff]
        exact exists_fault_iff fun t ht =>
          ih t.child (child_mem_of_mem_turns ht) t.met (hcs _ (child_mem_of_mem_turns ht))
  | or cs ih =>
    cases hx with
    | group _ hcs =>
      rw [reachesUnwritable_or]
      by_cases hnil : cs = []
      · rw [hnil, converse]
        simp [alone, Dialogue.step, evaluate, turns]
      · rw [← failing?_fault_iff, failing?_disj hnil, inTurn_fault_iff]
        exact exists_fault_iff fun t ht =>
          ih t.child (child_mem_of_mem_turns ht) t.met (hcs _ (child_mem_of_mem_turns ht))
  | not c ih =>
    cases hx with
    | group _ hcs =>
      rw [reachesUnwritable_not, ← ih w (hcs c List.mem_cons_self), ← failing?_fault_iff,
        failing?_neg, Dialogue.map_apply, Traced.outcome_map_fault_iff, failing?_fault_iff]
  | notOther cs hne =>
    have hno : ¬ ReachesUnwritable w (group (.known .not) cs) := by
      refine not_reachesUnwritable (fun v z hz => ?_) (by simp)
      cases hz with
      | here => rfl
      | not h => exact absurd rfl (hne _)
    rw [converse]
    · rw [alone, Dialogue.step, evaluate_not_of_ne hne]
      simp [hno]
    · exact hne
  | kept given cs =>
    have hno : ¬ ReachesUnwritable w (group (.kept given) cs) :=
      not_reachesUnwritable (by rintro v z ⟨⟩; rfl) (by simp)
    cases hx with
    | group hgiven _ =>
      obtain ⟨s, hs⟩ := display_of_isWord (hgiven given rfl)
      rw [converse, alone, Dialogue.step, evaluate, hs]
      simp [hno, bind, Except.bind, pure, Except.pure]

/-- An evaluation ends in no fault but the digit limit, and in that exactly if it comes to a
comparison of present values that does not hold and that shows an integer past the limit; its
operands always resolve. So it is among collaborators whose answers hang on what was asked before,
and in a context. -/
theorem evaluate_fault_iff (x : Expression) (hx : x.Worded) :
    (∀ (w : Surroundings) (fault : Fault), (x.converse w).outcome = .error fault ↔
      fault = .digitLimit ∧ ReachesUnwritable w x) ∧
    (∀ (ctx : Context) (fault : Fault), (x.evaluate ctx).outcome = .error fault ↔
      fault = .digitLimit ∧ ReachesUnwritable (fun _ => ctx) x) ∧
    (∀ (w : Surroundings) (operand : Operand),
      (operand.converse w).outcome = .ok (operand.valueIn w)) ∧
    ∀ (ctx : Context) (operand : Operand),
      (operand.resolve ctx).outcome = .ok (operand.value ctx) := by
  refine ⟨fun w => converse_fault_iff w hx, fun ctx => ?_, Operand.outcome_converse,
    Operand.resolve_outcome⟩
  rw [← x.among_converse ctx]
  exact converse_fault_iff (fun _ => ctx) hx

theorem evaluate_fault_iff_not_equals :
    let ctx : Context := ⟨fun _ => .error (.raised "RuntimeError" ""), .empty, .known .default, {}⟩
    let x := group (.known .not) [comparison (.literal (.number (.int (10 ^ digitLimit))))
      (.symbol (.comparison .equals)) (.literal (.boolean true))]
    x.Worded ∧ (x.evaluate ctx).outcome = .error .digitLimit := by
  intro ctx x
  have hx : x.Worded := by
    refine .group (by simp) fun c hc => ?_
    rw [List.mem_singleton.1 hc]
    exact .comparison rfl
  refine ⟨hx, ((evaluate_fault_iff x hx).2.1 ctx .digitLimit).2 ⟨rfl, _, _, _, _, .not .here, ?_⟩⟩
  exact ⟨.equals, rfl, rfl, rfl, by decide, .inl ⟨_, rfl, by simp [Int.natAbs_pow]⟩⟩

end Expression

end Verdict
