import Verdict.Proofs.Evaluation
import Verdict.Template

/-! Two runs that agree: they come to the same answer or fault and ask the same on the way,
and differ in their records at most. A tree or a template takes from its context the values
of its tokens and a way to compare values, and nothing else. -/

namespace Verdict

namespace Traced

variable {α β : Type}

/-- The same answer or fault, and the same calls in the same order. -/
structure Agrees (x y : Traced α) : Prop where
  outcome : x.outcome = y.outcome
  calls : x.calls = y.calls

namespace Agrees

theorem refl (x : Traced α) : x.Agrees x := ⟨rfl, rfl⟩

theorem bind {x y : Traced α} {f g : α → Traced β} (h : x.Agrees y)
    (hf : ∀ a, (f a).Agrees (g a)) : (x >>= f).Agrees (y >>= g) := by
  cases hx : x.outcome with
  | error fault =>
    have hy : y.outcome = .error fault := h.outcome.symm.trans hx
    constructor
    · rw [outcome_bind_of_error hx, outcome_bind_of_error hy]
    · rw [calls_bind_of_error hx, calls_bind_of_error hy, h.calls]
  | ok a =>
    have hy : y.outcome = .ok a := h.outcome.symm.trans hx
    constructor
    · rw [outcome_bind_of_ok hx, outcome_bind_of_ok hy, (hf a).outcome]
    · rw [calls_bind_of_ok hx, calls_bind_of_ok hy, h.calls, (hf a).calls]

end Agrees

end Traced

variable {a b : Context}

/-! ### Comparisons -/

/-- Two contexts that compare values alike. -/
structure Context.ComparesLike (a b : Context) : Prop where
  policy : a.policy = b.policy
  ignoresCase : a.ignoresCase = b.ignoresCase

theorem fold_congr (h : a.ComparesLike b) (s : Text) : a.fold s = b.fold s := by
  rw [Context.fold, Context.fold, h.ignoresCase]

theorem sameValue_congr (h : a.ComparesLike b) (l r : Value) :
    sameValue a l r = sameValue b l r := by
  cases l <;> cases r <;> simp only [sameValue, fold_congr h]

theorem holds?_congr (h : a.ComparesLike b) (op : ComparisonOperator) (l r : Value) :
    holds? a op l r = holds? b op l r := by
  simp only [holds?, fold_congr h, sameValue_congr h, h.policy]

theorem compare_congr (h : a.ComparesLike b) (l : Value) (operator : Datum) (r : Value) :
    compare a l operator r = compare b l operator r := by
  simp only [compare, holds?_congr h, h.policy]

/-! ### Tokens -/

/-- The token that an operand stands for. -/
def Operand.token? : Operand → Option Token
  | .token text => Token.ofDatum? text
  | .literal _ | .other _ => none

/-- The tokens in an expression, from the left. -/
def Expression.tokens : Expression → List Token
  | .comparison lhs _ rhs => lhs.token?.toList ++ rhs.token?.toList
  | .presence operand _ => operand.token?.toList
  | .group _ cs => cs.flatMap tokens
  | .stray _ => []

def Segment.token? : Segment → Option Token
  | .plain _ => none
  | .span body => Token.ofBody? body

/-- The tokens in a template, from the left. -/
def Template.tokens (d : Delimiter) (text : List Point) : List Token :=
  (segments d text).filterMap Segment.token?

/-- A token for which two contexts come to the same value by the same calls. -/
def Context.AgreesOn (a b : Context) (t : Token) : Prop :=
  (a.resolveToken t).Agrees (b.resolveToken t)

theorem Context.agreesOn_iff (t : Token) :
    a.AgreesOn b t ↔ a.tokenValue t = b.tokenValue t ∧ a.tokenCalls t = b.tokenCalls t := by
  rw [AgreesOn, ← resolveToken_calls, ← resolveToken_calls]
  constructor
  · rintro ⟨ho, hc⟩
    rw [resolveToken_outcome, resolveToken_outcome] at ho
    exact ⟨Except.ok.inj ho, hc⟩
  · rintro ⟨hv, hc⟩
    refine ⟨?_, hc⟩
    rw [resolveToken_outcome, resolveToken_outcome, hv]

theorem Operand.resolve_agrees {x : Operand} (h : ∀ t ∈ x.token?, a.AgreesOn b t) :
    (x.resolve a).Agrees (x.resolve b) := by
  cases x with
  | literal v => exact .refl _
  | other d => exact .refl _
  | token text =>
    rw [resolve, resolve]
    cases ht : Token.ofDatum? text with
    | none => exact .refl _
    | some t => exact h t ht

/-! ### Trees -/

namespace Expression

variable {cs : List Expression}

theorem evaluateAll_agrees (total index : Nat)
    (h : ∀ c ∈ cs, (c.evaluate a).Agrees (c.evaluate b)) :
    (evaluateAll a total index cs).Agrees (evaluateAll b total index cs) := by
  induction cs generalizing index with
  | nil =>
    rw [evaluateAll, evaluateAll]
    exact .refl _
  | cons c cs ih =>
    obtain ⟨hc, hcs⟩ := List.forall_mem_cons.1 h
    rw [evaluateAll, evaluateAll]
    refine hc.bind fun o => ?_
    cases o with
    | success => exact ih (index + 1) hcs
    | failure reason type => exact .refl _

theorem evaluateAny_agrees (reasons : List Text)
    (h : ∀ c ∈ cs, (c.evaluate a).Agrees (c.evaluate b)) :
    (evaluateAny a reasons cs).Agrees (evaluateAny b reasons cs) := by
  induction cs generalizing reasons with
  | nil =>
    rw [evaluateAny, evaluateAny]
    exact .refl _
  | cons c cs ih =>
    obtain ⟨hc, hcs⟩ := List.forall_mem_cons.1 h
    rw [evaluateAny, evaluateAny]
    refine hc.bind fun o => ?_
    cases o with
    | success => exact .refl _
    | failure reason type => exact ih (reasons ++ [reason]) hcs

/-- The tokens of a group are those of its children. -/
theorem forall_tokens_group {p : Token → Prop} {operator : GroupOperator}
    (h : ∀ t ∈ (group operator cs).tokens, p t) : ∀ c ∈ cs, ∀ t ∈ c.tokens, p t := by
  intro c hc t ht
  refine h t ?_
  rw [tokens]
  exact List.mem_flatMap.2 ⟨c, hc, ht⟩

/-- Contexts that agree on the tokens of a tree and compare values alike evaluate it alike. -/
theorem evaluate_agrees (h : a.ComparesLike b) {x : Expression}
    (ht : ∀ t ∈ x.tokens, a.AgreesOn b t) : (x.evaluate a).Agrees (x.evaluate b) := by
  induction x with
  | comparison lhs operator rhs =>
    rw [tokens] at ht
    rw [evaluate, evaluate]
    refine (lhs.resolve_agrees fun t hl => ht t (by simp [Option.mem_def.1 hl])).bind fun l => ?_
    refine (rhs.resolve_agrees fun t hr => ht t (by simp [Option.mem_def.1 hr])).bind fun r => ?_
    rw [compare_congr h]
    exact .refl _
  | presence operand operator =>
    rw [tokens] at ht
    rw [evaluate, evaluate]
    cases PresenceOperator.ofDatum? operator with
    | none => exact .refl _
    | some op =>
      refine (operand.resolve_agrees fun t hp => ht t (by simp [Option.mem_def.1 hp])).bind ?_
      exact fun v => .refl _
  | and cs ih =>
    have hcs := fun c hc => ih c hc (forall_tokens_group ht c hc)
    rw [evaluate_and, evaluate_and]
    split
    · exact .refl _
    · exact evaluateAll_agrees cs.length 1 hcs
  | or cs ih =>
    have hcs := fun c hc => ih c hc (forall_tokens_group ht c hc)
    rw [evaluate_or, evaluate_or]
    split
    · exact .refl _
    · exact evaluateAny_agrees [] hcs
  | not c ih =>
    rw [evaluate, evaluate]
    refine (ih (forall_tokens_group ht c List.mem_cons_self)).bind fun o => ?_
    cases o <;> exact .refl _
  | notOther cs hne =>
    rw [evaluate_not_of_ne hne, evaluate_not_of_ne hne]
    exact .refl _
  | kept given cs =>
    rw [evaluate, evaluate]
    exact .refl _
  | stray kind =>
    rw [evaluate, evaluate]
    exact .refl _

end Expression

/-! ### Templates -/

namespace Template

theorem renderSegment_agrees (d : Delimiter) {s : Segment} (h : ∀ t ∈ s.token?, a.AgreesOn b t) :
    (renderSegment a d s).Agrees (renderSegment b d s) := by
  cases s with
  | plain text => exact .refl _
  | span body =>
    rw [renderSegment, renderSegment]
    cases ht : Token.ofBody? body with
    | none => exact .refl _
    | some t => exact (h t ht).bind fun v => .refl _

theorem renderSegments_agrees (d : Delimiter) {segs : List Segment}
    (h : ∀ s ∈ segs, ∀ t ∈ s.token?, a.AgreesOn b t) :
    (renderSegments a d segs).Agrees (renderSegments b d segs) := by
  induction segs with
  | nil => exact .refl _
  | cons s segs ih =>
    obtain ⟨hs, hsegs⟩ := List.forall_mem_cons.1 h
    rw [renderSegments, renderSegments]
    refine (renderSegment_agrees d hs).bind fun text => (ih hsegs).bind fun rest => ?_
    exact .refl _

/-- Contexts that agree on the tokens of a template render it alike. -/
theorem render_agrees (d : Delimiter) {template : Datum}
    (h : ∀ s, template.requireText = .ok s → ∀ t ∈ tokens d s.toList, a.AgreesOn b t) :
    (render a d template).Agrees (render b d template) := by
  rw [render, render]
  split
  · cases hs : template.requireText with
    | error fault => exact .refl _
    | ok s =>
      have hsegs : ∀ seg ∈ segments d s.toList, ∀ t ∈ seg.token?, a.AgreesOn b t :=
        fun seg hseg t ht => h s hs t (List.mem_filterMap.2 ⟨seg, hseg, ht⟩)
      exact (renderSegments_agrees d hsegs).bind fun text => .refl _
  · exact .refl _

end Template

end Verdict
