import Verdict.Proofs.Dialogue
import Verdict.Proofs.ShortCircuit

/-! Records above debug level. Each tells of one call that raised and was contained: the records
stand in the order of these calls, name the token or the transform and hold the fault, and nothing
else is recorded above debug level, whatever the data are. This holds also among collaborators
that remember. -/

namespace Verdict

variable {α β : Type}

/-- The record due for a call, if the resolver or the transform raised there. -/
def Context.warning? (ctx : Context) : Event → Option Record
  | .lookup name =>
    match ctx.resolver name with
    | .ok _ => none
    | .error fault => some {
      level := .warning, source := .context
      message := "Resolver failed for token '" ++ name ++ "'"
      details := [(.token, name)], cause := some fault }
  | .call name _ argument =>
    match ctx.registry.find? name with
    | none => none
    | some t =>
      match t.run argument with
      | .ok _ => none
      | .error fault => some {
        level := .warning, source := .transforms
        message := "Transform '" ++ name ++ "' raised"
        details := [(.transform, name)], cause := some fault }
  | .record _ => none

namespace Surroundings

/-- The records due for calls in order, each made in the surroundings that those before it left. -/
def warnings (w : Surroundings) : List Event → List Record
  | [] => []
  | call :: calls => ((w []).warning? call).toList ++ (w.after [call]).warnings calls

theorem warnings_append (w : Surroundings) (calls more : List Event) :
    w.warnings (calls ++ more) = w.warnings calls ++ (w.after calls).warnings more := by
  induction calls generalizing w with
  | nil => rfl
  | cons call calls ih => rw [List.cons_append, warnings, warnings, ih, List.append_assoc]; rfl

/-- Without a memory, each call is judged by the context alone. -/
theorem warnings_of_memoryless (ctx : Context) (calls : List Event) :
    warnings (fun _ => ctx) calls = calls.filterMap ctx.warning? := by
  induction calls with
  | nil => rfl
  | cons call calls ih =>
    have hafter : after (fun _ => ctx) [call] = fun _ => ctx := rfl
    rw [warnings, hafter, ih, List.filterMap_cons]
    cases ctx.warning? call <;> rfl

/-- At most one call is judged by the surroundings as they are. -/
theorem warnings_of_length_le (w : Surroundings) {calls : List Event} (h : calls.length ≤ 1) :
    w.warnings calls = calls.filterMap (w []).warning? := by
  cases calls with
  | nil => rfl
  | cons call calls =>
    have hnil : calls = [] := List.length_eq_zero_iff.1 (Nat.le_zero.1 (Nat.le_of_succ_le_succ h))
    rw [hnil, warnings, warnings, List.append_nil, List.filterMap_cons, List.filterMap_nil]
    cases (w []).warning? call <;> rfl

end Surroundings

namespace Traced

/-- The records above debug level, in order. -/
def aboveDebug (x : Traced α) : List Record := x.records.filter fun r => r.level != .debug

theorem aboveDebug_bind_of_ok {x : Traced α} {f : α → Traced β} {a : α} (h : x.outcome = .ok a) :
    (x >>= f).aboveDebug = x.aboveDebug ++ (f a).aboveDebug := by
  rw [aboveDebug, records_bind_of_ok h, List.filter_append, aboveDebug, aboveDebug]

theorem aboveDebug_bind_of_error {x : Traced α} {f : α → Traced β} {e : Fault}
    (h : x.outcome = .error e) : (x >>= f).aboveDebug = x.aboveDebug := by
  rw [aboveDebug, records, bind_of_error h, aboveDebug, records]

end Traced

/-! ### Single steps -/

namespace Context

variable (ctx : Context) (name : Text)

theorem aboveDebug_resolve :
    (ctx.resolve name).aboveDebug = (ctx.resolve name).calls.filterMap ctx.warning? := by
  rw [resolve_calls, List.filterMap_cons, List.filterMap_nil, warning?, resolve]
  cases ctx.resolver name <;> rfl

theorem aboveDebug_apply (v : Value) : (ctx.registry.apply name v).aboveDebug =
    (ctx.registry.apply name v).calls.filterMap ctx.warning? := by
  rw [Registry.apply_calls, Registry.imageCalls, Registry.apply]
  cases hname : ctx.registry.find? name with
  | none => rfl
  | some t =>
    dsimp only
    rw [List.filterMap_cons, List.filterMap_nil, warning?, hname]
    dsimp only
    cases t.run v.raw <;> rfl

end Context

/-- Comparing records nothing above debug level. -/
theorem aboveDebug_compare (ctx : Context) (l : Value) (operator : Datum) (r : Value) :
    (compare ctx l operator r).aboveDebug = [] := by
  rw [compare]
  cases ComparisonOperator.ofDatum? operator with
  | none => rfl
  | some op =>
    dsimp only
    split
    · rfl
    · rcases holds? ctx op l r with _ | (_ | _) <;> rfl

/-! ### Dialogues -/

/-- Whatever the surroundings, the records above debug level are those due for the calls. -/
def Dialogue.Accounted (x : Dialogue α) : Prop :=
  ∀ w : Surroundings, (x w).aboveDebug = w.warnings (x w).calls

namespace Dialogue.Accounted

theorem pure (a : α) : Accounted (return a : Dialogue α) := fun _ => rfl

/-- What neither calls nor records anything above debug level is accounted. -/
theorem quiet {f : Context → Traced α} (hcalls : ∀ ctx, (f ctx).calls = [])
    (hrecords : ∀ ctx, (f ctx).aboveDebug = []) : Accounted (.step f) := by
  intro w
  rw [step, hrecords, hcalls]
  rfl

/-- A step of at most one call, accounted by the context that it meets. -/
theorem step {f : Context → Traced α} (hcalls : ∀ ctx, (f ctx).calls.length ≤ 1)
    (hrecords : ∀ ctx, (f ctx).aboveDebug = (f ctx).calls.filterMap ctx.warning?) :
    Accounted (.step f) := by
  intro w
  rw [Dialogue.step, hrecords, w.warnings_of_length_le (hcalls (w []))]

theorem ofExcept (e : Except Fault α) : Accounted (.step fun _ => .ofExcept e) :=
  quiet (fun _ => rfl) fun _ => rfl

/-- The second part meets what the calls of the first have left. -/
theorem bind {x : Dialogue α} {f : α → Dialogue β} (hx : Accounted x)
    (hf : ∀ a, Accounted (f a)) : Accounted (x >>= f) := by
  intro w
  rw [bind_apply]
  cases hout : (x w).outcome with
  | error fault =>
    rw [Traced.aboveDebug_bind_of_error hout, hx w, Traced.bind_of_error hout]
    rfl
  | ok a =>
    rw [Traced.aboveDebug_bind_of_ok hout, hx w, hf a, ← Surroundings.warnings_append,
      Traced.calls_bind_of_ok hout]

end Dialogue.Accounted

open Dialogue (Accounted)

theorem Token.accounted (t : Token) : Accounted t.converse := by
  rw [converse]
  refine .bind (.step (fun ctx => ?_) fun ctx => ctx.aboveDebug_resolve t.name) fun v => ?_
  · exact Nat.le_of_eq (congrArg _ (ctx.resolve_calls t.name))
  · cases t.function with
    | none => exact .pure v
    | some function =>
      refine .step (fun ctx => ?_) fun ctx => ctx.aboveDebug_apply function v
      rw [Registry.apply_calls, Registry.imageCalls]
      split <;> simp

theorem Operand.accounted (x : Operand) : Accounted x.converse := by
  cases x with
  | literal v => exact .pure v
  | other d => exact .pure Value.absent
  | token text =>
    rw [converse]
    cases Token.ofDatum? text with
    | none => exact .pure Value.absent
    | some t => exact t.accounted

namespace Expression

variable {cs : List Expression}

theorem accounted_converseAll (total index : Nat) (h : ∀ c ∈ cs, Accounted c.converse) :
    Accounted (converseAll total index cs) := by
  induction cs generalizing index with
  | nil => rw [converseAll]; exact .pure _
  | cons c cs ih =>
    obtain ⟨hc, hcs⟩ := List.forall_mem_cons.1 h
    rw [converseAll]
    refine hc.bind fun o => ?_
    cases o with
    | success => exact ih (index + 1) hcs
    | failure reason type => exact .pure _

theorem accounted_converseAny (reasons : List Text) (h : ∀ c ∈ cs, Accounted c.converse) :
    Accounted (converseAny reasons cs) := by
  induction cs generalizing reasons with
  | nil => rw [converseAny]; exact .pure _
  | cons c cs ih =>
    obtain ⟨hc, hcs⟩ := List.forall_mem_cons.1 h
    rw [converseAny]
    refine hc.bind fun o => ?_
    cases o with
    | success => exact .pure _
    | failure reason type => exact ih (reasons ++ [reason]) hcs

theorem accounted (x : Expression) : Accounted x.converse := by
  induction x with
  | comparison lhs operator rhs =>
    rw [converse]
    exact lhs.accounted.bind fun l => rhs.accounted.bind fun r =>
      .quiet (fun ctx => compare_calls ctx l operator r) fun ctx =>
        aboveDebug_compare ctx l operator r
  | presence operand operator =>
    rw [converse]
    cases hop : PresenceOperator.ofDatum? operator with
    | none =>
      refine .quiet (fun ctx => ?_) fun ctx => ?_
      all_goals rw [evaluate_presence_of_none operand hop]; rfl
    | some op => exact operand.accounted.bind fun v => .pure _
  | and cs ih =>
    cases cs with
    | nil =>
      rw [converse]
      refine .quiet (fun ctx => ?_) fun ctx => ?_
      all_goals rw [evaluate]; rfl
    | cons c cs =>
      rw [converse]
      exact accounted_converseAll (cs.length + 1) 1 ih
  | or cs ih =>
    cases cs with
    | nil =>
      rw [converse]
      refine .quiet (fun ctx => ?_) fun ctx => ?_
      all_goals rw [evaluate]; rfl
    | cons c cs =>
      rw [converse]
      exact accounted_converseAny [] ih
  | not c ih =>
    rw [converse]
    refine ih.bind fun o => ?_
    cases o <;> exact .pure _
  | notOther cs hne =>
    rw [converse]
    · refine .quiet (fun ctx => ?_) fun ctx => ?_
      all_goals rw [evaluate_not_of_ne hne]; rfl
    · exact hne
  | kept given cs =>
    rw [converse]
    refine .quiet (fun ctx => ?_) fun ctx => ?_
    all_goals rw [evaluate]; rfl
  | stray kind =>
    rw [converse]
    refine .quiet (fun ctx => ?_) fun ctx => ?_
    all_goals rw [evaluate]; rfl

end Expression

namespace Template

theorem accounted_converseSegment (d : Delimiter) (s : Segment) :
    Accounted (converseSegment d s) := by
  cases s with
  | plain text => exact .pure text
  | span body =>
    rw [converseSegment]
    cases Token.ofBody? body with
    | none => exact .pure _
    | some t => exact t.accounted.bind fun v => (Accounted.ofExcept v.text).bind fun s => .pure _

theorem accounted_converseSegments (d : Delimiter) (segs : List Segment) :
    Accounted (converseSegments d segs) := by
  induction segs with
  | nil => exact .pure []
  | cons s segs ih =>
    exact (accounted_converseSegment d s).bind fun text => ih.bind fun rest => .pure _

theorem accounted (d : Delimiter) (template : Datum) : Accounted (converse d template) := by
  rw [converse]
  split
  · exact (Accounted.ofExcept _).bind fun s =>
      (accounted_converseSegments d _).bind fun text => .pure _
  · exact .pure ""

end Template

/-- A dialogue that is accounted, in one context all along. -/
theorem Dialogue.Accounted.among {x : Dialogue α} (h : Accounted x) (ctx : Context) :
    (x.among ctx).aboveDebug = (x.among ctx).calls.filterMap ctx.warning? := by
  rw [← Surroundings.warnings_of_memoryless]
  exact h fun _ => ctx

/-- The records above debug level are, in order, one for each call that raised: that of a
resolver by the name it was asked for, that of a transform by the name it is registered under.
So it is in a context and among collaborators that remember, where each call is judged by the
context as the calls before it left it. -/
theorem warnings_account_for_raising_calls :
    (∀ w : Surroundings,
      (∀ x : Expression, (x.converse w).aboveDebug = w.warnings (x.converse w).calls) ∧
      (∀ x : Operand, (x.converse w).aboveDebug = w.warnings (x.converse w).calls) ∧
      ∀ (d : Delimiter) (template : Datum), (Template.converse d template w).aboveDebug =
        w.warnings (Template.converse d template w).calls) ∧
    ∀ ctx : Context,
      (∀ x : Expression,
        (x.evaluate ctx).aboveDebug = (x.evaluate ctx).calls.filterMap ctx.warning?) ∧
      (∀ x : Operand,
        (x.resolve ctx).aboveDebug = (x.resolve ctx).calls.filterMap ctx.warning?) ∧
      ∀ (d : Delimiter) (template : Datum), (Template.render ctx d template).aboveDebug =
        (Template.render ctx d template).calls.filterMap ctx.warning? := by
  refine ⟨fun w => ⟨fun x => x.accounted w, fun x => x.accounted w,
    fun d template => Template.accounted d template w⟩, fun ctx => ⟨fun x => ?_, fun x => ?_,
    fun d template => ?_⟩⟩
  · rw [← x.among_converse ctx]
    exact x.accounted.among ctx
  · rw [← x.among_converse ctx]
    exact x.accounted.among ctx
  · rw [← Template.among_converse ctx d template]
    exact (Template.accounted d template).among ctx

end Verdict
