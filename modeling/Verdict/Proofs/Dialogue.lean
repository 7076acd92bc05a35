import Verdict.Proofs.Evaluation
import Verdict.Template

/-! Evaluation and rendering among collaborators that remember. What a resolver or a transform
answers may hang on all that was asked before, so each step of a dialogue meets the context as the
calls so far have left it. Among collaborators that remember nothing it is evaluation or rendering
in their context. -/

namespace Verdict

/-- Surroundings with a memory: the context that they are after some calls. -/
abbrev Surroundings := List Event → Context

/-- The surroundings as some calls leave them. -/
def Surroundings.after (w : Surroundings) (calls : List Event) : Surroundings :=
  fun later => w (calls ++ later)

/-- A computation each part of which meets the surroundings that the calls before it left. -/
def Dialogue (α : Type) := Surroundings → Traced α

namespace Dialogue

variable {α β γ : Type}

instance : Monad Dialogue where
  pure a := fun _ => pure a
  bind x f := fun w => x w >>= fun a => f a (w.after (x w).calls)

theorem bind_apply (x : Dialogue α) (f : α → Dialogue β) (w : Surroundings) :
    (x >>= f) w = x w >>= fun a => f a (w.after (x w).calls) := rfl

theorem map_apply (f : α → β) (x : Dialogue α) (w : Surroundings) : (f <$> x) w = f <$> x w := rfl

theorem bind_assoc (x : Dialogue α) (f : α → Dialogue β) (g : β → Dialogue γ) :
    (x >>= f >>= g) = x >>= fun a => f a >>= g := by
  funext w
  cases hx : (x w).outcome with
  | error fault =>
    simp only [bind_apply, Traced.bind_of_error hx]
    exact Traced.bind_of_error rfl
  | ok a =>
    have hcalls : (x w >>= fun a => f a (w.after (x w).calls)).calls =
        (x w).calls ++ (f a (w.after (x w).calls)).calls := Traced.calls_bind_of_ok hx
    -- the third part meets what the calls of the first and then of the second have left
    have hafter : w.after ((x w).calls ++ (f a (w.after (x w).calls)).calls) =
        (w.after (x w).calls).after (f a (w.after (x w).calls)).calls := by
      funext later
      exact congrArg w (List.append_assoc ..)
    rw [bind_apply, bind_apply, bind_apply, hcalls, hafter, Traced.bind_assoc,
      Traced.bind_of_ok hx, Traced.bind_of_ok hx, bind_apply]

instance : LawfulMonad Dialogue := .mk' _
  (fun x => funext fun w => Traced.id_map (x w))
  (fun a f => funext fun w => Traced.pure_bind a fun a => f a w)
  bind_assoc

section Outcomes

variable {x : Dialogue α} {f : α → Dialogue β} {w : Surroundings} {a : α} {fault : Fault}

theorem bind_of_ok (h : (x w).outcome = .ok a) :
    (x >>= f) w = ⟨(x w).events ++ (f a (w.after (x w).calls)).events,
      (f a (w.after (x w).calls)).outcome⟩ := by
  rw [bind_apply, Traced.bind_of_ok h]

theorem bind_of_error (h : (x w).outcome = .error fault) :
    (x >>= f) w = ⟨(x w).events, .error fault⟩ := by
  rw [bind_apply, Traced.bind_of_error h]

theorem outcome_bind_of_ok (h : (x w).outcome = .ok a) :
    ((x >>= f) w).outcome = (f a (w.after (x w).calls)).outcome := by
  rw [bind_of_ok h]

theorem calls_bind_of_ok (h : (x w).outcome = .ok a) :
    ((x >>= f) w).calls = (x w).calls ++ (f a (w.after (x w).calls)).calls := by
  rw [bind_apply, Traced.calls_bind_of_ok h]

end Outcomes

/-- One step in the surroundings as they are. -/
def step (f : Context → Traced α) : Dialogue α := fun w => f (w [])

/-- A computation among collaborators that remember nothing. -/
def among (ctx : Context) (x : Dialogue α) : Traced α := x fun _ => ctx

theorem among_bind (ctx : Context) (x : Dialogue α) (f : α → Dialogue β) :
    among ctx (x >>= f) = among ctx x >>= fun a => among ctx (f a) := rfl

end Dialogue

/-! ### Evaluation -/

/-- The value of a token. The transform meets what the lookup of the name has left. -/
def Token.converse (t : Token) : Dialogue Value := do
  let v ← .step fun ctx => ctx.resolve t.name
  match t.function with
  | some function => .step fun ctx => ctx.registry.apply function v
  | none => return v

def Operand.converse : Operand → Dialogue Value
  | .literal v => return v
  | .token text =>
    match Token.ofDatum? text with
    | some t => t.converse
    | none => return .absent
  | .other _ => return .absent

namespace Expression

/-- A node that asks nobody, in the surroundings as they are. -/
def alone (x : Expression) : Dialogue Outcome := .step fun ctx => evaluate ctx x

mutual

/-- Evaluation among collaborators that may remember. -/
def converse : Expression → Dialogue Outcome
  | .comparison lhs operator rhs => do
    let l ← lhs.converse
    let r ← rhs.converse
    .step fun ctx => compare ctx l operator r
  | .presence operand operator =>
    match PresenceOperator.ofDatum? operator with
    | some op => do return op.test (← operand.converse)
    | none => alone (.presence operand operator)
  | .group (.known .and) [] => alone (.group (.known .and) [])
  | .group (.known .and) (c :: cs) => converseAll (cs.length + 1) 1 (c :: cs)
  | .group (.known .or) [] => alone (.group (.known .or) [])
  | .group (.known .or) (c :: cs) => converseAny [] (c :: cs)
  | .group (.known .not) [c] => do
    match ← converse c with
    | .success => return .failure "'not' operand succeeded" .conditionFailed
    | .failure .. => return .success
  | .group (.known .not) cs => alone (.group (.known .not) cs)
  | .group (.kept given) cs => alone (.group (.kept given) cs)
  | .stray kind => alone (.stray kind)

/-- Evaluates children up to the first that fails; the first one has number `index`. -/
def converseAll (total index : Nat) : List Expression → Dialogue Outcome
  | [] => return .success
  | c :: cs => do
    match ← converse c with
    | .success => converseAll total (index + 1) cs
    | .failure reason type => return .failure (conjunctReason index total reason) type

/-- Evaluates children up to the first that succeeds, after others failed for `reasons`. -/
def converseAny (reasons : List Text) : List Expression → Dialogue Outcome
  | [] => return .failure (disjunctsReason reasons) .conditionFailed
  | c :: cs => do
    match ← converse c with
    | .success => return .success
    | .failure reason _ => converseAny (reasons ++ [reason]) cs

end

end Expression

/-! ### Templates -/

namespace Template

def converseSegment (d : Delimiter) (s : Segment) : Dialogue (List Point) :=
  match s with
  | .plain text => return text
  | .span body =>
    match Token.ofBody? body with
    | none => return s.source d
    | some t => do
      let v ← t.converse
      return (← .step fun _ => .ofExcept v.text).toList

def converseSegments (d : Delimiter) : List Segment → Dialogue (List Point)
  | [] => return []
  | s :: rest => do return (← converseSegment d s) ++ (← converseSegments d rest)

/-- Rendering among collaborators that may remember. -/
def converse (d : Delimiter) (template : Datum) : Dialogue Text :=
  if template.isGiven then do
    let s ← .step fun _ => .ofExcept template.requireText
    return .ofList (← converseSegments d (segments d s.toList))
  else return ""

end Template

/-! ### Without a memory -/

theorem Token.among_converse (ctx : Context) (t : Token) :
    t.converse.among ctx = ctx.resolveToken t := by
  rw [converse, Dialogue.among_bind, Context.resolveToken]
  refine bind_congr fun v => ?_
  cases t.function <;> rfl

theorem Operand.among_converse (ctx : Context) (x : Operand) :
    x.converse.among ctx = x.resolve ctx := by
  cases x with
  | literal v => rfl
  | other d => rfl
  | token text =>
    rw [converse, resolve]
    cases Token.ofDatum? text with
    | none => rfl
    | some t => exact t.among_converse ctx

namespace Expression

variable {ctx : Context} {cs : List Expression}

theorem among_converseAll (total index : Nat)
    (h : ∀ c ∈ cs, c.converse.among ctx = c.evaluate ctx) :
    (converseAll total index cs).among ctx = evaluateAll ctx total index cs := by
  induction cs generalizing index with
  | nil => rw [converseAll, evaluateAll]; rfl
  | cons c cs ih =>
    obtain ⟨hc, hcs⟩ := List.forall_mem_cons.1 h
    rw [converseAll, evaluateAll, Dialogue.among_bind, hc]
    refine bind_congr fun o => ?_
    cases o with
    | success => exact ih (index + 1) hcs
    | failure reason type => rfl

theorem among_converseAny (reasons : List Text)
    (h : ∀ c ∈ cs, c.converse.among ctx = c.evaluate ctx) :
    (converseAny reasons cs).among ctx = evaluateAny ctx reasons cs := by
  induction cs generalizing reasons with
  | nil => rw [converseAny, evaluateAny]; rfl
  | cons c cs ih =>
    obtain ⟨hc, hcs⟩ := List.forall_mem_cons.1 h
    rw [converseAny, evaluateAny, Dialogue.among_bind, hc]
    refine bind_congr fun o => ?_
    cases o with
    | success => rfl
    | failure reason type => exact ih (reasons ++ [reason]) hcs

/-- Among collaborators that remember nothing, a dialogue is the evaluation in their context. -/
theorem among_converse (ctx : Context) (x : Expression) :
    x.converse.among ctx = x.evaluate ctx := by
  induction x with
  | comparison lhs operator rhs =>
    rw [converse, evaluate, Dialogue.among_bind, lhs.among_converse]
    refine bind_congr fun l => ?_
    rw [Dialogue.among_bind, rhs.among_converse]
    rfl
  | presence operand operator =>
    rw [converse]
    cases hop : PresenceOperator.ofDatum? operator with
    | none => rfl
    | some op =>
      rw [evaluate, hop]
      dsimp only
      rw [Dialogue.among_bind, operand.among_converse]
      rfl
  | and cs ih =>
    cases cs with
    | nil => rw [converse]; rfl
    | cons c cs =>
      rw [converse, evaluate]
      exact among_converseAll (cs.length + 1) 1 ih
  | or cs ih =>
    cases cs with
    | nil => rw [converse]; rfl
    | cons c cs =>
      rw [converse, evaluate]
      exact among_converseAny [] ih
  | not c ih =>
    rw [converse, evaluate, Dialogue.among_bind, ih]
    refine bind_congr fun o => ?_
    cases o <;> rfl
  | notOther cs hne =>
    rw [converse]
    · rfl
    · exact hne
  | kept given cs => rw [converse]; rfl
  | stray kind => rw [converse]; rfl

end Expression

namespace Template

theorem among_converseSegment (ctx : Context) (d : Delimiter) (s : Segment) :
    (converseSegment d s).among ctx = renderSegment ctx d s := by
  cases s with
  | plain text => rfl
  | span body =>
    rw [converseSegment, renderSegment]
    cases Token.ofBody? body with
    | none => rfl
    | some t =>
      dsimp only
      rw [Dialogue.among_bind, t.among_converse]
      rfl

theorem among_converseSegments (ctx : Context) (d : Delimiter) (segs : List Segment) :
    (converseSegments d segs).among ctx = renderSegments ctx d segs := by
  induction segs with
  | nil => rfl
  | cons s segs ih =>
    rw [converseSegments, renderSegments, Dialogue.among_bind, among_converseSegment]
    refine bind_congr fun text => ?_
    rw [Dialogue.among_bind, ih]
    rfl

theorem among_converse (ctx : Context) (d : Delimiter) (template : Datum) :
    (converse d template).among ctx = render ctx d template := by
  rw [converse, render]
  split
  · rw [Dialogue.among_bind]
    refine bind_congr fun s => ?_
    rw [Dialogue.among_bind, among_converseSegments, renderText]
    rfl
  · rfl

end Template

end Verdict
