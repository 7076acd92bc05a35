import Verdict.Expression

/-! What names, tokens and operands come to, and what is asked on the way. The values here
are functions of the context alone; resolving always returns them, also where a resolver
or a transform raises. -/

namespace Verdict

/-- The value of a caller's answer. One that raised counts as absent. -/
def answerValue : Except Fault Datum → Value
  | .ok d => d.toValue
  | .error _ => .absent

/-! ### Names and transforms -/

namespace Context

/-- What the resolver says of a name. -/
def nameValue (ctx : Context) (name : Text) : Value := answerValue (ctx.resolver name)

theorem resolve_outcome (ctx : Context) (name : Text) :
    (ctx.resolve name).outcome = .ok (ctx.nameValue name) := by
  rw [resolve, Traced.emit_bind_outcome, nameValue]
  cases ctx.resolver name <;> rfl

/-- A name asks the resolver once, whether it answers or raises. -/
theorem resolve_calls (ctx : Context) (name : Text) :
    (ctx.resolve name).calls = [.lookup name] := by
  rw [resolve, Traced.emit_bind_calls]
  cases ctx.resolver name <;> rfl

end Context

namespace Registry

/-- What the transform bound to a name makes of a value; an unknown name leaves it as it is. -/
def image (r : Registry) (name : Text) (v : Value) : Value :=
  match r.find? name with
  | some t => answerValue (t.run v.raw)
  | none => v

/-- The calls of applying a name to a value: one if a transform is bound to it. -/
def imageCalls (r : Registry) (name : Text) (v : Value) : List Event :=
  match r.find? name with
  | some t => [.call name t.label v.raw]
  | none => []

theorem apply_outcome (r : Registry) (name : Text) (v : Value) :
    (r.apply name v).outcome = .ok (r.image name v) := by
  rw [apply, image]
  cases r.find? name with
  | none => rfl
  | some t =>
    dsimp only
    rw [Traced.emit_bind_outcome]
    cases t.run v.raw <;> rfl

theorem apply_calls (r : Registry) (name : Text) (v : Value) :
    (r.apply name v).calls = r.imageCalls name v := by
  rw [apply, imageCalls]
  cases r.find? name with
  | none => rfl
  | some t =>
    dsimp only
    rw [Traced.emit_bind_calls]
    cases t.run v.raw <;> rfl

end Registry

/-! ### Tokens and operands -/

namespace Context

/-- What a token stands for. -/
def tokenValue (ctx : Context) (t : Token) : Value :=
  match t.function with
  | some function => ctx.registry.image function (ctx.nameValue t.name)
  | none => ctx.nameValue t.name

/-- The calls of a token: its name is looked up, and what comes back goes through its transform. -/
def tokenCalls (ctx : Context) (t : Token) : List Event :=
  .lookup t.name :: match t.function with
    | some function => ctx.registry.imageCalls function (ctx.nameValue t.name)
    | none => []

theorem resolveToken_outcome (ctx : Context) (t : Token) :
    (ctx.resolveToken t).outcome = .ok (ctx.tokenValue t) := by
  rw [resolveToken, Traced.outcome_bind_of_ok (ctx.resolve_outcome t.name), tokenValue]
  cases t.function with
  | none => rfl
  | some function => exact ctx.registry.apply_outcome function _

theorem resolveToken_calls (ctx : Context) (t : Token) :
    (ctx.resolveToken t).calls = ctx.tokenCalls t := by
  rw [resolveToken, Traced.calls_bind_of_ok (ctx.resolve_outcome t.name), resolve_calls, tokenCalls,
    List.singleton_append]
  congr 1
  cases t.function with
  | none => rfl
  | some function => exact ctx.registry.apply_calls function _

end Context

namespace Operand

/-- The value of an operand in a context. -/
def value (ctx : Context) : Operand → Value
  | .literal v => v
  | .token text =>
    match Token.ofDatum? text with
    | some t => ctx.tokenValue t
    | none => .absent
  | .other _ => .absent

/-- The calls of an operand. Only token text that parses makes any. -/
def calls (ctx : Context) : Operand → List Event
  | .token text =>
    match Token.ofDatum? text with
    | some t => ctx.tokenCalls t
    | none => []
  | .literal _ | .other _ => []

/-- Resolving an operand always returns its value. -/
theorem resolve_outcome (ctx : Context) (x : Operand) :
    (x.resolve ctx).outcome = .ok (x.value ctx) := by
  cases x with
  | literal v => rfl
  | other d => rfl
  | token text =>
    rw [resolve, value]
    cases Token.ofDatum? text with
    | none => rfl
    | some t => exact ctx.resolveToken_outcome t

theorem resolve_calls (ctx : Context) (x : Operand) : (x.resolve ctx).calls = x.calls ctx := by
  cases x with
  | literal v => rfl
  | other d => rfl
  | token text =>
    rw [resolve, calls]
    cases Token.ofDatum? text with
    | none => rfl
    | some t => exact ctx.resolveToken_calls t

end Operand

end Verdict
