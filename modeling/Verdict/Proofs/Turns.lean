import Verdict.Proofs.Denotation
import Verdict.Proofs.Dialogue

/-! One node of a dialogue at a time. An operand comes to a value and asks in the surroundings that
it meets; the children of a group take turns, each in the surroundings that those before it have
left, up to the first that decides. -/

namespace Verdict

/-! ### Operands -/

namespace Token

/-- What a token stands for. Its transform is the one that the lookup of the name has left. -/
def valueIn (w : Surroundings) (t : Token) : Value :=
  match t.function with
  | some function => (w [.lookup t.name]).registry.image function ((w []).nameValue t.name)
  | none => (w []).nameValue t.name

/-- The calls of a token: its name is looked up, and what comes back goes through its transform. -/
def callsIn (w : Surroundings) (t : Token) : List Event :=
  .lookup t.name :: match t.function with
    | some function => (w [.lookup t.name]).registry.imageCalls function ((w []).nameValue t.name)
    | none => []

theorem outcome_converse (w : Surroundings) (t : Token) :
    (t.converse w).outcome = .ok (t.valueIn w) := by
  have hname : (Dialogue.step (fun ctx => ctx.resolve t.name) w).outcome =
      .ok ((w []).nameValue t.name) := (w []).resolve_outcome t.name
  have hcalls : (Dialogue.step (fun ctx => ctx.resolve t.name) w).calls = [.lookup t.name] :=
    (w []).resolve_calls t.name
  rw [converse, Dialogue.outcome_bind_of_ok hname, hcalls, valueIn]
  cases t.function with
  | none => rfl
  | some function => exact Registry.apply_outcome _ function _

theorem calls_converse (w : Surroundings) (t : Token) :
    (t.converse w).calls = t.callsIn w := by
  have hname : (Dialogue.step (fun ctx => ctx.resolve t.name) w).outcome =
      .ok ((w []).nameValue t.name) := (w []).resolve_outcome t.name
  have hcalls : (Dialogue.step (fun ctx => ctx.resolve t.name) w).calls = [.lookup t.name] :=
    (w []).resolve_calls t.name
  rw [converse, Dialogue.calls_bind_of_ok hname, hcalls, callsIn, List.singleton_append]
  congr 1
  cases t.function with
  | none => rfl
  | some function => exact Registry.apply_calls _ function _

end Token

namespace Operand

/-- The value of an operand in the surroundings that it meets. -/
def valueIn (w : Surroundings) : Operand → Value
  | .literal v => v
  | .token text =>
    match Token.ofDatum? text with
    | some t => t.valueIn w
    | none => .absent
  | .other _ => .absent

/-- The calls of an operand. Only token text that parses makes any. -/
def callsIn (w : Surroundings) : Operand → List Event
  | .token text =>
    match Token.ofDatum? text with
    | some t => t.callsIn w
    | none => []
  | .literal _ | .other _ => []

/-- Resolving an operand always returns its value. -/
theorem outcome_converse (w : Surroundings) (x : Operand) :
    (x.converse w).outcome = .ok (x.valueIn w) := by
  cases x with
  | literal v => rfl
  | other d => rfl
  | token text =>
    rw [converse, valueIn]
    cases Token.ofDatum? text with
    | none => rfl
    | some t => exact t.outcome_converse w

theorem calls_converse (w : Surroundings) (x : Operand) : (x.converse w).calls = x.callsIn w := by
  cases x with
  | literal v => rfl
  | other d => rfl
  | token text =>
    rw [converse, callsIn]
    cases Token.ofDatum? text with
    | none => rfl
    | some t => exact t.calls_converse w

end Operand

/-- The surroundings as an operand leaves them. -/
def Surroundings.past (w : Surroundings) (x : Operand) : Surroundings := w.after (x.callsIn w)

namespace Expression

/-- The outcome of comparing two operands in the surroundings that the comparison meets. -/
def compared (w : Surroundings) (lhs : Operand) (operator : Datum) (rhs : Operand) :
    Except Fault Outcome :=
  (compare (((w.past lhs).past rhs) []) (lhs.valueIn w) operator (rhs.valueIn (w.past lhs))).outcome

theorem outcome_comparison (w : Surroundings) (lhs : Operand) (operator : Datum) (rhs : Operand) :
    ((comparison lhs operator rhs).converse w).outcome = compared w lhs operator rhs := by
  have hl : w.after (lhs.converse w).calls = w.past lhs := by rw [lhs.calls_converse]; rfl
  have hr : (w.past lhs).after (rhs.converse (w.past lhs)).calls = (w.past lhs).past rhs := by
    rw [rhs.calls_converse]; rfl
  rw [converse, Dialogue.outcome_bind_of_ok (lhs.outcome_converse w), hl,
    Dialogue.outcome_bind_of_ok (rhs.outcome_converse _), hr, compared]
  rfl

end Expression

/-! ### Verdicts in turn -/

/-- What a negation makes of a type of failure, which is none on success. -/
def negated : Option FailureType → Option FailureType
  | none => some .conditionFailed
  | some _ => none

/-- Goes through what may fail as long as it succeeds, or as long as it fails if `b` is false,
and ends with the first that does not. -/
def inTurn {m : Type → Type} [Monad m] (b : Bool) :
    List (m (Option FailureType)) → m (Option FailureType)
  | [] => return if b then none else some .conditionFailed
  | u :: us => do
    let a ← u
    if a.isNone = b then inTurn b us else return a

namespace Expression

/-! ### Groups by their verdicts -/

abbrev conj (cs : List Expression) : Expression := .group (.known .and) cs

abbrev disj (cs : List Expression) : Expression := .group (.known .or) cs

abbrev neg (c : Expression) : Expression := .group (.known .not) [c]

/-- How the evaluation of an expression fails, if it does. -/
def failing? (x : Expression) : Dialogue (Option FailureType) := Outcome.failureType? <$> x.converse

variable {cs : List Expression}

theorem failing?_converseAll (total index : Nat) (cs : List Expression) :
    Outcome.failureType? <$> converseAll total index cs = inTurn true (cs.map failing?) := by
  induction cs generalizing index with
  | nil => rw [converseAll, map_pure, List.map_nil, inTurn]; rfl
  | cons c cs ih =>
    rw [converseAll, List.map_cons, inTurn, failing?, map_bind, bind_map_left]
    refine bind_congr fun o => ?_
    cases o with
    | success => exact ih (index + 1)
    | failure reason type => exact map_pure _ _

theorem failing?_converseAny (reasons : List Text) (cs : List Expression) :
    Outcome.failureType? <$> converseAny reasons cs = inTurn false (cs.map failing?) := by
  induction cs generalizing reasons with
  | nil => rw [converseAny, map_pure, List.map_nil, inTurn]; rfl
  | cons c cs ih =>
    rw [converseAny, List.map_cons, inTurn, failing?, map_bind, bind_map_left]
    refine bind_congr fun o => ?_
    cases o with
    | success => exact map_pure _ _
    | failure reason type => exact ih (reasons ++ [reason])

theorem failing?_conj (h : cs ≠ []) : (conj cs).failing? = inTurn true (cs.map failing?) := by
  cases cs with
  | nil => exact absurd rfl h
  | cons c cs =>
    rw [failing?, converse]
    exact failing?_converseAll (cs.length + 1) 1 (c :: cs)

theorem failing?_disj (h : cs ≠ []) : (disj cs).failing? = inTurn false (cs.map failing?) := by
  cases cs with
  | nil => exact absurd rfl h
  | cons c cs =>
    rw [failing?, converse]
    exact failing?_converseAny [] (c :: cs)

theorem failing?_neg (c : Expression) : (neg c).failing? = negated <$> c.failing? := by
  rw [failing?, failing?, converse, map_bind, ← comp_map, ← bind_pure_comp]
  refine bind_congr fun o => ?_
  cases o <;> exact map_pure _ _

/-- The first to take a turn lets the next one follow, or is the last. -/
theorem inTurn_failing?_cons (b : Bool) (w : Surroundings) (c : Expression)
    (us : List (Dialogue (Option FailureType))) : inTurn b (c.failing? :: us) w =
      if (c.converse w).verdict? = some b then
        ⟨(c.converse w).events ++ (inTurn b us (w.after (c.converse w).calls)).events,
          (inTurn b us (w.after (c.converse w).calls)).outcome⟩
      else Outcome.failureType? <$> c.converse w := by
  rw [inTurn, failing?, bind_map_left]
  cases ho : (c.converse w).outcome with
  | error fault =>
    rw [Dialogue.bind_of_error ho, verdict?_of_error ho, if_neg (by simp)]
    exact (Traced.bind_of_error ho).symm
  | ok o =>
    have hlast : Outcome.failureType? <$> c.converse w =
        ⟨(c.converse w).events, .ok o.failureType?⟩ :=
      (Traced.bind_of_ok ho).trans (by simp)
    rw [Dialogue.bind_of_ok ho, verdict?_of_ok ho, hlast]
    cases o <;> cases b <;> simp [Outcome.failureType?, Outcome.succeeded, Pure.pure]

/-! ### Children in turn -/

/-- A child of a group with the surroundings that it meets. -/
structure Turn where
  met : Surroundings
  child : Expression

def Turn.run (t : Turn) : Traced Outcome := t.child.converse t.met

/-- The turns in a group that goes on while the verdict is `b`: all children up to the first with
another one, and that one too. -/
def turns (b : Bool) (w : Surroundings) : List Expression → List Turn
  | [] => []
  | c :: cs => ⟨w, c⟩ ::
    if (c.converse w).verdict? = some b then turns b (w.after (c.converse w).calls) cs else []

variable {b : Bool} {w : Surroundings}

theorem child_mem_of_mem_turns {t : Turn} (h : t ∈ turns b w cs) : t.child ∈ cs := by
  induction cs generalizing w with
  | nil => cases h
  | cons c cs ih =>
    rw [turns] at h
    rcases List.mem_cons.1 h with rfl | h
    · exact List.mem_cons_self
    · split at h
      · exact List.mem_cons_of_mem _ (ih h)
      · cases h

/-- All turns but the last come to the verdict that lets the group go on. -/
theorem verdict?_of_turns {i j : Nat} {t u : Turn} (ht : (turns b w cs)[i]? = some t)
    (hu : (turns b w cs)[j]? = some u) (hij : i < j) : t.run.verdict? = some b := by
  induction cs generalizing w i j with
  | nil => cases ht
  | cons c cs ih =>
    obtain ⟨j, rfl⟩ := Nat.exists_eq_add_one_of_ne_zero (Nat.ne_zero_of_lt hij)
    rw [turns, List.getElem?_cons_succ] at hu
    split at hu
    · next hc =>
      rw [turns, if_pos hc] at ht
      cases i with
      | zero => cases ht; exact hc
      | succ i => exact ih ht hu (Nat.lt_of_succ_lt_succ hij)
    · cases hu

end Expression

end Verdict
