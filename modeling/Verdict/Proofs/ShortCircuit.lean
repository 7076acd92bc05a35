import Verdict.Proofs.Turns

/-! What an evaluation asks and calls, and in which order. A group takes its children
from the left and stops behind the first that decides; nothing after that is asked. -/

namespace Verdict

/-- Comparing two values asks nobody. -/
theorem compare_calls (ctx : Context) (l : Value) (operator : Datum) (r : Value) :
    (compare ctx l operator r).calls = [] := by
  rw [compare]
  cases ComparisonOperator.ofDatum? operator with
  | none => rfl
  | some op =>
    dsimp only
    split
    · rfl
    · rcases holds? ctx op l r with _ | (_ | _)
      · rfl
      · rw [Traced.emit_bind_calls]
        rfl
      · rfl

namespace Expression

mutual

/-- The calls of an expression in order, each in the surroundings that those before it have left. -/
def callsIn (w : Surroundings) : Expression → List Event
  | .comparison lhs _ rhs => lhs.callsIn w ++ rhs.callsIn (w.past lhs)
  | .presence operand operator =>
    if (PresenceOperator.ofDatum? operator).isSome then operand.callsIn w else []
  | .group (.known .and) cs => callsWhile true w cs
  | .group (.known .or) cs => callsWhile false w cs
  | .group (.known .not) [c] => callsIn w c
  | .group (.known .not) _ => []
  | .group (.kept _) _ => []
  | .stray _ => []

/-- The calls of children in turn, up to the first whose verdict is not `b`, its own included. -/
def callsWhile (b : Bool) (w : Surroundings) : List Expression → List Event
  | [] => []
  | c :: cs => callsIn w c ++
    if (c.converse w).verdict? = some b then callsWhile b (w.after (callsIn w c)) cs else []

end

variable {w : Surroundings} {cs : List Expression}

theorem callsIn_not_of_ne (h : ∀ c, cs ≠ [c]) : (group (.known .not) cs).callsIn w = [] := by
  rw [callsIn]
  exact h

/-- The way a node fails is read off its evaluation and asks nobody further. -/
theorem calls_failing? (w : Surroundings) (x : Expression) :
    (x.failing? w).calls = (x.converse w).calls := by
  rw [failing?, Dialogue.map_apply, Traced.calls_map]

theorem calls_inTurn (b : Bool) (w : Surroundings)
    (h : ∀ c ∈ cs, ∀ w, (c.converse w).calls = c.callsIn w) :
    (inTurn b (cs.map failing?) w).calls = callsWhile b w cs := by
  induction cs generalizing w with
  | nil => rfl
  | cons c cs ih =>
    obtain ⟨hc, hcs⟩ := List.forall_mem_cons.1 h
    rw [List.map_cons, inTurn_failing?_cons, callsWhile, ← hc]
    split
    · rw [← ih _ hcs]
      simp [Traced.calls]
    · rw [Traced.calls_map, List.append_nil]

theorem calls_converse_comparison (w : Surroundings) (lhs : Operand) (operator : Datum)
    (rhs : Operand) : ((comparison lhs operator rhs).converse w).calls =
      lhs.callsIn w ++ rhs.callsIn (w.past lhs) := by
  rw [converse, Dialogue.calls_bind_of_ok (lhs.outcome_converse w), lhs.calls_converse,
    Dialogue.calls_bind_of_ok (rhs.outcome_converse _), rhs.calls_converse]
  exact congrArg _ ((congrArg _ (compare_calls ..)).trans (List.append_nil _))

/-- Evaluation makes exactly the calls of the expression, in this order, also where a fault
ends it. -/
theorem calls_converse (w : Surroundings) (x : Expression) :
    (x.converse w).calls = x.callsIn w := by
  induction x generalizing w with
  | comparison lhs operator rhs => rw [calls_converse_comparison, callsIn]
  | presence operand operator =>
    rw [converse, callsIn]
    cases hop : PresenceOperator.ofDatum? operator with
    | none => exact congrArg Traced.calls (evaluate_presence_of_none operand hop)
    | some op =>
      dsimp only
      rw [Dialogue.calls_bind_of_ok (operand.outcome_converse w), operand.calls_converse]
      exact List.append_nil _
  | stray kind => rw [converse, callsIn]; rfl
  | and cs ih =>
    rw [callsIn]
    by_cases hcs : cs = []
    · rw [hcs, converse]; rfl
    · rw [← calls_failing?, failing?_conj hcs, calls_inTurn true w fun c hc w => ih c hc w]
  | or cs ih =>
    rw [callsIn]
    by_cases hcs : cs = []
    · rw [hcs, converse]; rfl
    · rw [← calls_failing?, failing?_disj hcs, calls_inTurn false w fun c hc w => ih c hc w]
  | not c ih =>
    rw [callsIn, ← ih, ← calls_failing?, failing?_neg, Dialogue.map_apply, Traced.calls_map,
      calls_failing?]
  | notOther cs hne =>
    rw [callsIn_not_of_ne hne, converse]
    · exact congrArg Traced.calls (evaluate_not_of_ne hne)
    · exact hne
  | kept given cs => rw [converse, callsIn]; rfl

/-- Evaluation makes exactly the calls of the expression, in this order, also where a fault ends
it: in a context, and among collaborators whose answers hang on what was asked before. -/
theorem calls_evaluate :
    (∀ (w : Surroundings) (x : Expression), (x.converse w).calls = x.callsIn w) ∧
    ∀ (ctx : Context) (x : Expression), x.converse.among ctx = x.evaluate ctx ∧
      (x.evaluate ctx).verdict? = x.verdict? ctx ∧
      (x.evaluate ctx).calls = x.callsIn fun _ => ctx := by
  refine ⟨calls_converse, fun ctx x => ⟨x.among_converse ctx, x.verdict?_evaluate ctx, ?_⟩⟩
  rw [← x.among_converse ctx]
  exact x.calls_converse fun _ => ctx

/-! ### The walk of an evaluation -/

/-- The nodes of a tree that its evaluation comes to, with the surroundings that they meet. -/
inductive Reaches : Surroundings → Expression → Surroundings → Expression → Prop
  | here {w : Surroundings} {x : Expression} : Reaches w x w x
  | and {w v : Surroundings} {cs : List Expression} {t : Turn} {z : Expression}
      (ht : t ∈ turns true w cs) (h : Reaches t.met t.child v z) :
      Reaches w (.group (.known .and) cs) v z
  | or {w v : Surroundings} {cs : List Expression} {t : Turn} {z : Expression}
      (ht : t ∈ turns false w cs) (h : Reaches t.met t.child v z) :
      Reaches w (.group (.known .or) cs) v z
  | not {w v : Surroundings} {c z : Expression} (h : Reaches w c v z) :
      Reaches w (.group (.known .not) [c]) v z

theorem failing?_fault_iff (w : Surroundings) (x : Expression) (fault : Fault) :
    (x.failing? w).outcome = .error fault ↔ (x.converse w).outcome = .error fault := by
  rw [failing?, Dialogue.map_apply, Traced.outcome_map_fault_iff]

/-- Children that take turns end in the fault of one whose turn comes. -/
theorem inTurn_fault_iff (b : Bool) (w : Surroundings) (cs : List Expression) (fault : Fault) :
    (inTurn b (cs.map failing?) w).outcome = .error fault ↔
      ∃ t ∈ turns b w cs, t.run.outcome = .error fault := by
  induction cs generalizing w with
  | nil => simp [inTurn, turns, Pure.pure]
  | cons c cs ih =>
    rw [List.map_cons, inTurn_failing?_cons, turns]
    split
    · next hv =>
      have hc : (c.converse w).outcome ≠ .error fault := fun h => by
        rw [verdict?_of_error h] at hv
        cases hv
      rw [ih]
      simp [Turn.run, hc]
    · rw [Traced.outcome_map_fault_iff]
      simp [Turn.run]

end Expression

end Verdict
