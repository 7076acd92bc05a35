import Verdict.Proofs.Comparison
import Verdict.Proofs.Turns

/-! Groups that can be written in another way. A group within a group of its kind may be
dissolved and a negation may be passed on to the children, with the same calls in the same
order, also among collaborators that remember. Only the reasons of failures differ. -/

namespace Verdict

/-! ### Verdicts in turn -/

section InTurn

variable {m : Type → Type} [Monad m] [LawfulMonad m] (b : Bool)
  (us vs ws : List (m (Option FailureType)))

theorem inTurn_append : inTurn b (us ++ vs) = do
    let a ← inTurn b us
    if a.isNone = b then inTurn b vs else return a := by
  induction us with
  | nil =>
    rw [inTurn, pure_bind, if_pos (by cases b <;> rfl), List.nil_append]
  | cons u us ih =>
    rw [List.cons_append, inTurn, inTurn, bind_assoc]
    refine bind_congr fun a => ?_
    split
    · exact ih
    · next h => rw [pure_bind, if_neg h]

theorem inTurn_singleton : inTurn b [inTurn b vs] = inTurn b vs := by
  have h := inTurn_append b vs []
  rw [List.append_nil] at h
  exact h.symm

/-- Those who are next can take their turns among themselves. -/
theorem inTurn_nested : inTurn b (us ++ [inTurn b vs] ++ ws) = inTurn b (us ++ vs ++ ws) := by
  rw [inTurn_append b (us ++ _), inTurn_append b (us ++ vs), inTurn_append b us,
    inTurn_append b us, inTurn_singleton]

theorem negated_inTurn : negated <$> inTurn b us = inTurn (!b) (us.map (negated <$> ·)) := by
  induction us with
  | nil =>
    rw [inTurn, map_pure, List.map_nil, inTurn]
    cases b <;> rfl
  | cons u us ih =>
    rw [inTurn, List.map_cons, inTurn, map_bind, bind_map_left]
    refine bind_congr fun a => ?_
    have hflip : (negated a).isNone = !b ↔ a.isNone = b := by
      cases a <;> cases b <;> simp [negated]
    simp only [hflip]
    split
    · exact ih
    · exact map_pure negated a

end InTurn

namespace Expression

variable {cs : List Expression}

theorem map_failing?_neg (cs : List Expression) :
    (cs.map neg).map failing? = (cs.map failing?).map (negated <$> ·) := by
  rw [List.map_map, List.map_map]
  exact List.map_congr_left fun c _ => failing?_neg c

/-! ### Rewriting -/

theorem failing?_conj_conj (xs zs : List Expression) {ys : List Expression} (h : ys ≠ []) :
    (conj (xs ++ [conj ys] ++ zs)).failing? = (conj (xs ++ ys ++ zs)).failing? := by
  rw [failing?_conj (by simp), failing?_conj (by simp [h])]
  simp only [List.map_append, List.map_cons, List.map_nil]
  rw [failing?_conj h, inTurn_nested]

theorem failing?_disj_disj (xs zs : List Expression) {ys : List Expression} (h : ys ≠ []) :
    (disj (xs ++ [disj ys] ++ zs)).failing? = (disj (xs ++ ys ++ zs)).failing? := by
  rw [failing?_disj (by simp), failing?_disj (by simp [h])]
  simp only [List.map_append, List.map_cons, List.map_nil]
  rw [failing?_disj h, inTurn_nested]

theorem failing?_neg_conj (h : cs ≠ []) :
    (neg (conj cs)).failing? = (disj (cs.map neg)).failing? := by
  rw [failing?_neg, failing?_conj h, negated_inTurn, failing?_disj (by simpa using h),
    map_failing?_neg, Bool.not_true]

theorem failing?_neg_disj (h : cs ≠ []) :
    (neg (disj cs)).failing? = (conj (cs.map neg)).failing? := by
  rw [failing?_neg, failing?_disj h, negated_inTurn, failing?_conj (by simpa using h),
    map_failing?_neg, Bool.not_false]

/-- Two expressions that fail alike come to the same verdict, also in surroundings with a memory. -/
theorem verdict_of_failing? {x y : Expression} (h : x.failing? = y.failing?) (w : Surroundings) :
    Outcome.verdict <$> x.converse w = Outcome.verdict <$> y.converse w := by
  have hverdict : Outcome.verdict = (fun t : Option FailureType => (t.isNone, t)) ∘
      Outcome.failureType? := by
    funext o
    cases o <;> rfl
  rw [hverdict, comp_map, comp_map]
  exact congrArg (Functor.map _) (congrFun h w)

/-- Negating twice loses the type of a failure and nothing else. -/
theorem succeeded_neg_neg (c : Expression) (w : Surroundings) :
    Outcome.succeeded <$> (neg (neg c)).converse w = Outcome.succeeded <$> c.converse w := by
  have hfailing : (neg (neg c)).failing? = (negated ∘ negated) <$> c.failing? := by
    rw [failing?_neg, failing?_neg, comp_map]
  have hsucceeded : Outcome.succeeded = Option.isNone ∘ Outcome.failureType? := by
    funext o
    cases o <;> rfl
  have htwice : Option.isNone ∘ negated ∘ negated = Option.isNone := by
    funext t
    cases t <;> rfl
  calc Outcome.succeeded <$> (neg (neg c)).converse w
      = Option.isNone <$> (neg (neg c)).failing? w := by
        rw [hsucceeded, comp_map, failing?, Dialogue.map_apply]
    _ = Option.isNone <$> c.failing? w := by
        rw [hfailing, Dialogue.map_apply, ← comp_map, htwice]
    _ = Outcome.succeeded <$> c.converse w := by
        rw [hsucceeded, comp_map, failing?, Dialogue.map_apply]

/-- How groups may be rewritten under a way to evaluate them. Both sides ask and call the same in
the same order, leave the same records and come to the same verdict, or to the same fault. -/
structure GroupLaws (run : Expression → Traced Outcome) : Prop where
  conj_conj (xs ys zs : List Expression) (h : ys ≠ []) :
    Outcome.verdict <$> run (conj (xs ++ [conj ys] ++ zs)) =
      Outcome.verdict <$> run (conj (xs ++ ys ++ zs))
  disj_disj (xs ys zs : List Expression) (h : ys ≠ []) :
    Outcome.verdict <$> run (disj (xs ++ [disj ys] ++ zs)) =
      Outcome.verdict <$> run (disj (xs ++ ys ++ zs))
  neg_conj (cs : List Expression) (h : cs ≠ []) :
    Outcome.verdict <$> run (neg (conj cs)) = Outcome.verdict <$> run (disj (cs.map neg))
  neg_disj (cs : List Expression) (h : cs ≠ []) :
    Outcome.verdict <$> run (neg (disj cs)) = Outcome.verdict <$> run (conj (cs.map neg))
  neg_neg (c : Expression) :
    Outcome.succeeded <$> run (neg (neg c)) = Outcome.succeeded <$> run c

theorem groupLaws_converse (w : Surroundings) : GroupLaws fun x => x.converse w where
  conj_conj xs _ zs h := verdict_of_failing? (failing?_conj_conj xs zs h) w
  disj_disj xs _ zs h := verdict_of_failing? (failing?_disj_disj xs zs h) w
  neg_conj _ h := verdict_of_failing? (failing?_neg_conj h) w
  neg_disj _ h := verdict_of_failing? (failing?_neg_disj h) w
  neg_neg c := succeeded_neg_neg c w

/-- Groups may be rewritten in every context, and among collaborators whose answers hang on what
was asked before. -/
theorem groupLaws_evaluate :
    (∀ ctx : Context, GroupLaws (evaluate ctx)) ∧
    (∀ w : Surroundings, GroupLaws fun x => x.converse w) ∧
    ∀ (ctx : Context) (x : Expression), x.converse.among ctx = x.evaluate ctx := by
  refine ⟨fun ctx => ?_, groupLaws_converse, among_converse⟩
  have hrun : (fun x : Expression => x.converse fun _ => ctx) = evaluate ctx :=
    funext fun x => x.among_converse ctx
  exact hrun ▸ groupLaws_converse fun _ => ctx

/-- A collaborator that knows a name only the first time is asked twice on both sides. -/
theorem groupLaws_evaluate_asked_twice :
    let w : Surroundings := fun calls =>
      ⟨fun _ => .ok (if calls.isEmpty then .boolean true else .null), .empty, .known .default, {}⟩
    let e := presence (.token (.string "\x7b\x7ba\x7d\x7d")) (.symbol (.presence .exists))
    [e, e] ≠ [] ∧ Outcome.verdict <$> (disj ([e, e].map neg)).converse w =
      ⟨[.lookup "a", .lookup "a"], .ok (true, none)⟩ := by
  intro w e
  have hne : [e, e] ≠ [] := by simp
  have htoken : Token.ofDatum? (.string "\x7b\x7ba\x7d\x7d") = some ⟨"a", none⟩ := by decide +kernel
  have hop : PresenceOperator.ofDatum? (.symbol (.presence .exists)) = some .exists := by
    decide +kernel
  have hask : e.converse = do
      return PresenceOperator.exists.test (← Token.converse ⟨"a", none⟩) := by
    simp only [e, converse, hop, Operand.converse, htoken]
  refine ⟨hne, ?_⟩
  rw [← (groupLaws_evaluate.2.1 w).neg_conj [e, e] hne]
  simp only [converse, converseAll, hask]
  rfl

end Expression

end Verdict
