import Verdict.Proofs.Turns

/-! Why an evaluation failed. The blame goes down from the root: a conjunction passes it on
to its first child that fails, and every other node keeps it. The failure type is that of the
node to blame, and the reason spells the way down before what that node says of itself. -/

namespace Verdict

namespace Expression

/-! ### The way down -/

/-- A step down from a conjunction, into child number `index` of `total`. -/
structure BlameStep where
  index : Nat
  total : Nat

def BlameStep.text (s : BlameStep) : Text :=
  "'and' operand " ++ toString s.index ++ " of " ++ toString s.total ++ " failed: "

/-- The way down from a node to the one to blame for its failure, and the surroundings which that
one meets. The children before the one that a step goes into have succeeded, each in its turn. -/
inductive Blames : Surroundings → Expression → List BlameStep → Surroundings → Expression → Prop
  | here {w : Surroundings} {x : Expression} (h : ∀ c cs, x ≠ .group (.known .and) (c :: cs)) :
      Blames w x [] w x
  | child {w v : Surroundings} {cs : List Expression} {i : Nat} {t : Turn} {culprit : Expression}
      {path : List BlameStep} (ht : (turns true w cs)[i]? = some t)
      (hfails : t.run.verdict? = some false) (h : Blames t.met t.child path v culprit) :
      Blames w (.group (.known .and) cs) (⟨i + 1, cs.length⟩ :: path) v culprit

/-! ### What a node says of itself -/

/-- The reason and the type that a failing node gives for itself. A conjunction with children
has none; a disjunction gives the reasons of all its children. -/
inductive OwnFailure (w : Surroundings) : Expression → Text → FailureType → Prop
  | comparison {lhs rhs : Operand} {operator : Datum} {reason : Text} {type : FailureType}
      (h : compared w lhs operator rhs = .ok (.failure reason type)) :
      OwnFailure w (.comparison lhs operator rhs) reason type
  | absent {operand : Operand} {operator : Datum}
      (h : PresenceOperator.ofDatum? operator = some .exists) :
      OwnFailure w (.presence operand operator) "Operand does not exist" .conditionFailed
  | present {operand : Operand} {operator : Datum}
      (h : PresenceOperator.ofDatum? operator = some .notExist) :
      OwnFailure w (.presence operand operator) "Operand exists" .conditionFailed
  | presenceOperator {operand : Operand} {operator : Datum} {shown : Text}
      (h : PresenceOperator.ofDatum? operator = none) (hs : operator.display = .ok shown) :
      OwnFailure w (.presence operand operator) ("Unsupported operator '" ++ shown ++ "'")
        .missingOperator
  | andEmpty : OwnFailure w (.group (.known .and) []) "'and' requires at least one operand"
      .invalidOperand
  | orEmpty : OwnFailure w (.group (.known .or) []) "'or' requires at least one operand"
      .invalidOperand
  | or {cs : List Expression} {failures : List (Text × FailureType)} (hne : cs ≠ [])
      (hall : (turns false w cs).map Turn.child = cs)
      (h : (turns false w cs).map (fun t => t.run.outcome) =
        failures.map fun f => .ok (.failure f.1 f.2)) :
      OwnFailure w (.group (.known .or) cs)
        ("'or' had no successful operand: " ++ Text.intercalate "; " (failures.map Prod.fst))
        .conditionFailed
  | not {c : Expression} (h : (c.converse w).outcome = .ok .success) :
      OwnFailure w (.group (.known .not) [c]) "'not' operand succeeded" .conditionFailed
  | notOther {cs : List Expression} (h : cs.length ≠ 1) :
      OwnFailure w (.group (.known .not) cs)
        ("'not' requires exactly one operand, got " ++ toString cs.length) .invalidOperand
  | groupOperator {given : Datum} {cs : List Expression} {shown : Text}
      (h : given.display = .ok shown) :
      OwnFailure w (.group (.kept given) cs) ("Unsupported logical operator '" ++ shown ++ "'")
        .missingOperator
  | stray {kind : Text} :
      OwnFailure w (.stray kind) ("Unsupported expression type '" ++ kind ++ "'") .unknown

/-! ### Groups that fail -/

section Groups

variable {w : Surroundings} {cs : List Expression} {reason : Text} {type : FailureType}

/-- A conjunction fails by its first child that does, of the same type and with its number. -/
theorem exists_of_converseAll_failure {total index : Nat}
    (h : (converseAll total index cs w).outcome = .ok (.failure reason type)) :
    ∃ i t own, (turns true w cs)[i]? = some t ∧ t.run.outcome = .ok (.failure own type) ∧
      reason = (BlameStep.mk (index + i) total).text ++ own := by
  induction cs generalizing w index with
  | nil =>
    rw [converseAll] at h
    cases h
  | cons c cs ih =>
    rw [converseAll] at h
    rw [turns]
    rcases ho : (c.converse w).outcome with fault | (_ | ⟨own, _⟩)
    · rw [Dialogue.bind_of_error ho] at h
      cases h
    · rw [Dialogue.outcome_bind_of_ok ho] at h
      obtain ⟨i, t, own, ht, hown, rfl⟩ := ih h
      rw [verdict?_of_success ho, if_pos rfl]
      refine ⟨i + 1, t, own, ht, hown, ?_⟩
      rw [Nat.add_right_comm, ← Nat.add_assoc]
    · rw [Dialogue.outcome_bind_of_ok ho] at h
      cases h
      exact ⟨0, ⟨w, c⟩, own, rfl, ho, rfl⟩

/-- A disjunction fails when every child does in its turn, and keeps their reasons in order. -/
theorem exists_of_converseAny_failure {reasons : List Text}
    (h : (converseAny reasons cs w).outcome = .ok (.failure reason type)) :
    ∃ failures : List (Text × FailureType), (turns false w cs).map Turn.child = cs ∧
      (turns false w cs).map (fun t => t.run.outcome) =
        failures.map (fun f => .ok (.failure f.1 f.2)) ∧
      reason = disjunctsReason (reasons ++ failures.map Prod.fst) ∧ type = .conditionFailed := by
  induction cs generalizing w reasons with
  | nil =>
    rw [converseAny] at h
    cases h
    exact ⟨[], rfl, rfl, by simp, rfl⟩
  | cons c cs ih =>
    rw [converseAny] at h
    rcases ho : (c.converse w).outcome with fault | (_ | ⟨own, ownType⟩)
    · rw [Dialogue.bind_of_error ho] at h
      cases h
    · rw [Dialogue.outcome_bind_of_ok ho] at h
      cases h
    · rw [Dialogue.outcome_bind_of_ok ho] at h
      obtain ⟨failures, hall, hf, rfl, rfl⟩ := ih h
      rw [turns, verdict?_of_failure ho, if_pos rfl]
      refine ⟨(own, ownType) :: failures, ?_, ?_, by simp, rfl⟩
      · rw [List.map_cons, hall]
      · rw [List.map_cons, List.map_cons, hf]
        exact congrArg (· :: _) ho

end Groups

/-! ### Nodes that keep the blame -/

variable {w : Surroundings} {x : Expression} {reason : Text} {type : FailureType}

theorem ownFailure_comparison {lhs rhs : Operand} {operator : Datum}
    (h : ((comparison lhs operator rhs).converse w).outcome = .ok (.failure reason type)) :
    OwnFailure w (comparison lhs operator rhs) reason type := by
  rw [outcome_comparison] at h
  exact .comparison h

theorem ownFailure_presence {operand : Operand} {operator : Datum}
    (h : ((presence operand operator).converse w).outcome = .ok (.failure reason type)) :
    OwnFailure w (presence operand operator) reason type := by
  rw [converse] at h
  cases hop : PresenceOperator.ofDatum? operator with
  | none =>
    rw [hop] at h
    dsimp only at h
    rw [alone, Dialogue.step, evaluate_presence_of_none operand hop, Traced.ofExcept_outcome,
      unsupported] at h
    cases hs : operator.display with
    | error fault => rw [hs] at h; cases h
    | ok shown => rw [hs] at h; cases h; exact .presenceOperator hop hs
  | some op =>
    rw [hop] at h
    dsimp only at h
    rw [Dialogue.outcome_bind_of_ok (operand.outcome_converse w)] at h
    have htest := Except.ok.inj h
    cases op <;> cases hv : (operand.valueIn w).isAbsent <;>
      simp only [PresenceOperator.test, hv, reduceCtorEq] at htest <;> cases htest
    · exact .absent hop
    · exact .present hop

theorem ownFailure_or {cs : List Expression}
    (h : ((group (.known .or) cs).converse w).outcome = .ok (.failure reason type)) :
    OwnFailure w (group (.known .or) cs) reason type := by
  cases cs with
  | nil => rw [converse] at h; cases h; exact .orEmpty
  | cons c cs =>
    rw [converse] at h
    obtain ⟨failures, hall, hf, rfl, rfl⟩ := exists_of_converseAny_failure h
    exact .or (List.cons_ne_nil c cs) hall hf

theorem ownFailure_not {c : Expression}
    (h : ((group (.known .not) [c]).converse w).outcome = .ok (.failure reason type)) :
    OwnFailure w (group (.known .not) [c]) reason type := by
  rw [converse] at h
  rcases ho : (c.converse w).outcome with fault | (_ | ⟨own, ownType⟩)
  · rw [Dialogue.bind_of_error ho] at h
    cases h
  · rw [Dialogue.outcome_bind_of_ok ho] at h
    cases h
    exact .not ho
  · rw [Dialogue.outcome_bind_of_ok ho] at h
    cases h

/-- A node that does not pass the blame on fails with what it says of itself. -/
theorem ownFailure_of_failure (hx : ∀ c cs, x ≠ .group (.known .and) (c :: cs))
    (h : (x.converse w).outcome = .ok (.failure reason type)) : OwnFailure w x reason type := by
  induction x with
  | comparison lhs operator rhs => exact ownFailure_comparison h
  | presence operand operator => exact ownFailure_presence h
  | and cs _ =>
    cases cs with
    | nil => rw [converse] at h; cases h; exact .andEmpty
    | cons c cs => exact absurd rfl (hx c cs)
  | or cs _ => exact ownFailure_or h
  | not c _ => exact ownFailure_not h
  | notOther cs hne =>
    rw [converse] at h
    · rw [alone, Dialogue.step, evaluate_not_of_ne hne] at h
      cases h
      exact .notOther fun hone => (List.length_eq_one_iff.1 hone).elim hne
    · exact hne
  | kept given cs =>
    rw [converse, alone, Dialogue.step, evaluate, Traced.ofExcept_outcome] at h
    cases hs : given.display with
    | error fault => rw [hs] at h; cases h
    | ok shown => rw [hs] at h; cases h; exact .groupOperator hs
  | stray kind =>
    rw [converse, alone, Dialogue.step, evaluate, Traced.emit_bind_outcome] at h
    cases h
    exact .stray

/-! ### The node to blame -/

/-- A conjunction that does not pass the blame on has no children. -/
theorem turns_of_keeps {cs : List Expression} {i : Nat} {t : Turn}
    (h : ∀ d ds, group (.known .and) cs ≠ .group (.known .and) (d :: ds)) :
    (turns true w cs)[i]? ≠ some t := by
  cases cs with
  | nil => simp [turns]
  | cons d ds => exact absurd rfl (h d ds)

/-- One child at most fails in its turn, since a conjunction goes no further. -/
theorem index_unique {cs : List Expression} {i j : Nat} {t u : Turn}
    (ht : (turns true w cs)[i]? = some t) (hu : (turns true w cs)[j]? = some u)
    (htf : t.run.verdict? = some false) (huf : u.run.verdict? = some false) : i = j := by
  rcases Nat.lt_trichotomy i j with h | h | h
  · rw [verdict?_of_turns ht hu h] at htf
    cases htf
  · exact h
  · rw [verdict?_of_turns hu ht h] at huf
    cases huf

/-- There is one way down at most: each step goes into the first child that fails. -/
theorem Blames.unique {path path' : List BlameStep} {v v' : Surroundings}
    {culprit culprit' : Expression} (h : Blames w x path v culprit)
    (h' : Blames w x path' v' culprit') : path' = path ∧ v' = v ∧ culprit' = culprit := by
  induction h generalizing path' with
  | here hx =>
    cases h' with
    | here => exact ⟨rfl, rfl, rfl⟩
    | child ht _ _ => exact absurd ht (turns_of_keeps hx)
  | child ht hf _ ih =>
    cases h' with
    | here hx => exact absurd ht (turns_of_keeps hx)
    | child ht' hf' h' =>
      obtain rfl := index_unique ht ht' hf hf'
      obtain rfl := Option.some.inj (ht.symm.trans ht')
      obtain ⟨rfl, rfl, rfl⟩ := ih h'
      exact ⟨rfl, rfl, rfl⟩

/-- The way down ends at a node that keeps the blame. -/
theorem Blames.keeps {path : List BlameStep} {v : Surroundings} {culprit : Expression}
    (h : Blames w x path v culprit) : ∀ c cs, culprit ≠ .group (.known .and) (c :: cs) := by
  induction h with
  | here hx => exact hx
  | child _ _ _ ih => exact ih

/-- A failure is that of the node to blame, its reason behind the steps of the way down. -/
theorem exists_blames_of_failure (h : (x.converse w).outcome = .ok (.failure reason type)) :
    ∃ path v culprit own, Blames w x path v culprit ∧
      (culprit.converse v).outcome = .ok (.failure own type) ∧
      reason = Text.join (path.map BlameStep.text) ++ own := by
  induction x generalizing w reason with
  | and cs ih =>
    cases cs with
    | nil => exact ⟨[], w, _, reason, .here (by simp), h, by simp⟩
    | cons c cs =>
      rw [converse] at h
      obtain ⟨i, t, own, ht, hown, rfl⟩ := exists_of_converseAll_failure h
      obtain ⟨path, v, culprit, own, hblame, hself, rfl⟩ :=
        ih t.child (child_mem_of_mem_turns (List.mem_of_getElem? ht)) hown
      refine ⟨⟨i + 1, (c :: cs).length⟩ :: path, v, culprit, own,
        .child ht (verdict?_of_failure hown) hblame, hself, ?_⟩
      rw [List.map_cons, Text.join_cons, Text.append_assoc, Nat.add_comm 1]
      rfl
  | _ => exact ⟨[], w, _, reason, .here (by simp), h, by simp⟩

/-- What an outcome owes to whoever reads it: a success has neither a reason nor a type, and a
failure has exactly one node to blame. Its type is that node's own, as if evaluated by itself where
its turn came, and so is its reason behind the steps down to the node. -/
structure Blamed (w : Surroundings) (x : Expression) (o : Outcome) : Prop where
  succeeded (h : o.succeeded = true) : o.reason? = none ∧ o.failureType? = none
  failed (h : o.succeeded = false) : ∃ path v culprit own type,
    (Blames w x path v culprit ∧ ∀ path' v' culprit', Blames w x path' v' culprit' →
      path' = path ∧ v' = v ∧ culprit' = culprit) ∧
    (culprit.converse v).outcome = .ok (.failure own type) ∧ OwnFailure v culprit own type ∧
    o.failureType? = some type ∧
    o.reason? = some (Text.join (path.map BlameStep.text) ++ own)

theorem blamed_of_outcome {o : Outcome} (h : (x.converse w).outcome = .ok o) : Blamed w x o := by
  cases o with
  | success => exact ⟨fun _ => ⟨rfl, rfl⟩, fun hfail => absurd hfail.symm Bool.false_ne_true⟩
  | failure reason type =>
    refine ⟨fun hok => absurd hok Bool.false_ne_true, fun _ => ?_⟩
    obtain ⟨path, v, culprit, own, hblame, hself, rfl⟩ := exists_blames_of_failure h
    exact ⟨path, v, culprit, own, type, ⟨hblame, fun _ _ _ h' => hblame.unique h'⟩, hself,
      ownFailure_of_failure hblame.keeps hself, rfl, rfl⟩

/-- Every outcome names the node to blame, in a context and among collaborators whose answers hang
on what was asked before. -/
theorem evaluate_blames (x : Expression) (o : Outcome) :
    (∀ w : Surroundings, (x.converse w).outcome = .ok o → Blamed w x o) ∧
    ∀ ctx : Context, (x.evaluate ctx).outcome = .ok o → Blamed (fun _ => ctx) x o := by
  refine ⟨fun w h => blamed_of_outcome h, fun ctx h => blamed_of_outcome ?_⟩
  rw [← x.among_converse ctx] at h
  exact h

theorem evaluate_blames_nested_and :
    let ctx : Context := ⟨fun _ => .error (.raised "RuntimeError" ""), .empty, .known .default, {}⟩
    let culprit := group (.known .or) [stray "int", group (.known .not) []]
    let x := group (.known .and) [presence (.literal .absent) (.symbol (.presence .notExist)),
      group (.known .and) [culprit]]
    ∃ own, OwnFailure (fun _ => ctx) culprit own .conditionFailed ∧ (x.evaluate ctx).outcome = .ok
      (.failure ("'and' operand 2 of 2 failed: 'and' operand 1 of 1 failed: " ++ own)
        .conditionFailed) := by
  intro ctx culprit x
  obtain ⟨o, ho, hfail⟩ : ∃ o, (x.evaluate ctx).outcome = .ok o ∧ o.succeeded = false :=
    ⟨_, rfl, rfl⟩
  have hdown : Blames (fun _ => ctx) x [⟨2, 2⟩, ⟨1, 1⟩] (fun _ => ctx) culprit :=
    .child rfl rfl (.child rfl rfl (.here (by simp [culprit])))
  obtain ⟨path, v, z, own, type, ⟨-, hunique⟩, -, hown, ht, hr⟩ :=
    ((evaluate_blames x o).2 ctx ho).failed hfail
  obtain ⟨rfl, rfl, rfl⟩ := hunique _ _ _ hdown
  cases o with
  | success => cases hfail
  | failure reason type =>
    obtain rfl := Option.some.inj ht
    obtain rfl := Option.some.inj hr
    change OwnFailure _ (group (.known .or) [stray "int", group (.known .not) []]) own type at hown
    cases hown with
    | or hne hall h => exact ⟨_, .or hne hall h, ho⟩

end Expression

end Verdict
