import Verdict.Proofs.Agreement

/-! Resolvers and transforms that raise. Whoever looks at answers and calls cannot tell one
that raises from one that answers with nothing, whatever else it does on other names and
arguments: only the records differ. -/

namespace Verdict

/-- An answer as it is, or nothing in place of a fault. -/
inductive Silenced : Except Fault Datum → Except Fault Datum → Prop
  | same (answer : Except Fault Datum) : Silenced answer answer
  | fault (fault : Fault) : Silenced (.error fault) (.ok .null)

theorem Silenced.answerValue_eq {x y : Except Fault Datum} (h : Silenced x y) :
    answerValue x = answerValue y := by
  cases h with
  | same => rfl
  | fault => rfl

/-- Two functions under one label that differ only where the first raises and the second
answers nothing. -/
structure Transform.SilencedTo (s t : Transform) : Prop where
  label : s.label = t.label
  run : ∀ argument, Silenced (s.run argument) (t.run argument)

/-- Two contexts that differ only where the first raises and the second answers nothing. -/
structure Context.SilencedTo (a b : Context) : Prop where
  resolver : ∀ name, Silenced (a.resolver name) (b.resolver name)
  registry : ∀ name, Option.Rel Transform.SilencedTo (a.registry.find? name) (b.registry.find? name)
  option : a.option = b.option
  policy : a.policy = b.policy

section Transforms

variable {r s : Registry} {name : Text}
  (h : Option.Rel Transform.SilencedTo (r.find? name) (s.find? name))

include h

theorem Registry.image_congr (v : Value) : r.image name v = s.image name v := by
  rw [image, image]
  generalize r.find? name = t, s.find? name = u at h
  cases h with
  | none => rfl
  | some ht => exact (ht.run v.raw).answerValue_eq

theorem Registry.imageCalls_congr (v : Value) : r.imageCalls name v = s.imageCalls name v := by
  rw [imageCalls, imageCalls]
  generalize r.find? name = t, s.find? name = u at h
  cases h with
  | none => rfl
  | some ht => dsimp only; rw [ht.label]

end Transforms

namespace Context.SilencedTo

variable {a b : Context} (h : a.SilencedTo b)

include h

theorem nameValue_eq (name : Text) : a.nameValue name = b.nameValue name :=
  (h.resolver name).answerValue_eq

theorem comparesLike : a.ComparesLike b where
  policy := h.policy
  ignoresCase := by rw [ignoresCase, ignoresCase, h.option]

/-- What a fault leaves flows on as the absent value, into transforms too. -/
theorem agreesOn (t : Token) : a.AgreesOn b t := by
  rw [agreesOn_iff, tokenValue, tokenValue, tokenCalls, tokenCalls, h.nameValue_eq]
  cases t.function with
  | none => exact ⟨rfl, rfl⟩
  | some function =>
    exact ⟨Registry.image_congr (h.registry function) _,
      congrArg _ (Registry.imageCalls_congr (h.registry function) _)⟩

end Context.SilencedTo

/-- Where resolvers and transforms raise instead of answering nothing, every expression has
the same outcome, every operand the same value and every template the same text, or the same
fault, and the same calls are made. -/
theorem silenced_agrees {a b : Context} (h : a.SilencedTo b) :
    (∀ x : Expression, (x.evaluate a).Agrees (x.evaluate b)) ∧
    (∀ x : Operand, (x.resolve a).Agrees (x.resolve b)) ∧
    ∀ (d : Delimiter) (template : Datum),
      (Template.render a d template).Agrees (Template.render b d template) :=
  ⟨fun _ => Expression.evaluate_agrees h.comparesLike fun t _ => h.agreesOn t,
    fun _ => Operand.resolve_agrees fun t _ => h.agreesOn t,
    fun d _ => Template.render_agrees d fun _ _ t _ => h.agreesOn t⟩

theorem silenced_agrees_not_exists :
    let answer (fail : Except Fault Datum) (name : Text) : Except Fault Datum :=
      if name = "known" then .ok (.boolean true) else fail
    let context (fail : Except Fault Datum) : Context :=
      ⟨answer fail, .insert .empty "f" ⟨"f", fun _ => fail⟩, .known .default, {}⟩
    let a := context (.error (.raised "KeyError" "'name'"))
    let b := context (.ok .null)
    let x : Expression := .group (.known .not)
      [.presence (.token (.string "\x7b\x7bf(name)\x7d\x7d")) (.symbol (.presence .exists))]
    a.SilencedTo b ∧ (x.evaluate a).Agrees (x.evaluate b) := by
  intro answer context a b x
  have hregistry : ∀ name,
      Option.Rel Transform.SilencedTo (a.registry.find? name) (b.registry.find? name) := by
    intro name
    rw [Registry.find?_insert, Registry.find?_insert]
    split
    · exact .some ⟨rfl, fun _ => .fault _⟩
    · exact .none
  have hresolver : ∀ name, Silenced (a.resolver name) (b.resolver name) := by
    intro name
    by_cases hname : name = "known"
    · simp only [a, b, context, answer, if_pos hname]
      exact .same _
    · simp only [a, b, context, answer, if_neg hname]
      exact .fault _
  have h : a.SilencedTo b := ⟨hresolver, hregistry, rfl, rfl⟩
  exact ⟨h, (silenced_agrees h).1 x⟩

end Verdict
