import Mathlib.Data.List.Infix
import Verdict.Proofs.CaseOption

/-! Laws of the operators on strings. Each looks for one text in another, at its front, at its end
or anywhere, and both are folded first if case does not count. So the operators are orders of
folded texts, and equality is each of them both ways. -/

namespace Verdict

variable {ctx : Context} {op : ComparisonOperator} {part : List Point → List Point → Prop}

/-! ### Parts of texts -/

/-- Where an operator looks for a part of a text. -/
inductive LooksFor : ComparisonOperator → (List Point → List Point → Prop) → Prop
  | front : LooksFor .startsWith fun x y => x <+: y
  | rear : LooksFor .endsWith fun x y => x <:+ y
  | anywhere : LooksFor .contains fun x y => x <:+: y

theorem exists_looksFor (h : op ∈ [.startsWith, .endsWith, .contains]) :
    ∃ part, LooksFor op part := by
  simp only [List.mem_cons, List.not_mem_nil, or_false] at h
  rcases h with rfl | rfl | rfl
  · exact ⟨_, .front⟩
  · exact ⟨_, .rear⟩
  · exact ⟨_, .anywhere⟩

/-- At the front and at the end a part has but one place. -/
theorem exists_looksFor_end (h : op ∈ [.startsWith, .endsWith]) :
    ∃ part, LooksFor op part ∧ op ≠ .contains := by
  simp only [List.mem_cons, List.not_mem_nil, or_false] at h
  rcases h with rfl | rfl
  · exact ⟨_, .front, by simp⟩
  · exact ⟨_, .rear, by simp⟩

namespace LooksFor

variable (h : LooksFor op part)

include h

theorem refl (x : List Point) : part x x := by
  cases h with
  | front => exact List.prefix_rfl
  | rear => exact List.suffix_rfl
  | anywhere => exact List.infix_rfl

theorem trans {x y z : List Point} (hxy : part x y) (hyz : part y z) : part x z := by
  cases h with
  | front => exact List.IsPrefix.trans hxy hyz
  | rear => exact List.IsSuffix.trans hxy hyz
  | anywhere => exact List.IsInfix.trans hxy hyz

theorem isInfix {x y : List Point} (hxy : part x y) : x <:+: y := by
  cases h with
  | front => exact List.IsPrefix.isInfix hxy
  | rear => exact List.IsSuffix.isInfix hxy
  | anywhere => exact hxy

theorem antisymm {x y : List Point} (hxy : part x y) (hyx : part y x) : x = y :=
  List.infix_antisymm (h.isInfix hxy) (h.isInfix hyx)

/-- Texts at the same end of one text are parts of one another. -/
theorem total_below (hop : op ≠ .contains) {x y z : List Point} (hx : part x z) (hy : part y z) :
    part x y ∨ part y x := by
  cases h with
  | front => exact List.prefix_or_prefix_of_prefix hx hy
  | rear => exact List.suffix_or_suffix_of_suffix hx hy
  | anywhere => exact absurd rfl hop

theorem succeeds_iff (s t : Text) :
    Succeeds ctx op (.string s) (.string t) ↔ part (ctx.fold t) (ctx.fold s) := by
  cases h with
  | front =>
    rw [succeeds_string_iff rfl]
    simp
  | rear =>
    rw [succeeds_string_iff rfl]
    simp
  | anywhere =>
    rw [succeeds_string_iff rfl]
    simp [occursIn_iff]

end LooksFor

/-! ### The laws -/

/-- How the operators on strings hang together, as it shows on three strings. -/
structure StringLaws (ctx : Context) (a b c : Text) : Prop where
  /-- Strings are equal if each is at the front of the other, at its end, or anywhere in it. -/
  equals (op : ComparisonOperator) (h : op ∈ [.startsWith, .endsWith, .contains]) :
    Succeeds ctx .equals (.string a) (.string b) ↔
      Succeeds ctx op (.string a) (.string b) ∧ Succeeds ctx op (.string b) (.string a)
  contained (op : ComparisonOperator) (h : op ∈ [.startsWith, .endsWith])
    (hab : Succeeds ctx op (.string a) (.string b)) :
    Succeeds ctx .contains (.string a) (.string b)
  transitive (op : ComparisonOperator) (h : op ∈ [.startsWith, .endsWith, .contains])
    (hab : Succeeds ctx op (.string a) (.string b))
    (hbc : Succeeds ctx op (.string b) (.string c)) : Succeeds ctx op (.string a) (.string c)
  /-- Of two strings at the same end of a third, one is at that end of the other. -/
  nested (op : ComparisonOperator) (h : op ∈ [.startsWith, .endsWith])
    (hab : Succeeds ctx op (.string a) (.string b))
    (hac : Succeeds ctx op (.string a) (.string c)) :
    Succeeds ctx op (.string b) (.string c) ∨ Succeeds ctx op (.string c) (.string b)

/-- The operators on strings obey these laws in every context, whether case counts or not. -/
theorem stringLaws (ctx : Context) (a b c : Text) : StringLaws ctx a b c where
  equals op hop := by
    obtain ⟨part, h⟩ := exists_looksFor hop
    rw [succeeds_equals_strings_iff, h.succeeds_iff, h.succeeds_iff]
    constructor
    · intro heq
      rw [heq]
      exact ⟨h.refl _, h.refl _⟩
    · rintro ⟨hba, hab⟩
      exact h.antisymm hab hba
  contained op hop hab := by
    obtain ⟨part, h, -⟩ := exists_looksFor_end hop
    rw [h.succeeds_iff] at hab
    exact (LooksFor.anywhere.succeeds_iff a b).2 (h.isInfix hab)
  transitive op hop hab hbc := by
    obtain ⟨part, h⟩ := exists_looksFor hop
    rw [h.succeeds_iff] at hab hbc ⊢
    exact h.trans hbc hab
  nested op hop hab hac := by
    obtain ⟨part, h, hne⟩ := exists_looksFor_end hop
    rw [h.succeeds_iff] at hab hac
    rw [h.succeeds_iff, h.succeeds_iff]
    exact (h.total_below hne hab hac).symm

/-- Where case does not count, a sharp s is two letters: a shorter word starts with a longer one,
and the two are equal. -/
theorem stringLaws_sharp_s :
    let ctx : Context := ⟨fun _ => .ok .null, .empty, .known .caseInsensitive, {}⟩
    Succeeds ctx .startsWith (.string "Maß") (.string "MASS") ∧
      Succeeds ctx .startsWith (.string "MASS") (.string "Maß") ∧
      Succeeds ctx .equals (.string "Maß") (.string "MASS") ∧
      Succeeds ctx .contains (.string "Maß") (.string "MASS") ∧
      (Succeeds ctx .endsWith (.string "s") (.string "SS") ∨
        Succeeds ctx .endsWith (.string "SS") (.string "s")) := by
  intro ctx
  have hfront : Succeeds ctx .startsWith (.string "Maß") (.string "MASS") :=
    (LooksFor.front.succeeds_iff _ _).2 (by decide +kernel)
  have hback : Succeeds ctx .startsWith (.string "MASS") (.string "Maß") :=
    (LooksFor.front.succeeds_iff _ _).2 (by decide +kernel)
  have hone : Succeeds ctx .endsWith (.string "Maß") (.string "s") :=
    (LooksFor.rear.succeeds_iff _ _).2 (by decide +kernel)
  have htwo : Succeeds ctx .endsWith (.string "Maß") (.string "SS") :=
    (LooksFor.rear.succeeds_iff _ _).2 (by decide +kernel)
  refine ⟨hfront, hback, ?_, ?_, ?_⟩
  · exact ((stringLaws ctx "Maß" "MASS" "").equals .startsWith (by simp)).2 ⟨hfront, hback⟩
  · exact (stringLaws ctx "Maß" "MASS" "").contained .startsWith (by simp) hfront
  · exact (stringLaws ctx "Maß" "s" "SS").nested .endsWith (by simp) hone htwo

end Verdict
