import Verdict.Comparison

/-! Readings of values. A number and a string, or a truth value and a string, are compared as
what both can be taken for; two values of one kind are compared as they are. -/

namespace Verdict

variable {policy : Policy} {l r a b : Value}

namespace Value

/-- The number that a value can be taken for under a policy. -/
def toNumber? (policy : Policy) : Value → Option Number
  | .number n => some n
  | .string s =>
    if policy.numericStrings then (Number.read? s.toList).filter (!·.isNaN) else none
  | .boolean _ | .absent => none

/-- The truth value that a value can be taken for under a policy. -/
def toBoolean? (policy : Policy) : Value → Option Bool
  | .boolean b => some b
  | .string s =>
    if policy.booleanStrings then
      if normalWord s = "true" then some true
      else if normalWord s = "false" then some false
      else none
    else none
  | .number _ | .absent => none

theorem asNumber?_eq (v : Value) (h : policy.numericStrings = true) :
    v.asNumber? = (v.toNumber? policy).map .number := by
  cases v with
  | string s =>
    simp only [asNumber?, toNumber?, h, if_true]
    cases Number.read? s.toList with
    | none => rfl
    | some n => cases hn : n.isNaN <;> simp [hn, Option.filter]
  | number n => rfl
  | boolean b => rfl
  | absent => rfl

theorem asBoolean?_eq (v : Value) (h : policy.booleanStrings = true) :
    v.asBoolean? = (v.toBoolean? policy).map .boolean := by
  cases v with
  | string s =>
    simp only [asBoolean?, toBoolean?, h, if_true]
    split
    · rfl
    · split <;> rfl
  | number n => rfl
  | boolean b => rfl
  | absent => rfl

theorem kind_of_toNumber? {v : Value} {x : Number} (h : v.toNumber? policy = some x) :
    v.kind = .number ∨ v.kind = .string := by
  cases v <;> simp_all [toNumber?, kind]

theorem kind_of_toBoolean? {v : Value} {x : Bool} (h : v.toBoolean? policy = some x) :
    v.kind = .boolean ∨ v.kind = .string := by
  cases v <;> simp_all [toBoolean?, kind]

end Value

theorem coercePair_of_kind_eq (h : l.kind = r.kind) : coercePair policy l r = some (l, r) := by
  unfold coercePair
  rw [if_pos h]

/-- Two values of one kind, if there is one for each. -/
def pairOf {α : Type} (f : α → Value) (x y : Option α) : Option (Value × Value) := do
  return (f (← x), f (← y))

theorem pairOf_eq_some_iff {α : Type} {f : α → Value} {x y : Option α} :
    pairOf f x y = some (a, b) ↔ ∃ u v, x = some u ∧ y = some v ∧ a = f u ∧ b = f v := by
  cases x <;> cases y <;> simp [pairOf, eq_comm]

theorem bind_map_eq_pairOf {α : Type} (f : α → Value) (x y : Option α) :
    (do return (← x.map f, ← y.map f) : Option (Value × Value)) = pairOf f x y := by
  cases x <;> cases y <;> rfl

/-- A policy that takes no string for a number leaves one of the two without a reading. -/
theorem asNumbers_eq (h : l.kind = .string ∨ r.kind = .string) :
    (if policy.numericStrings then do return (← l.asNumber?, ← r.asNumber?) else none) =
      pairOf .number (l.toNumber? policy) (r.toNumber? policy) := by
  split
  · next hp => rw [Value.asNumber?_eq l hp, Value.asNumber?_eq r hp, bind_map_eq_pairOf]
  · next hp =>
    rcases h with h | h <;> cases l <;> cases r <;> simp_all [Value.kind, Value.toNumber?, pairOf]

theorem asBooleans_eq (h : l.kind = .string ∨ r.kind = .string) :
    (if policy.booleanStrings then do return (← l.asBoolean?, ← r.asBoolean?) else none) =
      pairOf .boolean (l.toBoolean? policy) (r.toBoolean? policy) := by
  split
  · next hp => rw [Value.asBoolean?_eq l hp, Value.asBoolean?_eq r hp, bind_map_eq_pairOf]
  · next hp =>
    rcases h with h | h <;> cases l <;> cases r <;> simp_all [Value.kind, Value.toBoolean?, pairOf]

/-- Values of two kinds go together as numbers, or else as truth values. -/
theorem coercePair_of_kind_ne (h : l.kind ≠ r.kind) : coercePair policy l r =
    (pairOf .number (l.toNumber? policy) (r.toNumber? policy)).or
      (pairOf .boolean (l.toBoolean? policy) (r.toBoolean? policy)) := by
  unfold coercePair
  rw [if_neg h]
  split
  · rw [asNumbers_eq (by simp [Value.kind])]
    simp [Value.toBoolean?, pairOf]
  · rw [asNumbers_eq (by simp [Value.kind])]
    simp [Value.toBoolean?, pairOf]
  · rw [asBooleans_eq (by simp [Value.kind])]
    simp [Value.toNumber?, pairOf]
  · rw [asBooleans_eq (by simp [Value.kind])]
    simp [Value.toNumber?, pairOf]
  · cases l <;> cases r <;> simp_all [Value.kind, Value.toNumber?, Value.toBoolean?, pairOf]

/-! ### What is compared -/

/-- Two values brought to one kind: as they are, as numbers or as truth values. -/
inductive Reconciled (policy : Policy) (l r : Value) : Value → Value → Prop
  | same (h : l.kind = r.kind) : Reconciled policy l r l r
  | numbers {x y : Number} (h : l.kind ≠ r.kind) (hl : l.toNumber? policy = some x)
      (hr : r.toNumber? policy = some y) : Reconciled policy l r (.number x) (.number y)
  | booleans {x y : Bool} (h : l.kind ≠ r.kind) (hl : l.toBoolean? policy = some x)
      (hr : r.toBoolean? policy = some y) : Reconciled policy l r (.boolean x) (.boolean y)

theorem Reconciled.symm (h : Reconciled policy l r a b) : Reconciled policy r l b a := by
  cases h with
  | same h => exact .same h.symm
  | numbers h hl hr => exact .numbers h.symm hr hl
  | booleans h hl hr => exact .booleans h.symm hr hl

/-- Of two values of two kinds that can be taken for truth values, one is a truth value. -/
theorem pairOf_number_eq_none {x y : Bool} (h : l.kind ≠ r.kind)
    (hl : l.toBoolean? policy = some x) (hr : r.toBoolean? policy = some y) :
    pairOf .number (l.toNumber? policy) (r.toNumber? policy) = none := by
  rw [Option.eq_none_iff_forall_ne_some]
  rintro ⟨a, b⟩ hp
  obtain ⟨u, v, hu, hv, -, -⟩ := pairOf_eq_some_iff.1 hp
  have hlkind := Value.kind_of_toNumber? hu
  have hrkind := Value.kind_of_toNumber? hv
  rcases Value.kind_of_toBoolean? hl with hlb | hlb <;>
    rcases Value.kind_of_toBoolean? hr with hrb | hrb <;> simp_all

/-- Values are compared as a policy lets them be taken for one kind. -/
theorem coercePair_eq_some_iff :
    coercePair policy l r = some (a, b) ↔ Reconciled policy l r a b := by
  by_cases hkind : l.kind = r.kind
  · rw [coercePair_of_kind_eq hkind]
    constructor
    · intro h
      obtain ⟨rfl, rfl⟩ := Prod.mk.inj (Option.some.inj h)
      exact .same hkind
    · rintro (_ | ⟨hne, -, -⟩ | ⟨hne, -, -⟩)
      · rfl
      · exact absurd hkind hne
      · exact absurd hkind hne
  · rw [coercePair_of_kind_ne hkind, Option.or_eq_some_iff]
    constructor
    · rintro (h | ⟨-, h⟩)
      · obtain ⟨x, y, hl, hr, rfl, rfl⟩ := pairOf_eq_some_iff.1 h
        exact .numbers hkind hl hr
      · obtain ⟨x, y, hl, hr, rfl, rfl⟩ := pairOf_eq_some_iff.1 h
        exact .booleans hkind hl hr
    · rintro (heq | ⟨-, hl, hr⟩ | ⟨-, hl, hr⟩)
      · exact absurd heq hkind
      · exact .inl (pairOf_eq_some_iff.2 ⟨_, _, hl, hr, rfl, rfl⟩)
      · exact .inr ⟨pairOf_number_eq_none hkind hl hr,
          pairOf_eq_some_iff.2 ⟨_, _, hl, hr, rfl, rfl⟩⟩

/-- Which value comes first makes no difference to what the two are compared as. -/
theorem coercePair_swap (policy : Policy) (l r : Value) :
    coercePair policy r l = (coercePair policy l r).map Prod.swap := by
  cases h : coercePair policy l r with
  | some p =>
    obtain ⟨a, b⟩ := p
    exact coercePair_eq_some_iff.2 (coercePair_eq_some_iff.1 h).symm
  | none =>
    rw [Option.map_none, Option.eq_none_iff_forall_ne_some]
    rintro ⟨b, a⟩ hp
    have hback := coercePair_eq_some_iff.2 (coercePair_eq_some_iff.1 hp).symm
    rw [h] at hback
    cases hback

/-- Values that are compared as numbers: each can be taken for one, and one of them is one. -/
theorem coercePair_eq_numbers_iff {x y : Number} :
    coercePair policy l r = some (.number x, .number y) ↔
      l.toNumber? policy = some x ∧ r.toNumber? policy = some y ∧
        ¬ (l.kind = .string ∧ r.kind = .string) := by
  rw [coercePair_eq_some_iff]
  constructor
  · intro h
    cases h with
    | same h => exact ⟨rfl, rfl, by simp [Value.kind]⟩
    | numbers h hl hr => exact ⟨hl, hr, fun hs => h (hs.1.trans hs.2.symm)⟩
  · rintro ⟨hl, hr, hs⟩
    by_cases hkind : l.kind = r.kind
    · cases l <;> cases r <;> simp_all [Value.kind, Value.toNumber?]
      exact .same rfl
    · exact .numbers hkind hl hr

/-- Values that are compared as truth values, in the same way. -/
theorem coercePair_eq_booleans_iff {x y : Bool} :
    coercePair policy l r = some (.boolean x, .boolean y) ↔
      l.toBoolean? policy = some x ∧ r.toBoolean? policy = some y ∧
        ¬ (l.kind = .string ∧ r.kind = .string) := by
  rw [coercePair_eq_some_iff]
  constructor
  · intro h
    cases h with
    | same h => exact ⟨rfl, rfl, by simp [Value.kind]⟩
    | booleans h hl hr => exact ⟨hl, hr, fun hs => h (hs.1.trans hs.2.symm)⟩
  · rintro ⟨hl, hr, hs⟩
    by_cases hkind : l.kind = r.kind
    · cases l <;> cases r <;> simp_all [Value.kind, Value.toBoolean?]
      exact .same rfl
    · exact .booleans hkind hl hr

end Verdict
