import Mathlib.Algebra.Order.Field.Rat
import Mathlib.Order.WithBotTop
import Mathlib.Tactic.NormNum
import Mathlib.Tactic.Ring
import Verdict.Number.Basic

/-! The worth of a number: a rational, or one of the two ends of the line. A NaN has none.
Numbers compare by their worths, so an integer of any size and a double do so exactly. -/

namespace Verdict

attribute [local instance] powOfNatPow

/-- The rationals with an end on either side. -/
abbrev Worth := WithBotTop ℚ

namespace Double

/-- The significand at a rank: its fraction, with a leading bit in front of it unless the
exponent is the one of the subnormal numbers. -/
def significand (rank : Nat) : Nat :=
  if rank / 2 ^ 52 = 0 then rank % 2 ^ 52 else 2 ^ 52 + rank % 2 ^ 52

/-- The magnitude at a rank. Subnormal numbers share the unit of the first normal ones. -/
def magnitude (rank : Nat) : ℚ :=
  ((significand rank * 2 ^ max 1 (rank / 2 ^ 52) : Nat) : ℚ) / (2 ^ (unitExponent + 1) : Nat)

theorem unitsAt_double (rank : Nat) :
    2 * unitsAt rank = significand rank * 2 ^ max 1 (rank / 2 ^ 52) := by
  have hrank : 2 ^ 52 * (rank / 2 ^ 52) + rank % 2 ^ 52 = rank := Nat.div_add_mod rank (2 ^ 52)
  rw [unitsAt, binade, significand]
  generalize rank / 2 ^ 52 = exponent at hrank ⊢
  generalize rank % 2 ^ 52 = fraction at hrank ⊢
  subst hrank
  cases exponent with
  | zero => simp [Nat.mul_comm]
  | succ e =>
    have hsignificand : 2 ^ 52 * (e + 1) + fraction - e * 2 ^ 52 = 2 ^ 52 + fraction := by omega
    rw [Nat.add_sub_cancel, hsignificand, if_neg e.succ_ne_zero, Nat.max_eq_right (by omega),
      Nat.pow_succ]
    ring

/-- So many of the units that all magnitudes are counted in. -/
def ofUnits (units : Int) : ℚ := units / (2 ^ unitExponent : Nat)

theorem unit_pos : (0 : ℚ) < (2 ^ unitExponent : Nat) := Nat.cast_pos.2 (Nat.two_pow_pos _)

theorem ofUnits_lt_iff (a b : Int) : ofUnits a < ofUnits b ↔ a < b := by
  rw [ofUnits, ofUnits, div_lt_div_iff_of_pos_right unit_pos, Int.cast_lt]

theorem ofUnits_injective : Function.Injective ofUnits := by
  intro a b h
  rw [ofUnits, ofUnits, div_left_inj' unit_pos.ne'] at h
  exact Int.cast_injective h

theorem ofUnits_mul_unit (n : Int) : ofUnits (n * 2 ^ unitExponent) = n := by
  rw [ofUnits, Int.cast_mul, Int.cast_pow, Nat.cast_pow]
  exact mul_div_cancel_right₀ _ (by simp)

theorem ofUnits_neg (units : Int) : ofUnits (-units) = -ofUnits units := by
  rw [ofUnits, ofUnits, Int.cast_neg, neg_div]

theorem magnitude_eq (rank : Nat) : magnitude rank = ofUnits (unitsAt rank) := by
  rw [magnitude, ofUnits, ← unitsAt_double, Nat.pow_succ, Nat.mul_comm (2 ^ unitExponent),
    Nat.cast_mul, Nat.cast_mul, Int.cast_natCast]
  exact mul_div_mul_left _ _ (by norm_num)

end Double

/-! ### Worths -/

namespace Number

/-- What a number is worth. -/
def worth? : Number → Option Worth
  | .int n => some (n : ℚ)
  | .double .nan => none
  | .double (.infinite negative) => some (if negative then ⊥ else ⊤)
  | .double (.finite negative rank) =>
    let magnitude := Double.magnitude rank
    some ((if negative then -magnitude else magnitude : ℚ))

end Number

namespace Place

/-- The worth at a place. -/
def worth : Place → Worth
  | .bottom => ⊥
  | .at units => Double.ofUnits units
  | .top => ⊤

theorem lt_iff (p q : Place) : p.lt q = true ↔ p.worth < q.worth := by
  cases p <;> cases q <;>
    simp [lt, worth, Double.ofUnits_lt_iff, bot_lt_iff_ne_bot, lt_top_iff_ne_top]

theorem worth_injective : Function.Injective worth := by
  have hcoe {a b : Int} : (Double.ofUnits a : Worth) = Double.ofUnits b ↔ a = b := by
    rw [WithBotTop.coe_injective.eq_iff, Double.ofUnits_injective.eq_iff]
  intro p q h
  cases p <;> cases q <;>
    simp_all [worth, (WithBotTop.coe_ne_bot _).symm, (WithBotTop.coe_ne_top _).symm]

end Place

namespace Number

theorem worth?_eq (n : Number) : n.worth? = n.place?.map Place.worth := by
  rcases n with n | (⟨negative, rank⟩ | negative | _)
  · simp [worth?, place?, Place.worth, Double.ofUnits_mul_unit]
  · simp only [worth?, place?, Double.units?, Double.magnitude_eq, Option.map_some, Place.worth]
    cases negative <;> simp [Double.ofUnits_neg]
  · cases negative <;> rfl
  · rfl

theorem isNaN_iff (n : Number) : n.isNaN = true ↔ n.worth? = none := by
  rcases n with n | (_ | _ | _) <;> simp [isNaN, Double.isNaN, worth?]

theorem exists_worth {n : Number} (h : n.isNaN = false) : ∃ p, n.worth? = some p := by
  refine Option.ne_none_iff_exists'.1 fun hnone => ?_
  rw [(isNaN_iff n).2 hnone] at h
  cases h

/-- A test of places is one of worths, if it says of places what `r` says of their worths. -/
theorem bothPlaced_iff_worth {p : Place → Place → Bool} {r : Worth → Worth → Prop}
    (h : ∀ a b, p a b = true ↔ r a.worth b.worth) (x y : Number) :
    bothPlaced p x y = true ↔ ∃ a b, x.worth? = some a ∧ y.worth? = some b ∧ r a b := by
  rw [bothPlaced, worth?_eq, worth?_eq]
  cases x.place? <;> cases y.place? <;> simp [h]

/-- One number is less than another if it is worth less; a NaN is neither. -/
theorem lt_iff (x y : Number) :
    x.lt y = true ↔ ∃ a b, x.worth? = some a ∧ y.worth? = some b ∧ a < b :=
  bothPlaced_iff_worth Place.lt_iff x y

theorem eqv_iff (x y : Number) :
    x.eqv y = true ↔ ∃ a b, x.worth? = some a ∧ y.worth? = some b ∧ a = b :=
  bothPlaced_iff_worth (fun a b => by rw [beq_iff_eq, Place.worth_injective.eq_iff]) x y

/-- Numbers of one place are equal, unless that is no place at all. -/
theorem eqv_of_place? {x y : Number} (h : x.place? = y.place?) (hnan : y.isNaN = false) :
    x.eqv y = true := by
  obtain ⟨p, hp⟩ := exists_worth hnan
  have hworth : x.worth? = y.worth? := by rw [worth?_eq, worth?_eq, h]
  exact (eqv_iff x y).2 ⟨p, p, hworth.trans hp, hp, rfl⟩

theorem le_iff (x y : Number) :
    x.le y = true ↔ ∃ a b, x.worth? = some a ∧ y.worth? = some b ∧ a ≤ b :=
  bothPlaced_iff_worth (fun a b => by
    rw [Bool.or_eq_true, Place.lt_iff, beq_iff_eq, le_iff_lt_or_eq,
      Place.worth_injective.eq_iff]) x y

/-- A transitive relation of worths relates numbers transitively, since each has one worth. -/
theorem exists_worth_trans {r : Worth → Worth → Prop} (hr : ∀ a b c, r a b → r b c → r a c)
    {x y z : Number} (hxy : ∃ a b, x.worth? = some a ∧ y.worth? = some b ∧ r a b)
    (hyz : ∃ a b, y.worth? = some a ∧ z.worth? = some b ∧ r a b) :
    ∃ a b, x.worth? = some a ∧ z.worth? = some b ∧ r a b := by
  obtain ⟨a, b, ha, hb, hab⟩ := hxy
  obtain ⟨b', c, hb', hc, hbc⟩ := hyz
  have hsame : b = b' := Option.some.inj (hb.symm.trans hb')
  subst hsame
  exact ⟨a, c, ha, hc, hr a b c hab hbc⟩

theorem lt_trans {x y z : Number} (hxy : x.lt y = true) (hyz : y.lt z = true) : x.lt z = true := by
  rw [lt_iff] at hxy hyz ⊢
  exact exists_worth_trans (fun _ _ _ hab hbc => hab.trans hbc) hxy hyz

theorem le_trans {x y z : Number} (hxy : x.le y = true) (hyz : y.le z = true) : x.le z = true := by
  rw [le_iff] at hxy hyz ⊢
  exact exists_worth_trans (fun _ _ _ hab hbc => hab.trans hbc) hxy hyz

theorem eqv_trans {x y z : Number} (hxy : x.eqv y = true) (hyz : y.eqv z = true) :
    x.eqv z = true := by
  have htrans : ∀ a b c : Worth, a = b → b = c → a = c := fun _ _ _ => Eq.trans
  rw [eqv_iff] at hxy hyz ⊢
  exact exists_worth_trans htrans hxy hyz

theorem eqv_comm (x y : Number) : x.eqv y = y.eqv x := by
  rw [Bool.eq_iff_iff, eqv_iff, eqv_iff]
  constructor
  · rintro ⟨a, b, ha, hb, h⟩
    exact ⟨b, a, hb, ha, h.symm⟩
  · rintro ⟨a, b, ha, hb, h⟩
    exact ⟨b, a, hb, ha, h.symm⟩

end Number

end Verdict
