import Mathlib.Tactic.FieldSimp
import Verdict.Number.Numeral
import Verdict.Proofs.Number.Worth

/-! Rounding quotients to doubles. Which double is nearest depends on what a quotient is worth and
not on how it is written, and what a double is worth rounds to that double. So a decimal reads as
the double nearest to its worth, whether or not its exponent alone decides, and the shortest digits
of a double read back to it. -/

namespace Verdict

attribute [local instance] powOfNatPow

/-! ### Half to even -/

theorem roundHalfEven_mul_right (num den : Nat) {c : Nat} (hc : 0 < c) :
    roundHalfEven (num * c) (den * c) = roundHalfEven num den := by
  have hless : 2 * (num % den * c) < den * c ↔ 2 * (num % den) < den := by
    rw [← Nat.mul_assoc, Nat.mul_lt_mul_right hc]
  have hequal : 2 * (num % den * c) = den * c ↔ 2 * (num % den) = den := by
    rw [← Nat.mul_assoc, Nat.mul_left_inj hc.ne']
  simp only [roundHalfEven, Nat.mul_div_mul_right _ _ hc, Nat.mul_mod_mul_right, hless, hequal]

theorem roundHalfEven_mul (n : Nat) {den : Nat} (hden : 0 < den) :
    roundHalfEven (n * den) den = n := by
  simp [roundHalfEven, Nat.mul_div_cancel n hden, hden]

theorem div_le_roundHalfEven (num den : Nat) : num / den ≤ roundHalfEven num den := by
  rw [roundHalfEven]
  split
  · exact le_rfl
  · exact Nat.le_succ _

namespace Double

variable {num den rank : Nat}

/-! ### Ranks -/

theorem nearestRank_mul_right (num den : Nat) {c : Nat} (hc : 0 < c) :
    nearestRank (num * c) (den * c) = nearestRank num den := by
  have hunits : num * c * 2 ^ unitExponent = num * 2 ^ unitExponent * c := Nat.mul_right_comm ..
  simp only [nearestRank, hunits, Nat.mul_div_mul_right _ _ hc, Nat.mul_right_comm den c,
    roundHalfEven_mul_right _ _ hc]

/-- Equal quotients have one nearest rank. -/
theorem nearestRank_congr {num' den' : Nat} (hden : 0 < den) (hden' : 0 < den')
    (h : (num : ℚ) / den = num' / den') : nearestRank num den = nearestRank num' den' := by
  have hcross : num * den' = num' * den := by
    rw [div_eq_div_iff (Nat.cast_ne_zero.2 hden.ne') (Nat.cast_ne_zero.2 hden'.ne')] at h
    exact_mod_cast h
  rw [← nearestRank_mul_right num den hden', hcross, Nat.mul_comm den,
    nearestRank_mul_right num' den' hden]

/-- The leading bit of a magnitude tells its binade. -/
theorem log2_unitsAt (rank : Nat) : (unitsAt rank).log2 - 52 = binade rank := by
  rw [unitsAt]
  by_cases hrank : rank < 2 ^ 53
  · have hbinade : binade rank = 0 := by
      rw [binade]
      omega
    rw [hbinade, Nat.zero_mul, Nat.sub_zero, Nat.pow_zero, Nat.mul_one, Nat.sub_eq_zero_iff_le]
    rcases Nat.eq_zero_or_pos rank with rfl | hpos
    · decide
    · exact Nat.le_of_lt_succ ((Nat.log2_lt hpos.ne').2 hrank)
  · have hlow : 2 ^ 52 ≤ rank - binade rank * 2 ^ 52 := by
      rw [binade]
      omega
    have hhigh : rank - binade rank * 2 ^ 52 < 2 ^ 53 := by
      rw [binade]
      omega
    generalize rank - binade rank * 2 ^ 52 = significand at hlow hhigh
    have hlog : (significand * 2 ^ binade rank).log2 = 52 + binade rank := by
      have hpos := Nat.two_pow_pos (binade rank)
      rw [Nat.log2_eq_iff (Nat.mul_pos (by omega) hpos).ne', Nat.pow_add,
        Nat.add_right_comm, Nat.pow_add]
      exact ⟨Nat.mul_le_mul_right _ hlow, Nat.mul_lt_mul_of_pos_right hhigh hpos⟩
    rw [hlog, Nat.add_sub_cancel_left]

/-- A magnitude is nearest to itself. -/
theorem nearestRank_unitsAt (rank : Nat) :
    nearestRank (unitsAt rank) (2 ^ unitExponent) = rank := by
  have hle : binade rank * 2 ^ 52 ≤ rank := by
    rw [binade]
    omega
  rw [nearestRank, Nat.mul_div_cancel _ (Nat.two_pow_pos _)]
  simp only [log2_unitsAt]
  rw [unitsAt, Nat.mul_assoc, Nat.mul_comm (2 ^ binade rank),
    roundHalfEven_mul _ (Nat.mul_pos (Nat.two_pow_pos _) (Nat.two_pow_pos _))]
  omega

/-- A quotient worth as much as a double rounds to it. -/
theorem nearestRank_of_magnitude (hden : 0 < den) (h : (num : ℚ) / den = magnitude rank) :
    nearestRank num den = rank := by
  rw [magnitude_eq, ofUnits, Int.cast_natCast] at h
  rw [nearestRank_congr hden (Nat.two_pow_pos _) h, nearestRank_unitsAt]

/-! ### The ends of the range -/

theorem nearestRank_eq_zero (h : 2 * (num * 2 ^ unitExponent) < den) : nearestRank num den = 0 := by
  have hlt : num * 2 ^ unitExponent < den := by omega
  rw [nearestRank, Nat.div_eq_of_lt hlt]
  simp [roundHalfEven, Nat.div_eq_of_lt hlt, Nat.mod_eq_of_lt hlt, h]

theorem ranks_le_nearestRank {e : Nat} (he : 1024 ≤ e) (h : 2 ^ e ≤ num) :
    ranks ≤ nearestRank num 1 := by
  have hunits : 2 ^ (e + unitExponent) ≤ num * 2 ^ unitExponent :=
    (Nat.pow_add ..).trans_le (Nat.mul_le_mul_right _ h)
  have hpos : num * 2 ^ unitExponent ≠ 0 := (Nat.lt_of_lt_of_le (Nat.two_pow_pos _) hunits).ne'
  have hlog : 2098 ≤ (num * 2 ^ unitExponent).log2 := by
    have hle := (Nat.le_log2 hpos).2 hunits
    rw [unitExponent] at hle ⊢
    omega
  rw [nearestRank, Nat.div_one, Nat.one_mul]
  generalize num * 2 ^ unitExponent = units at hpos hlog ⊢
  have hshift : 2 ^ 52 ≤ units / 2 ^ (units.log2 - 52) := by
    rw [Nat.le_div_iff_mul_le (Nat.two_pow_pos _), ← Nat.pow_add,
      Nat.add_sub_cancel' (by omega)]
    exact Nat.log2_self_le hpos
  have hround := div_le_roundHalfEven units (2 ^ (units.log2 - 52))
  have hbinades : 2046 * 2 ^ 52 ≤ (units.log2 - 52) * 2 ^ 52 :=
    Nat.mul_le_mul_right _ (by omega)
  have hranks : ranks = 2046 * 2 ^ 52 + 2 ^ 52 := by decide
  omega

end Double

/-! ### Decimals -/

theorem two_pow_le_ten_pow (k : Nat) : 2 ^ (3 * k) ≤ 10 ^ k := by
  rw [Nat.pow_mul]
  exact Nat.pow_le_pow_left (by decide) k

theorem two_mul_lt_ten_pow {n u k : Nat} (h : n.log2 + u + 2 ≤ 3 * k) :
    2 * (n * 2 ^ u) < 10 ^ k := calc
  2 * (n * 2 ^ u) < 2 * (2 ^ (n.log2 + 1) * 2 ^ u) :=
    Nat.mul_lt_mul_of_pos_left (Nat.mul_lt_mul_of_pos_right Nat.lt_log2_self (Nat.two_pow_pos _))
      (by decide)
  _ = 2 ^ (n.log2 + u + 2) := by ring
  _ ≤ 2 ^ (3 * k) := Nat.pow_le_pow_right (by decide) h
  _ ≤ 10 ^ k := two_pow_le_ten_pow k

namespace Decimal

/-- What a decimal is worth. -/
def value (d : Decimal) : ℚ := d.digits * (10 : ℚ) ^ d.exponent

/-- The rank nearest to a decimal. -/
def rank (d : Decimal) : Nat :=
  Double.nearestRank (d.digits * 10 ^ d.exponent.toNat) (10 ^ (-d.exponent).toNat)

theorem value_eq_div (d : Decimal) :
    d.value = (d.digits * 10 ^ d.exponent.toNat : Nat) / (10 ^ (-d.exponent).toNat : Nat) := by
  rw [value, Nat.cast_mul, Nat.cast_pow, Nat.cast_pow, mul_div_assoc]
  congr 1
  rw [Nat.cast_ofNat, ← zpow_natCast, ← zpow_natCast, ← zpow_sub₀ (by norm_num),
    Int.toNat_sub_toNat_neg]

theorem rank_eq_of_value {d : Decimal} {num den : Nat} (hden : 0 < den)
    (h : d.value = (num : ℚ) / den) : d.rank = Double.nearestRank num den :=
  Double.nearestRank_congr (Nat.pow_pos (by decide)) hden (by rw [← value_eq_div, h])

theorem rank_congr {d d' : Decimal} (h : d.value = d'.value) : d.rank = d'.rank :=
  rank_eq_of_value (Nat.pow_pos (by decide)) (h.trans d'.value_eq_div)

/-- A decimal reads as the double nearest to it. Where the exponent alone decides, it decides
rightly. -/
theorem toDouble_eq (negative : Bool) (d : Decimal) :
    d.toDouble negative = Double.ofRank negative d.rank := by
  rw [toDouble]
  split
  · next hzero =>
    rw [rank, hzero, Double.nearestRank_eq_zero]
    simp
  · next hpos =>
    split
    · next hlarge =>
      have hneg : (-d.exponent).toNat = 0 := by omega
      have hnum : 2 ^ (3 * d.exponent.toNat) ≤ d.digits * 10 ^ d.exponent.toNat :=
        (two_pow_le_ten_pow _).trans (Nat.le_mul_of_pos_left _ (Nat.pos_of_ne_zero hpos))
      have hranks := Double.ranks_le_nearestRank (by omega) hnum
      rw [rank, hneg, Nat.pow_zero, Double.ofRank, dif_neg (Nat.not_lt.2 hranks)]
    · split
      · next hsmall =>
        have hexponent : d.exponent.toNat = 0 := by omega
        have hsize : d.digits.log2 + Double.unitExponent + 2 ≤ 3 * (-d.exponent).toNat := by
          rw [Double.unitExponent]
          omega
        rw [rank, hexponent, Nat.pow_zero, Nat.mul_one,
          Double.nearestRank_eq_zero (two_mul_lt_ten_pow hsize)]
      · split
        · next hnonneg =>
          have hneg : (-d.exponent).toNat = 0 := by omega
          rw [rank, hneg, Nat.pow_zero, Double.nearest]
        · next hnegative =>
          have hneg : d.exponent.toNat = 0 := by omega
          rw [rank, hneg, Nat.pow_zero, Nat.mul_one, Double.nearest]

end Decimal

/-! ### Shortest digits -/

namespace Decimal

theorem value_reduced (d : Decimal) : d.reduced.value = d.value := by
  fun_induction reduced d with
  | case1 d h ih =>
    have hdigits : (d.digits : ℚ) = 10 * (d.digits / 10 : Nat) := by
      exact_mod_cast (Nat.mul_div_cancel' (Nat.dvd_of_mod_eq_zero h.2)).symm
    rw [ih, value, value, hdigits, zpow_add_one₀ (by norm_num)]
    ring
  | case2 d h => rfl

theorem rank_reduced (d : Decimal) : d.reduced.rank = d.rank := rank_congr d.value_reduced

end Decimal

namespace Double

variable {rank k : Nat} {d : Decimal}

/-- So many steps of `10 ^ k`, counted in units of `10 ^ -u`. -/
theorem value_grid (m k u : Nat) :
    (⟨m, (k : Int) - u⟩ : Decimal).value = (m * 10 ^ k : Nat) / (10 ^ u : Nat) := by
  rw [Decimal.value, zpow_sub₀ (by norm_num), zpow_natCast, zpow_natCast]
  push_cast
  ring

theorem rank_of_gridPoint? (h : gridPoint? rank k = some d) : d.rank = rank := by
  have hrank (m : Nat) (hm : nearestRank (m * 10 ^ k) (10 ^ unitExponent) = rank) :
      (⟨m, (k : Int) - unitExponent⟩ : Decimal).rank = rank := by
    rw [Decimal.rank_eq_of_value (Nat.pow_pos (by decide)) (value_grid m k unitExponent), hm]
  simp only [gridPoint?, beq_iff_eq] at h
  split at h
  · next hm =>
    cases h
    exact hrank _ hm
  · split at h
    · next hm =>
      cases h
      exact hrank _ hm
    · split at h
      · next hm =>
        cases h
        exact hrank _ hm
      · cases h

theorem value_exactDigits (rank : Nat) :
    (⟨exactDigits rank, -(unitExponent : Int)⟩ : Decimal).value = magnitude rank := by
  have hten (u : Nat) : (10 : ℚ) ^ u = 5 ^ u * 2 ^ u := by
    rw [← mul_pow]
    norm_num
  rw [magnitude_eq, ofUnits, Decimal.value, exactDigits]
  generalize unitExponent = u
  rw [zpow_neg, zpow_natCast, hten]
  push_cast
  field_simp

/-- The shortest digits of a double read back to it. -/
theorem rank_shortest (rank : Nat) : (shortest rank).rank = rank := by
  rw [shortest, Decimal.rank_reduced]
  cases hfound : (List.range 17).findSome? fun n =>
      gridPoint? rank ((Text.toDigits 10 (exactDigits rank)).length - (n + 1)) with
  | none =>
    have hvalue := value_exactDigits rank
    rw [Decimal.value_eq_div] at hvalue
    exact nearestRank_of_magnitude (Nat.pow_pos (by decide)) hvalue
  | some d =>
    obtain ⟨n, -, hgrid⟩ := List.exists_of_findSome?_eq_some hfound
    exact rank_of_gridPoint? hgrid

end Double

end Verdict
