import Verdict.Proofs.Number.Rounding

/-! Doubles and integers. An integer has a finite double nearest to it up to halfway past the
greatest one, and a double that lies where an integer does is converted to it and back. -/

namespace Verdict

attribute [local instance] powOfNatPow

/-- What lies halfway below an even number is rounded up to it. -/
theorem roundHalfEven_lt_iff {num den k : Nat} (hden : 0 < den) (hk : k % 2 = 0) :
    roundHalfEven num den < k ↔ 2 * num + den < 2 * (k * den) := by
  have hnum : num / den * den + num % den = num := by
    rw [Nat.mul_comm]
    exact Nat.div_add_mod num den
  have hrest : num % den < den := Nat.mod_lt num hden
  rw [roundHalfEven]
  generalize num / den = quotient at hnum ⊢
  generalize num % den = rest at hnum hrest ⊢
  subst hnum
  rcases Nat.lt_trichotomy (quotient + 1) k with hless | hnext | hmore
  · have hmul := Nat.mul_le_mul_right den (show quotient + 2 ≤ k from hless)
    rw [Nat.add_mul] at hmul
    split <;> omega
  · subst hnext
    rw [Nat.add_mul]
    split <;> omega
  · have hmul := Nat.mul_le_mul_right den (Nat.le_of_lt_succ hmore)
    split <;> omega

theorem roundHalfEven_le (num den : Nat) : roundHalfEven num den ≤ num / den + 1 := by
  rw [roundHalfEven]
  split
  · exact Nat.le_succ _
  · exact le_rfl

namespace Double

variable {n e : Nat}

/-- An integer with as many bits as a double and `e` more is rounded to a multiple of `2 ^ e`. -/
theorem nearestRank_of_bits (hlow : 2 ^ (e + 52) ≤ n) (hhigh : n < 2 ^ (e + 53)) :
    nearestRank n 1 = (e + unitExponent) * 2 ^ 52 + roundHalfEven n (2 ^ e) := by
  have hpos := Nat.two_pow_pos unitExponent
  have hlower := Nat.mul_le_mul_right (2 ^ unitExponent) hlow
  have hupper := Nat.mul_lt_mul_of_pos_right hhigh hpos
  rw [← Nat.pow_add] at hlower hupper
  have hlog : (n * 2 ^ unitExponent).log2 = e + 52 + unitExponent := by
    have hne : n * 2 ^ unitExponent ≠ 0 := ((Nat.two_pow_pos _).trans_le hlower).ne'
    have hnext : e + 52 + unitExponent + 1 = e + 53 + unitExponent := by omega
    exact (Nat.log2_eq_iff hne).2 ⟨hlower, hnext ▸ hupper⟩
  have hshift : e + 52 + unitExponent - 52 = e + unitExponent := by omega
  rw [nearestRank, Nat.div_one, hlog, hshift, Nat.one_mul, Nat.pow_add,
    roundHalfEven_mul_right _ _ hpos]

theorem nearestRank_lt_ranks_of_lt (he : e ≤ 1023) (h : n < 2 ^ e) : nearestRank n 1 < ranks := by
  have hpos := Nat.two_pow_pos unitExponent
  have hunits : n * 2 ^ unitExponent < 2 ^ (e + unitExponent) := by
    rw [Nat.pow_add]
    exact Nat.mul_lt_mul_of_pos_right h hpos
  rw [nearestRank, Nat.div_one, Nat.one_mul]
  generalize n * 2 ^ unitExponent = units at hunits
  have hshift : units.log2 - 52 ≤ 2044 := by
    rcases Nat.eq_zero_or_pos units with rfl | hpos
    · exact Nat.zero_le _
    · have hlog := (Nat.log2_lt hpos.ne').2 hunits
      rw [unitExponent] at hlog
      omega
  have hquotient : units / 2 ^ (units.log2 - 52) < 2 ^ 53 := by
    rw [Nat.div_lt_iff_lt_mul (Nat.two_pow_pos _), ← Nat.pow_add]
    exact Nat.lt_log2_self.trans_le (Nat.pow_le_pow_right (by decide) (by omega))
  have hround := roundHalfEven_le units (2 ^ (units.log2 - 52))
  have hbinades : (units.log2 - 52) * 2 ^ 52 ≤ 2044 * 2 ^ 52 := Nat.mul_le_mul_right _ hshift
  have hranks : ranks = 2044 * 2 ^ 52 + 2 ^ 53 + 2 ^ 52 := by decide
  omega

/-- In the last binade doubles lie `2 ^ (e + 1)` apart. Rounding goes over to infinity halfway
between the greatest double and the next power of two. -/
theorem nearestRank_lt_ranks_iff (he : e = 970) (n : Nat) :
    nearestRank n 1 < ranks ↔ n + 2 ^ e < 2 ^ (e + 54) := by
  have hstep : 2 ^ (e + 1) = 2 * 2 ^ e := Nat.pow_succ'
  have hhalf : 2 ^ (e + 54) = 2 * 2 ^ (e + 53) := Nat.pow_succ'
  have hgap : 2 ^ e < 2 ^ (e + 53) := Nat.pow_lt_pow_right (by decide) (by omega)
  rcases Nat.lt_or_ge n (2 ^ (e + 53)) with hsmall | hlow
  · exact iff_of_true (nearestRank_lt_ranks_of_lt (by omega) hsmall) (by omega)
  rcases Nat.lt_or_ge n (2 ^ (e + 54)) with hhigh | hlarge
  · have hranks : ranks = (e + 1 + unitExponent) * 2 ^ 52 + 2 ^ 53 := by
      rw [he]
      decide
    have hsum : 53 + (e + 1) = e + 54 := by omega
    have hend : 2 ^ 53 * 2 ^ (e + 1) = 2 ^ (e + 54) := by rw [← Nat.pow_add, hsum]
    have hround := @roundHalfEven_lt_iff n (2 ^ (e + 1)) (2 ^ 53) (Nat.two_pow_pos _) (by decide)
    rw [hend, hstep] at hround
    rw [nearestRank_of_bits (e := e + 1) hlow hhigh, hranks, hstep]
    omega
  · exact iff_of_false (Nat.not_lt.2 (ranks_le_nearestRank (by omega) hlarge)) (by omega)

/-- The least magnitude of an integer that no finite double is nearest to. -/
def integerLimit : Nat := 2 ^ 1024 - 2 ^ 970

theorem integerLimit_eq (he : e = 970) : integerLimit = 2 ^ (e + 54) - 2 ^ e := by
  subst he
  rw [integerLimit]

theorem ofInt?_eq_none_iff (i : Int) : ofInt? i = none ↔ integerLimit ≤ i.natAbs := by
  obtain ⟨e, he⟩ : ∃ e, e = 970 := ⟨_, rfl⟩
  have hrank := nearestRank_lt_ranks_iff he i.natAbs
  rw [ofInt?, nearest, ofRank, integerLimit_eq he]
  split
  · next h => exact iff_of_false (by simp [finite?]) (by omega)
  · next h => exact iff_of_true rfl (by omega)

variable {x : Double} {i : Int}

/-- The double nearest to an integer is finite where it is given. -/
theorem exists_finite_of_ofInt? (h : ofInt? i = some x) :
    ∃ negative rank, x = .finite negative rank := by
  rw [ofInt?] at h
  cases hnearest : nearest (i < 0) i.natAbs 1 with
  | finite negative rank =>
    rw [hnearest] at h
    exact ⟨negative, rank, (Option.some.inj h).symm⟩
  | infinite negative => rw [hnearest] at h; cases h
  | nan => rw [hnearest] at h; cases h

/-! ### Integers at the place of a double -/

/-- A double at the place of an integer counts so many units. -/
theorem units?_of_place? (h : (Number.int i).place? = (Number.double x).place?) :
    x.units? = some (i * 2 ^ unitExponent) := by
  cases x with
  | finite negative rank => exact congrArg some (Place.at.inj (Option.some.inj h)).symm
  | infinite negative => cases negative <;> cases h
  | nan => cases h

/-- The integer part of a double at the place of an integer. -/
theorem truncate?_of_place? (h : (Number.int i).place? = (Number.double x).place?) :
    x.truncate? = some i := by
  have hpos : (2 ^ unitExponent : Int) ≠ 0 := by positivity
  rw [truncate?, units?_of_place? h, Option.map_some, Int.mul_tdiv_cancel _ hpos]

/-- An integer at the place of a double has that double, or the other zero, for its nearest. -/
theorem exists_ofInt?_of_place? (h : (Number.int i).place? = (Number.double x).place?) :
    ∃ y, ofInt? i = some y ∧ (Number.double y).place? = (Number.double x).place? := by
  have hunits := units?_of_place? h
  cases x with
  | finite negative rank =>
    have habs : i.natAbs * 2 ^ unitExponent = unitsAt rank := by
      have hcast := congrArg Int.natAbs (Option.some.inj hunits)
      rw [Int.natAbs_mul, Int.natAbs_pow] at hcast
      cases negative <;> simpa using hcast.symm
    have hrank : nearestRank i.natAbs 1 = rank := by
      rw [← nearestRank_mul_right i.natAbs 1 (Nat.two_pow_pos unitExponent), habs, Nat.one_mul,
        nearestRank_unitsAt]
    have hsigned : (if i < 0 then -(unitsAt rank : Int) else unitsAt rank) =
        i * 2 ^ unitExponent := by
      rw [← habs, Nat.cast_mul, Nat.cast_pow]
      split
      · next hneg => rw [Int.ofNat_natAbs_of_nonpos hneg.le, Int.neg_mul, Int.neg_neg]; rfl
      · next hpos => rw [Int.natAbs_of_nonneg (Int.not_lt.1 hpos)]; rfl
    refine ⟨.finite (i < 0) rank, ?_, ?_⟩
    · rw [ofInt?, nearest, hrank, ofRank, dif_pos rank.isLt, finite?]
    · rw [← h]
      simpa [Number.place?, units?] using hsigned
  | infinite negative => cases hunits
  | nan => cases hunits

end Double

end Verdict
