import Mathlib.Data.List.Chain
import Mathlib.Data.List.Induction
import Mathlib.Data.Nat.Digits.Defs
import Verdict.Number.Double
import Verdict.Text.Quoted
import Verdict.Text.Unit

/-! How many digits a number takes, hexadecimal digits and the numbers they write, and the units of
characters, joined again. Halves that stand side by side are joined as well, whether or not they
come from one character. -/

namespace Verdict.Text

theorem length_toDigits_le_iff {base n k : Nat} (hbase : 1 < base) (hk : 0 < k) :
    (toDigits base n).length ≤ k ↔ n < base ^ k := by
  rw [toDigits, List.length_map, Nat.length_toDigits_le_iff hbase hk]

/-! ### Hexadecimal digits -/

theorem readHex?_concat (ds : List Point) (c : Point) :
    readHex? (ds ++ [c]) = (readHex? ds).bind fun n => (hexWorth? c).map (16 * n + ·) := by
  rw [readHex?, List.foldlM_append]
  simp [readHex?]

theorem readHex?_toDigits (n : Nat) : readHex? (toDigits 16 n) = some n := by
  induction n using Nat.strongRecOn with
  | ind n ih =>
    have hworth : ∀ d < 16, hexWorth? d.digitChar = some d := by decide
    rw [toDigits_eq_if (by decide)]
    split
    · next hlow =>
      rw [← List.nil_append [Point.char n.digitChar], readHex?_concat, hworth n hlow]
      simp [readHex?]
    · next hhigh =>
      rw [readHex?_concat, ih (n / 16) (by omega), hworth (n % 16) (by omega)]
      simp [Nat.div_add_mod]

theorem readHex?_zeros_append (k : Nat) (ds : List Point) :
    readHex? (List.replicate k (.char '0') ++ ds) = readHex? ds := by
  induction k with
  | zero => rfl
  | succ k ih =>
    rw [List.replicate_succ, List.cons_append, ← ih]
    rfl

/-- Four hexadecimal digits name every 16-bit unit. -/
theorem exists_hexDigits_four {n : Nat} (h : n < 0x10000) :
    ∃ a b c d, hexDigits 4 n = [a, b, c, d] ∧ readHex? [a, b, c, d] = some n := by
  have hlength : (hexDigits 4 n).length = 4 := by
    have hle : (toDigits 16 n).length ≤ 4 :=
      (length_toDigits_le_iff (by decide) (by decide)).2 h
    rw [hexDigits, List.length_append, List.length_replicate, Nat.sub_add_cancel hle]
  have hread : readHex? (hexDigits 4 n) = some n := by
    rw [hexDigits, readHex?_zeros_append, readHex?_toDigits]
  obtain ⟨a, b, c, d, hdigits⟩ := List.length_eq_four.1 hlength
  exact ⟨a, b, c, d, hdigits, hdigits ▸ hread⟩

/-! ### Units -/

theorem isHigh_iff {n : Nat} : isHigh n = true ↔ 0xd800 ≤ n ∧ n < 0xdc00 := by simp [isHigh]

theorem isLow_iff {n : Nat} : isLow n = true ↔ 0xdc00 ≤ n ∧ n < 0xe000 := by simp [isLow]

/-- A character beyond the 16-bit range falls into two halves and is joined from them. -/
theorem exists_units_pair {c : Point} (h : ¬ c.toNat < 0x10000) : ∃ high low,
    units c = [high, low] ∧ isHigh high = true ∧ isLow low = true ∧ joinUnits high low = c := by
  have hbound := c.toNat_lt
  have hjoin : 0x10000 + (0xd800 + (c.toNat - 0x10000) / 0x400 - 0xd800) * 0x400 +
      (0xdc00 + (c.toNat - 0x10000) % 0x400 - 0xdc00) = c.toNat := by omega
  refine ⟨_, _, if_neg h, ?_, ?_, ?_⟩
  · rw [isHigh_iff]
    omega
  · rw [isLow_iff]
    omega
  · rw [joinUnits, hjoin, Point.ofNat_toNat]

/-! ### Halves side by side -/

/-- Two points are the halves of one character. -/
def IsPair (c d : Point) : Prop := isHigh c.toNat = true ∧ isLow d.toNat = true

instance (c d : Point) : Decidable (IsPair c d) :=
  inferInstanceAs (Decidable (isHigh c.toNat = true ∧ isLow d.toNat = true))

/-- Each high half with a low one right behind it becomes the character of the two. -/
def joinPairs : List Point → List Point
  | c :: d :: cs =>
    if IsPair c d then joinUnits c.toNat d.toNat :: joinPairs cs else c :: joinPairs (d :: cs)
  | cs => cs

theorem length_joinPairs_le (cs : List Point) : (joinPairs cs).length ≤ cs.length := by
  fun_induction joinPairs cs with
  | case1 c d cs hpair ih => exact Nat.succ_le_succ (Nat.le_succ_of_le ih)
  | case2 c d cs hpair ih => exact Nat.succ_le_succ ih
  | case3 => exact Nat.le_refl _

/-- Nothing is joined in a text without a high half right before a low one, and in no other. -/
theorem joinPairs_eq_self_iff {cs : List Point} :
    joinPairs cs = cs ↔ cs.IsChain fun c d => ¬ IsPair c d := by
  fun_induction joinPairs cs with
  | case1 c d cs hpair ih =>
    refine iff_of_false (fun heq => ?_) fun h => (List.isChain_cons_cons.1 h).1 hpair
    have hlength := length_joinPairs_le cs
    have heq := congrArg List.length heq
    simp only [List.length_cons] at heq
    omega
  | case2 c d cs hpair ih =>
    rw [List.isChain_cons_cons, List.cons_inj_right, ih]
    exact (and_iff_right hpair).symm
  | case3 cs h =>
    refine iff_of_true rfl ?_
    rcases cs with _ | ⟨c, _ | ⟨d, cs⟩⟩
    · exact .nil
    · exact .singleton c
    · exact absurd rfl (h c d cs)

end Verdict.Text
