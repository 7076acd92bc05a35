import Verdict.Text.Point

/-! Decimal digits of every script. Each script has its ten digits in a row, so
the place of its zero gives the worth of all ten. -/

namespace Verdict.Text

/-- The zeros of the decimal digit rows of Unicode 14. -/
def zeroDigits : List Nat := [
  48, 1632, 1776, 1984, 2406, 2534, 2662, 2790, 2918, 3046, 3174, 3302, 3430, 3558, 3664, 3792,
  3872, 4160, 4240, 6112, 6160, 6470, 6608, 6784, 6800, 6992, 7088, 7232, 7248, 42528, 43216, 43264,
  43472, 43504, 43600, 44016, 65296, 66720, 68912, 69734, 69872, 69942, 70096, 70384, 70736, 70864,
  71248, 71360, 71472, 71904, 72016, 72784, 73040, 73120, 92768, 92864, 93008, 120782, 120792,
  120802, 120812, 120822, 123200, 123632, 125264, 130032]

/-- The worth of a decimal digit of any script. -/
def digitWorth? (c : Point) : Option Nat :=
  (zeroDigits.find? fun z => z ≤ c.toNat && c.toNat < z + 10).map (c.toNat - ·)

theorem digitWorth?_of_isDigit {c : Point} (h : c.isDigit = true) :
    digitWorth? c = some (c.toNat - 48) := by
  have hc : 48 ≤ c.toNat ∧ c.toNat < 58 := by
    have hrange := Point.isDigit_iff_toNat.1 h
    exact ⟨hrange.1, Nat.lt_succ_of_le hrange.2⟩
  simp [digitWorth?, zeroDigits, hc.1, hc.2]

end Verdict.Text
