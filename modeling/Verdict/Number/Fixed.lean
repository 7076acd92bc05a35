import Verdict.Number.Shortest

/-! Doubles with a given number of digits, rounded from their exact worth, a half to
the even neighbour. -/

namespace Verdict.Double

attribute [local instance] powOfNatPow

/-- Digits with a point before the last `places` of them; `keepPoint` leaves a bare point. -/
def placePoint (keepPoint : Bool) (places : Nat) (ds : List Point) : List Point :=
  let ds := List.replicate (places + 1 - ds.length) (.char '0') ++ ds
  let (whole, fraction) := (ds.take (ds.length - places), ds.drop (ds.length - places))
  if fraction = [] ∧ ¬ keepPoint then whole else whole ++ .char '.' :: fraction

/-- The magnitude at a rank in steps of `10 ^ -places`, which are no finer than its last digit. -/
def steps (rank places : Nat) : Nat :=
  roundHalfEven (exactDigits rank) (10 ^ (unitExponent - places))

/-- The magnitude at a rank with `places` digits after the point, zeros behind its last digit. -/
def fixed (keepPoint : Bool) (rank places : Nat) : List Point :=
  placePoint keepPoint places
    (Text.toDigits 10 (steps rank places) ++ List.replicate (places - unitExponent) (.char '0'))

/-- The first `n + 1` digits of the magnitude at a rank, and the exponent of the first. -/
def leading (rank n : Nat) : List Point × Int :=
  if rank = 0 then (List.replicate (n + 1) (.char '0'), 0)
  else
    let exact := exactDigits rank
    let all := Text.toDigits 10 exact
    let ds :=
      if n + 1 ≤ all.length then
        Text.toDigits 10 (roundHalfEven exact (10 ^ (all.length - (n + 1))))
      else all ++ List.replicate (n + 1 - all.length) (.char '0')
    -- Rounding up may have given one digit more, which is then a zero at the end.
    (ds.take (n + 1), (all.length : Int) - 1 - unitExponent + (ds.length - (n + 1) : Nat))

/-- The magnitude at a rank with one digit before the point and `places` after it. -/
def scientific (keepPoint : Bool) (rank places : Nat) : List Point :=
  let (ds, e) := leading rank places
  placePoint keepPoint places ds ++ Decimal.exponentText 2 e

/-- A numeral without zeros after its last other digit behind the point. -/
def dropZeros (cs : List Point) : List Point :=
  if cs.contains '.' then
    let kept := (cs.reverse.dropWhile (· = .char '0'))
    (if kept.head? = some (.char '.') then kept.tail else kept).reverse
  else cs

/-- The magnitude at a rank with `digits` significant digits, positionally if its
exponent is small. Unless `keep` is set, zeros at the end are dropped. -/
def general (keep : Bool) (rank digits : Nat) : List Point :=
  let digits := max digits 1
  let (ds, e) := leading rank (digits - 1)
  let trim (cs : List Point) := if keep then cs else dropZeros cs
  if -4 ≤ e ∧ e < digits then trim (fixed keep rank (digits - 1 - e).toNat)
  else trim (placePoint keep (digits - 1) ds) ++ Decimal.exponentText 2 e

end Verdict.Double
