import Verdict.Number.Double
import Verdict.Text.Point

/-! Doubles as decimal text. The digits are the fewest that read back to the same
number, and of those the nearest; a layout says where the exponent form begins. -/

namespace Verdict

attribute [local instance] powOfNatPow

/-- The decimal number `digits * 10 ^ exponent`. -/
structure Decimal where
  digits : Nat
  exponent : Int
  deriving DecidableEq

/-- The same number without zeros at the end of its digits. -/
def Decimal.reduced (d : Decimal) : Decimal :=
  if d.digits ≠ 0 ∧ d.digits % 10 = 0 then reduced ⟨d.digits / 10, d.exponent + 1⟩ else d
termination_by d.digits
decreasing_by omega

namespace Double

/-- The magnitude at a rank as an exact count of `10 ^ -1074`. -/
def exactDigits (rank : Nat) : Nat := unitsAt rank * 5 ^ unitExponent

/-- The neighbour of the magnitude on the grid of step `10 ^ k` that reads back to it:
the nearer one if both do, the even one if they are equally near. -/
def gridPoint? (rank k : Nat) : Option Decimal :=
  let exact := exactDigits rank
  let low := exact / 10 ^ k
  let readsBack (m : Nat) : Bool := nearestRank (m * 10 ^ k) (10 ^ unitExponent) == rank
  let exponent : Int := k - unitExponent
  let nearer := roundHalfEven exact (10 ^ k)
  if readsBack nearer then some ⟨nearer, exponent⟩
  else if readsBack low then some ⟨low, exponent⟩
  else if readsBack (low + 1) then some ⟨low + 1, exponent⟩
  else none

/-- The shortest decimal that reads back to a rank. Seventeen digits always suffice;
the exact magnitude stands behind them. -/
def shortest (rank : Nat) : Decimal :=
  let exact := exactDigits rank
  let places := (Text.toDigits 10 exact).length
  let found := (List.range 17).findSome? fun n => gridPoint? rank (places - (n + 1))
  (found.getD ⟨exact, -unitExponent⟩).reduced

end Double

/-! ### Layout -/

/-- How a decimal is written: positionally while its point stands after more than
`lowPoint` and at most `highPoint` digits, otherwise with an exponent of at least
`exponentDigits` digits. -/
structure Layout where
  lowPoint : Int
  highPoint : Int
  exponentDigits : Nat

/-- Positional from a ten-thousandth up to below `10 ^ 16`; exponents have a sign and two digits. -/
def Layout.plain : Layout := ⟨-4, 16, 2⟩

namespace Decimal

def exponentText (width : Nat) (e : Int) : List Point :=
  let ds := Text.toDigits 10 e.natAbs
  'e' :: (if e < 0 then '-' else '+') :: (List.replicate (width - ds.length) (.char '0') ++ ds)

/-- A non-zero decimal as text; a number without a fractional part ends in `.0`. -/
def text (layout : Layout) (d : Decimal) : List Point :=
  let ds := Text.toDigits 10 d.digits
  let point : Int := ds.length + d.exponent
  if layout.lowPoint < point ∧ point ≤ layout.highPoint then
    if point ≤ 0 then
      '0' :: '.' :: (List.replicate (-point).toNat (.char '0') ++ ds)
    else if point < ds.length then
      ds.take point.toNat ++ .char '.' :: ds.drop point.toNat
    else
      ds ++ List.replicate (point.toNat - ds.length) (.char '0') ++ [.char '.', .char '0']
  else
    match ds with
    | [d] => d :: exponentText layout.exponentDigits (point - 1)
    | d :: rest => d :: '.' :: (rest ++ exponentText layout.exponentDigits (point - 1))
    | [] => []

end Decimal

namespace Double

def signed (negative : Bool) (cs : List Point) : List Point := if negative then '-' :: cs else cs

/-- The shortest text that reads back, as `1.5`, `1e+22`, `-0.0`, `inf` or `nan`. -/
def text : Double → Text
  | .finite negative rank =>
    .ofList (signed negative
      (if rank.val = 0 then [.char '0', .char '.', .char '0'] else (shortest rank).text .plain))
  | .infinite negative => .ofList (signed negative [.char 'i', .char 'n', .char 'f'])
  | .nan => "nan"

end Double

end Verdict
