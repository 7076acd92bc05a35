import Verdict.Number.Shortest
import Verdict.Text.Blank
import Verdict.Text.Digit

/-! Numbers read from text. Digits of any script count, blanks around a numeral do
not, and a low line may stand between two digits. -/

namespace Verdict

attribute [local instance] powOfNatPow

/-- The greatest number of decimal digits of an integer that text may hold. -/
def digitLimit : Nat := 4300

/-- Why a text is not an integer. -/
inductive NumeralError where
  | malformed
  | tooLong (digits : Nat)
  deriving DecidableEq

namespace Numeral

/-- Each digit of any script becomes the plain one of the same worth. -/
def plainDigits (cs : List Point) : List Point :=
  cs.map fun c => match Text.digitWorth? c with
    | some n => n.digitChar
    | none => c

/-- The text without its low lines, if each stands between two digits. -/
def ungroup (afterDigit : Bool) : List Point → Option (List Point)
  | [] => some []
  | c :: cs =>
    if c = '_' then
      if afterDigit && cs.head?.any Point.isDigit then ungroup false cs else none
    else (ungroup c.isDigit cs).map (c :: ·)

/-- The sign in front of a numeral, true for minus, and the rest. -/
def takeSign : List Point → Bool × List Point
  | .char '-' :: cs => (true, cs)
  | .char '+' :: cs => (false, cs)
  | cs => (false, cs)

/-- The worth of a row of plain digits. -/
def worth (ds : List Point) : Nat := ds.foldl (fun n d => 10 * n + (d.toNat - '0'.toNat)) 0

/-- A row of plain digits and the text after it. -/
def takeDigits (cs : List Point) : List Point × List Point :=
  (cs.takeWhile Point.isDigit, cs.dropWhile Point.isDigit)

def applySign (negative : Bool) (n : Nat) : Int := if negative then -(n : Int) else n

/-- Blanks that may stand around a numeral: all but the four information separators. -/
def isPadding (c : Point) : Bool := Text.isBlank c && !(28 ≤ c.toNat && c.toNat ≤ 31)

/-- A numeral without the blanks around it. -/
def unpad (cs : List Point) : List Point :=
  ((cs.dropWhile isPadding).reverse.dropWhile isPadding).reverse

/-- The bare form of a numeral: without blanks, with plain digits, without low lines. -/
def bare (cs : List Point) : Option (List Point) := ungroup false (plainDigits (unpad cs))

/-- An integer in base ten: a sign or none, then digits only and at most `digitLimit` of them. -/
def readInt (cs : List Point) : Except NumeralError Int :=
  match (bare cs).map takeSign with
  | some (negative, ds) =>
    if ds = [] ∨ ¬ ds.all Point.isDigit then .error .malformed
    else if digitLimit < ds.length then .error (.tooLong ds.length)
    else .ok (applySign negative (worth ds))
  | none => .error .malformed

/-- The exponent at the end of a numeral; none written counts as zero. -/
def readExponent : List Point → Option Int
  | [] => some 0
  | e :: cs =>
    let (negative, ds) := takeSign cs
    if (e = 'e' ∨ e = 'E') ∧ ds ≠ [] ∧ ds.all Point.isDigit then
      some (applySign negative (worth ds))
    else none

/-- Digits with a point among them, before or after them or nowhere, then perhaps an exponent. -/
def readDecimal (cs : List Point) : Option Decimal :=
  let (whole, rest) := takeDigits cs
  let (fraction, rest) := match rest with
    | .char '.' :: r => takeDigits r
    | r => ([], r)
  if whole = [] ∧ fraction = [] then none
  else (readExponent rest).map fun e => ⟨worth (whole ++ fraction), e - fraction.length⟩

/-- The names of numbers without digits, in any case. -/
def readNamed (negative : Bool) (cs : List Point) : Option Double :=
  let name := Text.ofList (cs.map Point.toLower)
  if name = "inf" ∨ name = "infinity" then some (.infinite negative)
  else if name = "nan" then some .nan
  else none

end Numeral

/-- The double nearest to a decimal. Far beyond either end of the range the exponent
alone decides, so that no great power is formed. -/
def Decimal.toDouble (negative : Bool) (d : Decimal) : Double :=
  if d.digits = 0 then Double.ofRank negative 0
  else if 400 < d.exponent then .infinite negative
  else if d.exponent < -(400 + d.digits.log2 : Int) then Double.ofRank negative 0
  else if 0 ≤ d.exponent then Double.nearest negative (d.digits * 10 ^ d.exponent.toNat) 1
  else Double.nearest negative d.digits (10 ^ (-d.exponent).toNat)

/-- A double in decimal or by name; what lies beyond the range reads as infinite. -/
def Numeral.readDouble (cs : List Point) : Option Double :=
  match (bare cs).map takeSign with
  | some (negative, r) =>
    match readDecimal r with
    | some d => some (d.toDouble negative)
    | none => readNamed negative r
  | none => none

end Verdict
