import Verdict.Number.Numeral

/-! Numbers, integers of any size and doubles kept apart, and their order. A number has
a place on the extended line, counted in the units of the smallest double, so that an
integer and a double compare by their exact worth. -/

namespace Verdict

attribute [local instance] powOfNatPow

inductive Number where
  | int (n : Int)
  | double (x : Double)
  deriving DecidableEq

/-- A point of the extended number line, in units of `2 ^ -1074`. -/
inductive Place where
  | bottom
  | at (units : Int)
  | top
  deriving DecidableEq

namespace Place

def lt : Place → Place → Bool
  | .bottom, .bottom => false
  | .bottom, _ => true
  | .at a, .at b => a < b
  | .at _, .top => true
  | _, _ => false

end Place

namespace Number

/-- Where a number lies; a NaN lies nowhere. -/
def place? : Number → Option Place
  | .int n => some (.at (n * 2 ^ Double.unitExponent))
  | .double .nan => none
  | .double (.infinite negative) => some (if negative then .bottom else .top)
  | .double x => x.units?.map .at

/-- Whether both numbers have a place and `p` holds of the two. -/
def bothPlaced (p : Place → Place → Bool) (a b : Number) : Bool :=
  match a.place?, b.place? with
  | some x, some y => p x y
  | _, _ => false

def eqv : Number → Number → Bool := bothPlaced (· == ·)

def lt : Number → Number → Bool := bothPlaced Place.lt

def le : Number → Number → Bool := bothPlaced fun x y => x.lt y || x == y

def isNaN : Number → Bool
  | .double x => x.isNaN
  | .int _ => false

def isZero (n : Number) : Bool := n.eqv (.int 0)

/-- The integer or else the double that a text writes, with blanks of any kind around it. -/
def read? (cs : List Point) : Option Number :=
  let cs := Text.trim cs
  match Numeral.readInt cs with
  | .ok n => some (.int n)
  | .error _ => (Numeral.readDouble cs).map .double

end Number

/-! ### Integers as text -/

namespace Numeral

/-- Whether an integer has no more digits than text may hold. -/
def fitsText (n : Int) : Bool := n.natAbs < 10 ^ digitLimit

def writeInt (n : Int) : Text := .ofList (Double.signed (n < 0) (Text.toDigits 10 n.natAbs))

end Numeral

end Verdict
