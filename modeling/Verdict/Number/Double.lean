/-! Binary floating-point numbers of 64 bits. A finite one is a sign and a rank: the
place of its magnitude in the ascending row of all finite magnitudes. Rounding an
exact quotient to the nearest number is then arithmetic on naturals. -/

namespace Verdict

/-- Powers as the core library has them, also for modules with other ones in scope. -/
@[reducible]
def powOfNatPow {α : Type} [NatPow α] : Pow α Nat := instPowNat

attribute [local instance] powOfNatPow

/-- How many finite magnitudes there are, zero included. -/
def Double.ranks : Nat := 2047 * 2 ^ (52 : Nat)

inductive Double where
  | finite (negative : Bool) (rank : Fin Double.ranks)
  | infinite (negative : Bool)
  | nan
  deriving DecidableEq

/-- The quotient rounded to the nearest natural, a half to the even neighbour. -/
def roundHalfEven (num den : Nat) : Nat :=
  let quotient := num / den
  let rest := num % den
  if 2 * rest < den ∨ 2 * rest = den ∧ quotient % 2 = 0 then quotient else quotient + 1

namespace Double

/-! ### Ranks and magnitudes -/

/-- Every magnitude is a multiple of `2 ^ -1074`; this is the exponent turned round. -/
def unitExponent : Nat := 1074

/-- The binade of a rank: zero for the subnormal numbers and the first normal ones. -/
def binade (rank : Nat) : Nat := rank / 2 ^ (52 : Nat) - 1

/-- The magnitude at a rank, counted in units of `2 ^ -1074`. -/
def unitsAt (rank : Nat) : Nat := (rank - binade rank * 2 ^ (52 : Nat)) * 2 ^ binade rank

/-- The rank nearest to `num / den`, ties to even; past `ranks` it overflows. A
significand that rounds up to the next power of two carries into the next binade. -/
def nearestRank (num den : Nat) : Nat :=
  let units := num * 2 ^ unitExponent
  let shift := (units / den).log2 - 52
  shift * 2 ^ (52 : Nat) + roundHalfEven units (den * 2 ^ shift)

def ofRank (negative : Bool) (rank : Nat) : Double :=
  if h : rank < ranks then .finite negative ⟨rank, h⟩ else .infinite negative

/-- The number nearest to a quotient, infinite from halfway past the greatest one on. -/
def nearest (negative : Bool) (num den : Nat) : Double :=
  ofRank negative (nearestRank num den)

def zero : Double := .finite false ⟨0, by decide⟩

def one : Double := ofRank false (nearestRank 1 1)

/-! ### Integers -/

/-- The number itself, if it is finite. -/
def finite? : Double → Option Double
  | .finite s r => some (.finite s r)
  | _ => none

/-- The number nearest to an integer, if that is finite. -/
def ofInt? (n : Int) : Option Double := (nearest (n < 0) n.natAbs 1).finite?

/-- The signed count of units in a finite number. -/
def units? : Double → Option Int
  | .finite negative rank =>
    some (if negative then -(unitsAt rank : Int) else (unitsAt rank : Int))
  | _ => none

def isNaN : Double → Bool
  | .nan => true
  | _ => false

/-- Whether the number is finite and has no fractional part. -/
def isIntegral : Double → Bool
  | .finite _ rank => unitsAt rank % 2 ^ unitExponent == 0
  | _ => false

/-- The integer part of a finite number, toward zero. -/
def truncate? (x : Double) : Option Int := x.units?.map (Int.tdiv · (2 ^ unitExponent))

/-! ### Arithmetic -/

/-- The sum rounded to the nearest number. Opposite infinities have none. -/
def add : Double → Double → Double
  | .nan, _ | _, .nan => .nan
  | .infinite s, .infinite t => if s = t then .infinite s else .nan
  | .infinite s, .finite .. | .finite .., .infinite s => .infinite s
  | .finite s a, .finite t b =>
    let signed (negative : Bool) (rank : Nat) : Int :=
      if negative then -(unitsAt rank : Int) else unitsAt rank
    let sum := signed s a + signed t b
    nearest (if sum = 0 then s && t else decide (sum < 0)) sum.natAbs (2 ^ unitExponent)

/-- The product rounded to the nearest number. Zero times infinity is none. -/
def multiply : Double → Double → Double
  | .nan, _ | _, .nan => .nan
  | .infinite s, .infinite t => .infinite (s != t)
  | .infinite s, .finite t a | .finite t a, .infinite s =>
    if a.val = 0 then .nan else .infinite (s != t)
  | .finite s a, .finite t b =>
    nearest (s != t) (unitsAt a * unitsAt b) (2 ^ (2 * unitExponent))

def negate : Double → Double
  | .finite s r => .finite (!s) r
  | .infinite s => .infinite (!s)
  | .nan => .nan

end Double

end Verdict
