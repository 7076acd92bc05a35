import Verdict.Text.Point

/-! Character maps kept as rows of equal distance, with a list of the characters
that map to several. -/

namespace Verdict.Text

/-- The characters `first`, `first + step`, … up to `last` all map `distance` further on. -/
structure Shift where
  first : Nat
  last : Nat
  step : Nat
  distance : Int

namespace Shift

def covers (s : Shift) (c : Nat) : Bool :=
  s.first ≤ c && c ≤ s.last && (c - s.first) % s.step == 0

def apply (s : Shift) (c : Nat) : Nat := (c + s.distance).toNat

end Shift

/-- The image of one character; a character in neither table stands for itself. -/
def remap (shifts : List Shift) (expansions : List (Nat × List Nat)) (c : Point) : List Point :=
  match expansions.lookup c.toNat with
  | some cs => cs.map Point.ofNat
  | none =>
    match shifts.find? (·.covers c.toNat) with
    | some s => [Point.ofNat (s.apply c.toNat)]
    | none => [c]

end Verdict.Text
