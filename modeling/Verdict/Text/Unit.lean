import Verdict.Text.Point

/-! The 16-bit units of code points, and hexadecimal digits, in which escapes name them. -/

namespace Verdict.Text

/-- The worth of a hexadecimal digit. -/
def hexWorth? (c : Point) : Option Nat :=
  if c.isDigit then some (c.toNat - '0'.toNat)
  else if 'a' ≤ c ∧ c ≤ 'f' then some (c.toNat - 'a'.toNat + 10)
  else if 'A' ≤ c ∧ c ≤ 'F' then some (c.toNat - 'A'.toNat + 10)
  else none

/-- The number that hexadecimal digits write. -/
def readHex? (cs : List Point) : Option Nat :=
  cs.foldlM (fun n c => (hexWorth? c).map (16 * n + ·)) 0

/-- The units of a code point: itself, or a surrogate pair. -/
def units (c : Point) : List Nat :=
  if c.toNat < 0x10000 then [c.toNat]
  else [0xd800 + (c.toNat - 0x10000) / 0x400, 0xdc00 + (c.toNat - 0x10000) % 0x400]

def isHigh (n : Nat) : Bool := 0xd800 ≤ n && n < 0xdc00

def isLow (n : Nat) : Bool := 0xdc00 ≤ n && n < 0xe000

/-- A high and a low surrogate as one character. -/
def joinUnits (high low : Nat) : Point :=
  Point.ofNat (0x10000 + (high - 0xd800) * 0x400 + (low - 0xdc00))

end Verdict.Text
