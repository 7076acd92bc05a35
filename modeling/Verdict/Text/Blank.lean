import Verdict.Text.Point

/-! Blank characters and the trimming of texts. -/

namespace Verdict.Text

/-- The white space of Unicode 14, the four information separators included. -/
def blanks : List Nat := [
  9, 10, 11, 12, 13, 28, 29, 30, 31, 32, 133, 160, 5760, 8192, 8193, 8194, 8195, 8196, 8197, 8198,
  8199, 8200, 8201, 8202, 8232, 8233, 8239, 8287, 12288]

def isBlank (c : Point) : Bool := blanks.contains c.toNat

def trimLeft (cs : List Point) : List Point := cs.dropWhile isBlank

/-- The text without the blanks at its end. -/
def trimRight (cs : List Point) : List Point := (cs.reverse.dropWhile isBlank).reverse

/-- The text without the blanks at either end. -/
def trim (cs : List Point) : List Point := trimRight (trimLeft cs)

end Verdict.Text
