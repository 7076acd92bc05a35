import Verdict.Document.Cursor
import Verdict.Text.Unit

/-! Quoted scalars. Inside them a line break with the blanks around it counts as one
space, and of several breaks all but the first count as they are. -/

namespace Verdict.Document

/-! ### Gaps -/

/-- Blanks and breaks between two words of a scalar. -/
inductive Gap where
  | spaces (cs : List Point)
  /-- Breaks, the first one apart; an escaped one is left out. -/
  | lines (first : Option Point) (more : List Point)

namespace Gap

def none : Gap := .spaces []

/-- The text that a gap stands for. -/
def text : Gap → List Point
  | .spaces cs => cs
  | .lines (some (.char '\n')) [] => [.char ' ']
  | .lines (some (.char '\n')) more => more
  | .lines (some c) more => c :: more
  | .lines .none more => more

def isBroken : Gap → Bool
  | .spaces _ => false
  | .lines .. => true

/-- A gap with one more blank; those next to a break do not count. -/
def addSpace (c : Point) : Gap → Gap
  | .spaces cs => .spaces (cs ++ [c])
  | g => g

def addBreak (c : Point) : Gap → Gap
  | .spaces _ => .lines (some (breakOf c)) []
  | .lines first more => .lines first (more ++ [breakOf c])

end Gap

/-- Puts text in front of the content that was read. -/
def prepend {α : Type} (cs : List Point) (r : Except DocumentError (List Point × α)) :
    Except DocumentError (List Point × α) :=
  r.map fun (text, rest) => (cs ++ text, rest)

/-! ### Single quotes -/

/-- The content up to the closing single quote and the text after it. Two quotes are one. -/
def singleQuoted (gap : Gap) : List Point → Except DocumentError (List Point × List Point)
  | [] => .error .malformed
  | .char '\'' :: .char '\'' :: cs => prepend (gap.text ++ [.char '\'']) (singleQuoted .none cs)
  | .char '\'' :: cs => .ok (gap.text, cs)
  | c :: cs =>
    if isSpace c then singleQuoted (gap.addSpace c) cs
    else if isBreak c then
      if atMarker cs then .error .malformed else singleQuoted (gap.addBreak c) cs
    else prepend (gap.text ++ [c]) (singleQuoted .none cs)

/-! ### Double quotes -/

def shortEscapes : List (Point × Point) := [
  ('0', '\x00'), ('a', '\x07'), ('b', '\x08'), ('t', '\t'), ('\t', '\t'), ('n', '\n'),
  ('v', '\x0b'), ('f', '\x0c'), ('r', '\r'), ('e', '\x1b'), (' ', ' '), ('"', '"'), ('\\', '\\'),
  ('/', '/'), ('N', '\x85'), ('_', '\xa0'), ('L', '\u2028'), ('P', '\u2029')]

/-- How many hexadecimal digits follow a letter of an escape. -/
def escapeWidth? (c : Point) : Option Nat := List.lookup c [('x', 2), ('u', 4), ('U', 8)]

/-- The number in an escape of this width and the text after it. -/
def readEscape (width : Nat) (cs : List Point) : Except DocumentError (Nat × List Point) :=
  if cs.length < width then .error .malformed
  else match Text.readHex? (cs.take width) with
    | some n =>
      if 0x80000000 ≤ n then .error (.fault (.scalar .characterOverflow))
      else if 0x110000 ≤ n then .error (.fault (.scalar .characterRange))
      else .ok (n, cs.drop width)
    | none => .error .malformed

theorem length_of_readEscape {width n : Nat} {cs rest : List Point}
    (h : readEscape width cs = .ok (n, rest)) : rest.length ≤ cs.length := by
  unfold readEscape at h
  split at h
  · cases h
  · split at h
    · split at h
      · cases h
      · split at h
        · cases h
        · simp only [Except.ok.injEq, Prod.mk.injEq] at h
          rw [← h.2, List.length_drop]
          exact Nat.sub_le _ _
    · cases h

/-- The content up to the closing double quote and the text after it. -/
def doubleQuoted (gap : Gap) : List Point → Except DocumentError (List Point × List Point)
  | [] => .error .malformed
  | .char '"' :: cs => .ok (gap.text, cs)
  | .char '\\' :: c :: cs =>
    match shortEscapes.lookup c, escapeWidth? c with
    | some plain, _ => prepend (gap.text ++ [plain]) (doubleQuoted .none cs)
    | none, some width =>
      match _h : readEscape width cs with
      | .error e => .error e
      | .ok (n, rest) => prepend (gap.text ++ [.ofNat n]) (doubleQuoted .none rest)
    | none, none =>
      if isBreak c then
        if atMarker cs then .error .malformed
        else prepend gap.text (doubleQuoted (.lines .none []) cs)
      else .error .malformed
  | c :: cs =>
    if isSpace c then doubleQuoted (gap.addSpace c) cs
    else if isBreak c then
      if atMarker cs then .error .malformed else doubleQuoted (gap.addBreak c) cs
    else if c = '\\' then .error .malformed
    else prepend (gap.text ++ [c]) (doubleQuoted .none cs)
termination_by cs => cs.length
decreasing_by
  all_goals simp only [List.length_cons]
  all_goals try omega
  have := length_of_readEscape _h
  omega

end Verdict.Document
