import Verdict.Fault

/-! Places in the text of a document, and the characters that separate what is written
in it. Carriage returns are no matter here: texts come with line feeds in their place. -/

namespace Verdict.Document

/-- Why a document has no content. -/
inductive DocumentError where
  /-- The text does not follow the format. -/
  | malformed
  /-- The text follows the format, and a part of it cannot be read. -/
  | fault (f : Fault)
  deriving DecidableEq

/-! ### Characters -/

def isBreak (c : Point) : Bool := c = '\n' || c = '\x85' || c = '\u2028' || c = '\u2029'

def isSpace (c : Point) : Bool := c = ' ' || c = '\t'

def isGap (c : Point) : Bool := isSpace c || isBreak c

/-- Whether a text ends here or goes on with a blank or a break. -/
def atGap (cs : List Point) : Bool := cs.head?.all isGap

/-- A break as it counts in a scalar. -/
def breakOf (c : Point) : Point := if c = '\x85' then '\n' else c

/-- Whether a line begins with a marker of the start or the end of a document. -/
def atMarker (cs : List Point) : Bool :=
  [("---" : Text), "..."].contains (.ofList (cs.take 3)) && atGap (cs.drop 3)

/-- Characters of names. -/
def isNameChar (c : Point) : Bool := c.isAlphanum || c = '-' || c = '_'

/-- Characters that may stand in a document at all. -/
def isAdmitted (c : Point) : Bool :=
  let n := c.toNat
  c = '\t' || c = '\n' || c = '\r' || (0x20 ≤ n && n ≤ 0x7e) || n = 0x85 ||
    (0xa0 ≤ n && n ≤ 0xd7ff) || (0xe000 ≤ n && n ≤ 0xfffd) || 0x10000 ≤ n

/-! ### Places -/

/-- The text from a place on, and where that is. -/
structure Cursor where
  rest : List Point
  index : Nat := 0
  line : Nat := 0
  column : Nat := 0

namespace Cursor

/-- The place after the next character. A byte order mark takes up no column. -/
def next (c : Cursor) : Cursor :=
  match c.rest with
  | [] => c
  | ch :: rest =>
    if isBreak ch then ⟨rest, c.index + 1, c.line + 1, 0⟩
    else ⟨rest, c.index + 1, c.line, if ch = '\ufeff' then c.column else c.column + 1⟩

def advance (c : Cursor) : Nat → Cursor
  | 0 => c
  | n + 1 => c.next.advance n

/-- The place from which on the text is `rest`. -/
def seek (c : Cursor) (rest : List Point) : Cursor := c.advance (c.rest.length - rest.length)

/-- The first place of a text; a byte order mark in front is no part of it. -/
def start (text : List Point) : Cursor :=
  let c : Cursor := { rest := text }
  if text.head? = some (.char '\ufeff') then c.next else c

end Cursor

end Verdict.Document
