import Verdict.Document.Quoted

/-! Plain scalars: texts without quotes. One ends where the punctuation around it
begins, or on a line that stands too far to the left. -/

namespace Verdict.Document

/-- Punctuation that ends a plain scalar inside brackets. -/
def isFlowMark (c : Point) : Bool := (",?[]\x7b\x7d" : Text).toList.contains c

/-- Characters that no plain scalar begins with, blanks and breaks apart. -/
def isIndicator (c : Point) : Bool :=
  ("-?:,[]\x7b\x7d#&*!|>'\"%@\x60" : Text).toList.contains c

/-- Whether a plain scalar begins with this text. -/
def startsPlain (flow : Bool) : List Point → Bool
  | [] => false
  | c :: cs =>
    !(isGap c || isIndicator c) || (!atGap cs && (c = '-' || (!flow && (c = '?' || c = ':'))))

/-- Whether a plain scalar ends before a character with this text after it. -/
def endsPlain (flow : Bool) (c : Point) (cs : List Point) : Bool :=
  isGap c || (flow && isFlowMark c) ||
    (c = ':' && (atGap cs || (flow && cs.head?.any (",[]\x7b\x7d" : Text).toList.contains)))

/-- What a plain scalar consists of and leaves. -/
structure Plain where
  text : List Point
  rest : List Point
  /-- Whether a line was ended after the last word. -/
  broken : Bool

def Plain.prepend (cs : List Point) (p : Plain) : Plain := { p with text := cs ++ p.text }

/-- A plain scalar outside or inside brackets, whose lines after the first begin at `indent`
or further right. The gap is what stands before this place, after which `column` is the
column of a new line; there is none within a word. -/
def readPlain (flow : Bool) (indent : Nat) (gap : Option Gap) (column : Nat) : List Point → Plain
  | [] => ⟨[], [], gap.any Gap.isBroken⟩
  | c :: cs =>
    let g := gap.getD .none
    if c = ' ' then readPlain flow indent (some (g.addSpace c)) (column + 1) cs
    else if isBreak c then
      if atMarker cs then ⟨[], cs, true⟩
      else readPlain flow indent (some (g.addBreak c)) 0 cs
    else if endsPlain flow c cs then ⟨[], c :: cs, g.isBroken⟩
    else if gap.isSome && (c = '#' || (!flow && g.isBroken && column < indent)) then
      ⟨[], c :: cs, g.isBroken⟩
    else (readPlain flow indent none column cs).prepend (g.text ++ [c])

end Verdict.Document
