import Verdict.Datum
import Verdict.Text.Word
import Verdict.Token.Segment

/-! Tokens: the name of a value, alone or passed through a transform. A text is token
text when it consists of spans only, each with a valid body; its first token counts. -/

namespace Verdict

structure Token where
  name : Text
  function : Option Text
  deriving DecidableEq

namespace Token

/-- Characters that no name holds. -/
def isBracket (c : Point) : Bool := c = '{' || c = '}' || c = '(' || c = ')'

def isNameStart (c : Point) : Bool := c.isAlpha || c = '_'

def isNamePart (c : Point) : Bool := Text.isWord c || c = '-'

/-- The transform name and the argument of a body of the form `name(argument)`. -/
def splitCall (body : List Point) : Option (List Point × List Point) :=
  match body with
  | [] => none
  | c :: cs =>
    match cs.dropWhile isNamePart with
    | .char '(' :: inner =>
      if isNameStart c && inner.getLast? == some (.char ')') then
        some (c :: cs.takeWhile isNamePart, inner.dropLast)
      else none
    | _ => none

/-- The trimmed text as the name of a value, if it can be one. -/
def nameOf? (cs : List Point) : Option Text :=
  let name := Text.trim cs
  if name = [] ∨ name.any isBracket then none else some (.ofList name)

/-- The token between two delimiters: a name, or a transform name and a name in parentheses. -/
def ofBody? (body : List Point) : Option Token :=
  match splitCall (Text.trim body) with
  | some (function, argument) => (nameOf? argument).map (⟨·, some (.ofList function)⟩)
  | none => (nameOf? body).map (⟨·, none⟩)

/-- The tokens of a text cut into nothing but valid spans. -/
def ofSegments? : List Segment → Option (List Token)
  | [] => some []
  | .plain [] :: rest => ofSegments? rest
  | .plain (_ :: _) :: _ => none
  | .span body :: rest => do return (← ofBody? body) :: (← ofSegments? rest)

/-- All tokens of a token text in the braces of the rule language. -/
def all? (text : List Point) : Option (List Token) := ofSegments? (segments .default text)

/-- The token that a text stands for: the first one of a token text. -/
def parse? (text : List Point) : Option Token := (all? text).bind List.head?

/-- The token that a datum stands for; only texts can be tokens. -/
def ofDatum? (d : Datum) : Option Token := d.word?.bind fun s => parse? s.toList

end Token

/-! ### Spans in place -/

/-- A span with the positions of its first character and of the character after it. -/
structure Span where
  start : Nat
  stop : Nat
  source : List Point
  token : Option Token

/-- The spans among segments of which the first begins at `position`. -/
def Span.ofSegments (d : Delimiter) (position : Nat) : List Segment → List Span
  | [] => []
  | .plain text :: rest => ofSegments d (position + text.length) rest
  | .span body :: rest =>
    let source := Segment.source d (.span body)
    let stop := position + source.length
    ⟨position, stop, source, Token.ofBody? body⟩ :: ofSegments d stop rest

/-- Every span of a text, whether its body is a token or not. -/
def spans (d : Delimiter) (text : List Point) : List Span := Span.ofSegments d 0 (segments d text)

/-- The text of a datum that has to be one. -/
def Datum.requireText (d : Datum) : Except Fault Text :=
  match d.word? with
  | some s => .ok s
  | none => .error (.notText d.kind)

end Verdict
