import Verdict.Context

/-! Templates: text in which each token stands for the text of its value. Spans without
a valid token stay as they are, and what was put in is not looked at again. -/

namespace Verdict.Template

/-- The text that a segment leaves. -/
def renderSegment (ctx : Context) (d : Delimiter) (s : Segment) : Traced (List Point) :=
  match s with
  | .plain text => return text
  | .span body =>
    match Token.ofBody? body with
    | none => return s.source d
    | some t => do
      let v ← ctx.resolveToken t
      return (← .ofExcept v.text).toList

def renderSegments (ctx : Context) (d : Delimiter) : List Segment → Traced (List Point)
  | [] => return []
  | s :: rest => do return (← renderSegment ctx d s) ++ (← renderSegments ctx d rest)

/-- Renders a text. -/
def renderText (ctx : Context) (d : Delimiter) (text : List Point) : Traced (List Point) :=
  renderSegments ctx d (segments d text)

/-- Renders a template; one that is not given renders as the empty text. -/
def render (ctx : Context) (d : Delimiter) (template : Datum) : Traced Text :=
  if template.isGiven then do
    let s ← .ofExcept template.requireText
    return .ofList (← renderText ctx d s.toList)
  else return ""

end Verdict.Template
