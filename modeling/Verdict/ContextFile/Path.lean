import Verdict.Text.Point

/-! Paths of files, by their parts. Empty parts and those that name the place itself do
not count; those that lead upward do. -/

namespace Verdict

/-- What a path is relative to. -/
inductive Anchor where
  | here
  | root
  /-- The root that two slashes name. -/
  | otherRoot
  deriving DecidableEq

structure Path where
  anchor : Anchor
  parts : List Text
  deriving DecidableEq

namespace Path

def anchorOf : List Point → Anchor
  | .char '/' :: .char '/' :: .char '/' :: _ => .root
  | .char '/' :: .char '/' :: _ => .otherRoot
  | .char '/' :: _ => .root
  | _ => .here

def ofText (text : Text) : Path where
  anchor := anchorOf text.toList
  parts :=
    ((text.toList.splitOn (.char '/')).filter fun part => part ≠ [] && part ≠ [.char '.']).map
      .ofList

def anchorText : Anchor → Text
  | .here => ""
  | .root => "/"
  | .otherRoot => "//"

def text (p : Path) : Text :=
  if p.anchor = .here ∧ p.parts = [] then "."
  else anchorText p.anchor ++ Text.intercalate "/" p.parts

end Path

end Verdict
