import Verdict.Document.Cursor

/-! Block scalars: lines of text with an indentation of their own, kept as they are or
folded into paragraphs. -/

namespace Verdict.Document

/-- What becomes of the breaks at the end. -/
inductive Chomping where
  | strip | clip | keep
  deriving DecidableEq

structure BlockHeader where
  chomping : Chomping := .clip
  /-- How far the text stands to the right of what is around it, if that is written. -/
  increment : Option Nat := none

/-- A digit for an indentation; zero is none. -/
def increment? (c : Point) : Option Nat :=
  if c.isDigit && c ≠ '0' then some (c.toNat - '0'.toNat) else none

def chomping? (c : Point) : Option Chomping :=
  if c = '+' then some .keep else if c = '-' then some .strip else none

/-- The marks after the first character, in either order. -/
def readMarks (cs : List Point) : BlockHeader × List Point :=
  match cs with
  | [] => ({}, [])
  | c :: r =>
    match chomping? c, increment? c with
    | some chomping, _ =>
      match r with
      | d :: r' =>
        match increment? d with
        | some n => (⟨chomping, some n⟩, r')
        | none => (⟨chomping, none⟩, r)
      | [] => (⟨chomping, none⟩, [])
    | none, some n =>
      match r with
      | d :: r' =>
        match chomping? d with
        | some chomping => (⟨chomping, some n⟩, r')
        | none => ({ increment := some n }, r)
      | [] => ({ increment := some n }, [])
    | none, none => ({}, cs)

/-- The text from the next line on, if nothing but blanks and a comment ends this one. -/
def endLine? (cs : List Point) : Option (List Point) :=
  let cs := cs.dropWhile (· = .char ' ')
  let cs := if cs.head? = some (.char '#') then cs.dropWhile (!isBreak ·) else cs
  match cs with
  | [] => some []
  | c :: rest => if isBreak c then some rest else none

def readHeader (cs : List Point) : Except DocumentError (BlockHeader × List Point) :=
  let (header, rest) := readMarks cs
  if !rest.head?.all (fun c => c = .char ' ' || isBreak c) then .error .malformed
  else match endLine? rest with
    | some rest => .ok (header, rest)
    | none => .error .malformed

/-- Breaks that were skipped, the column reached, and the text from there on. -/
structure Skipped where
  breaks : List Point
  column : Nat
  /-- The greatest column that blanks reached. -/
  deepest : Nat
  rest : List Point

/-- Skips empty lines and blanks as far as a column, or as far as they go. -/
def skipLines (limit : Option Nat) (column deepest : Nat) : List Point → Skipped
  | [] => ⟨[], column, deepest, []⟩
  | c :: cs =>
    if c = ' ' && limit.all (column < ·) then
      skipLines limit (column + 1) (max deepest (column + 1)) cs
    else if isBreak c then
      let r := skipLines limit 0 deepest cs
      { r with breaks := breakOf c :: r.breaks }
    else ⟨[], column, deepest, c :: cs⟩

theorem length_skipLines_le (limit : Option Nat) (column deepest : Nat) (cs : List Point) :
    (skipLines limit column deepest cs).rest.length ≤ cs.length := by
  fun_induction skipLines limit column deepest cs with
  | case1 => exact Nat.le_refl _
  | case2 _ _ _ _ _ ih => exact Nat.le_succ_of_le ih
  | case3 _ _ _ _ _ _ _ ih => exact Nat.le_succ_of_le ih
  | case4 => exact Nat.le_refl _

/-- The text of the lines, the break of the last one, empty lines after it and the rest. -/
structure BlockBody where
  text : List Point := []
  lastBreak : List Point := []
  breaks : List Point := []
  rest : List Point

/-- What stands between two lines in place of the break. Lines that begin with no blank
fold: one break becomes a space, of several the first is dropped. -/
def joint (folded : Bool) (lineBreak breaks : List Point) (first next : Point) : List Point :=
  if folded && lineBreak = [.char '\n'] && !isSpace first && !isSpace next then
    if breaks = [] then [.char ' '] else []
  else lineBreak

/-- The lines from one on that begins here, at the indentation. -/
def readLines (folded : Bool) (indent : Nat) : List Point → BlockBody
  | [] => { rest := [] }
  | c :: cs =>
    let line := c :: cs.takeWhile (!isBreak ·)
    match _h : cs.dropWhile (!isBreak ·) with
    | [] => { text := line, rest := [] }
    | b :: after =>
      let s := skipLines (some indent) 0 0 after
      match _hs : s.rest with
      | next :: more =>
        if s.column = indent then
          let body := readLines folded indent (next :: more)
          { body with
            text := line ++ joint folded [breakOf b] s.breaks c next ++ s.breaks ++ body.text }
        else ⟨line, [breakOf b], s.breaks, s.rest⟩
      | [] => ⟨line, [breakOf b], s.breaks, s.rest⟩
termination_by cs => cs.length
decreasing_by
  have h1 := length_skipLines_le (some indent) 0 0 after
  have h2 := (List.dropWhile_sublist (!isBreak ·) (l := cs)).length_le
  rw [_h] at h2
  rw [_hs] at h1
  simp only [List.length_cons] at h1 h2 ⊢
  omega

/-- The content of a block scalar whose first mark is behind, and the text after it. It
stands at `least` or further right. -/
def readBlock (folded : Bool) (least : Nat) (cs : List Point) :
    Except DocumentError (List Point × List Point) := do
  let (header, cs) ← readHeader cs
  let s := skipLines (header.increment.map (least + · - 1)) 0 0 cs
  let indent := (header.increment.map (least + · - 1)).getD (max least s.deepest)
  let body := if s.column = indent && s.rest ≠ [] then readLines folded indent s.rest
    else { rest := s.rest }
  let started := s.column = indent && s.rest ≠ []
  let text := (if started then s.breaks else []) ++ body.text
  let breaks := if started then body.breaks else s.breaks
  return (text ++ (if header.chomping = .strip then [] else body.lastBreak) ++
    (if header.chomping = .keep then breaks else []), body.rest)

end Verdict.Document
