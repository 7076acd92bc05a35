import Verdict.Document.Block
import Verdict.Document.Plain
import Verdict.Document.Tag
import Verdict.Number.Numeral

/-! The lexemes of a document. Outside brackets indentation opens and closes collections,
and a key is known as one only at the colon after it, so that the lexemes that begin a
mapping and a key are put in afterwards, at the place where the key began. -/

namespace Verdict.Document

inductive Directive where
  | version (major : Nat)
  | handle (short full : Text)
  | other
  deriving DecidableEq

inductive Lexeme where
  | directive (d : Directive)
  | documentStart
  | documentEnd
  | sequenceStart
  | mappingStart
  /-- The end of a collection that indentation opened. -/
  | blockEnd
  | listOpen
  | listClose
  | braceOpen
  | braceClose
  | comma
  | dash
  | key
  | value
  | alias (name : List Point)
  | anchor (name : List Point)
  | tag (t : WrittenTag)
  | scalar (text : List Point) (isPlain : Bool)
  /-- From here on the text cannot be taken apart. -/
  | stop (e : DocumentError)
  deriving DecidableEq

/-- The place where a key may have begun. -/
structure KeyStart where
  /-- How many lexemes stand before it. -/
  position : Nat
  /-- Whether nothing but a key can begin here. -/
  required : Bool
  place : Cursor

/-- A text that is taken apart as far as a place. -/
structure Lexer where
  cursor : Cursor
  /-- The columns of the collections that indentation opened, innermost first. -/
  indents : List Nat := []
  /-- Where a key may have begun: outside brackets and in each open one, innermost first. -/
  keys : List (Option KeyStart) := [none]
  /-- Whether a key may begin here. -/
  allowsKey : Bool := true
  count : Nat := 0
  /-- The lexemes so far, last first. -/
  lexemes : List Lexeme := []

namespace Lexer

def inBrackets (s : Lexer) : Bool := s.keys.length > 1

def column (s : Lexer) : Nat := s.cursor.column

/-- The column where text inside the innermost open collection begins. -/
def inner (s : Lexer) : Nat :=
  match s.indents with
  | [] => 0
  | column :: _ => column + 1

/-! ### Lexemes -/

def emit (l : Lexeme) (s : Lexer) : Lexer :=
  { s with lexemes := l :: s.lexemes, count := s.count + 1 }

/-- Puts a lexeme in after the first `position` others. -/
def insert (position : Nat) (l : Lexeme) (s : Lexer) : Lexer :=
  let later := s.count - position
  { s with
    lexemes := s.lexemes.take later ++ l :: s.lexemes.drop later
    count := s.count + 1 }

def skip (n : Nat) (s : Lexer) : Lexer := { s with cursor := s.cursor.advance n }

def seek (rest : List Point) (s : Lexer) : Lexer := { s with cursor := s.cursor.seek rest }

def allow (allowed : Bool) (s : Lexer) : Lexer := { s with allowsKey := allowed }

/-- A lexeme of one character. -/
def mark (l : Lexeme) (s : Lexer) : Lexer := (s.emit l).skip 1

/-! ### Indentation -/

/-- Closes the collections that stand to the right of a column, or all of them. -/
def unindent (column : Option Nat) (s : Lexer) : Lexer :=
  if s.inBrackets then s
  else
    let closed := s.indents.takeWhile fun c => column.all (· < c)
    closed.foldl (fun s _ => s.emit .blockEnd) { s with indents := s.indents.drop closed.length }

/-- Whether a collection at a column is a new one. -/
def isDeeper (column : Nat) (s : Lexer) : Bool := s.indents.head?.all (· < column)

/-- Opens a collection at this column unless one is open there. -/
def indent (opening : Lexeme) (s : Lexer) : Lexer :=
  if s.isDeeper s.column then { s.emit opening with indents := s.column :: s.indents } else s

/-! ### Keys -/

/-- Gives up the key that may have begun. -/
def dropKey (s : Lexer) : Except DocumentError Lexer :=
  match s.keys with
  | some k :: outer =>
    if k.required then .error .malformed else .ok { s with keys := none :: outer }
  | _ => .ok s

/-- Notes that a key may begin here. -/
def noteKey (s : Lexer) : Except DocumentError Lexer :=
  if s.allowsKey then do
    let s ← s.dropKey
    let start : KeyStart := {
      position := s.count, required := !s.inBrackets && s.indents.head? = some s.column
      place := s.cursor }
    return { s with keys := some start :: s.keys.tail }
  else .ok s

/-- Whether a key that began there has gone on too long: onto another line or for more
than 1024 characters. -/
def isStale (s : Lexer) (k : KeyStart) : Bool :=
  k.place.line ≠ s.cursor.line || k.place.index + 1024 < s.cursor.index

/-- Gives up the keys that have gone on too long. -/
def dropStale (s : Lexer) : Except DocumentError Lexer :=
  if s.keys.any fun k => k.any fun k => k.required && s.isStale k then .error .malformed
  else .ok { s with keys := s.keys.map fun k => k.filter (!s.isStale ·) }

/-! ### Gaps -/

/-- The text after spaces, comments and breaks, and whether there were breaks. -/
def skipGap (inComment broken : Bool) : List Point → Bool × List Point
  | [] => (broken, [])
  | c :: cs =>
    if isBreak c then skipGap false true cs
    else if inComment then skipGap true broken cs
    else if c = ' ' then skipGap false broken cs
    else if c = '#' then skipGap true broken cs
    else (broken, c :: cs)

/-- Goes on to the next lexeme. On a new line outside brackets a key may begin. -/
def nextLexeme (s : Lexer) : Lexer :=
  let (broken, rest) := skipGap false false s.cursor.rest
  let s := s.seek rest
  if broken && !s.inBrackets then s.allow true else s

/-! ### Steps -/

/-- A text of digits and the text after it. -/
def takeNumber (cs : List Point) : Option (Nat × List Point) :=
  let ds := cs.takeWhile Point.isDigit
  if ds = [] then none else some (Numeral.worth ds, cs.drop ds.length)

/-- A directive after its first mark, and the text from the next line on. -/
def readDirective (cs : List Point) : Except DocumentError (Directive × List Point) := do
  let name := cs.takeWhile isNameChar
  let rest := cs.drop name.length
  unless name ≠ [] && rest.head?.all (fun c => c = .char ' ' || isBreak c) do throw .malformed
  let spaced := rest.dropWhile (· = .char ' ')
  if name = ("YAML" : Text).toList then
    let some (major, r) := takeNumber spaced | throw .malformed
    let .char '.' :: r := r | throw .malformed
    let some (_, r) := takeNumber r | throw .malformed
    unless r.head?.all (fun c => c = .char ' ' || isBreak c) do throw .malformed
    let some r := endLine? r | throw .malformed
    return (.version major, r)
  else if name = ("TAG" : Text).toList then
    let .char '!' :: r := spaced | throw .malformed
    let (handle, r) : Text × List Point := match r with
      | .char ' ' :: _ => ("!", r)
      | _ =>
        let name := r.takeWhile isNameChar
        (.ofList ('!' :: (name ++ [.char '!'])), r.drop name.length)
    let r ← if handle = "!" then pure r else
      match r with
      | .char '!' :: r => pure r
      | _ => throw .malformed
    unless r.head? = some (.char ' ') do throw .malformed
    let (full, r) ← readUri (r.dropWhile (· = .char ' '))
    unless r.head?.all (fun c => c = .char ' ' || isBreak c) do throw .malformed
    let some r := endLine? r | throw .malformed
    return (.handle handle full, r)
  else
    let some r := endLine? (rest.dropWhile (!isBreak ·)) | throw .malformed
    return (.other, r)

/-- Marks that may stand right after a name. -/
def nameEnds : List Point := ("?:,]\x7d%@\x60" : Text).toList

/-- The name after the mark of an anchor or an alias. -/
def readName (cs : List Point) : Except DocumentError (List Point × List Point) :=
  let name := cs.takeWhile isNameChar
  let rest := cs.drop name.length
  if name ≠ [] ∧ (atGap rest || rest.head?.any nameEnds.contains) then
    .ok (name, rest)
  else .error .malformed

/-- A lexeme that may be a key or the beginning of one, read from after its first mark. -/
def keyed (s : Lexer) (cs : List Point)
    (read : List Point → Except DocumentError (Lexeme × List Point)) :
    Except DocumentError Lexer := do
  let s ← s.noteKey
  let (l, rest) ← read cs
  return ((s.allow false).emit l).seek rest

def marker (l : Lexeme) (s : Lexer) : Except DocumentError Lexer := do
  return ((← (s.unindent none).dropKey).allow false |>.emit l).skip 3

def openBracket (l : Lexeme) (s : Lexer) : Except DocumentError Lexer := do
  let s ← s.noteKey
  return { (s.allow true).mark l with keys := none :: s.keys }

def closeBracket (l : Lexeme) (s : Lexer) : Except DocumentError Lexer := do
  let s ← s.dropKey
  return { (s.allow false).mark l with keys := if s.inBrackets then s.keys.tail else s.keys }

/-- An item of a list outside brackets. -/
def dash (s : Lexer) : Except DocumentError Lexer := do
  if s.inBrackets then return (← (s.allow true).dropKey).mark .dash
  unless s.allowsKey do throw .malformed
  return (← ((s.indent .sequenceStart).allow true).dropKey).mark .dash

/-- A key that is marked as one. -/
def markedKey (s : Lexer) : Except DocumentError Lexer := do
  if s.inBrackets then return (← (s.allow false).dropKey).mark .key
  unless s.allowsKey do throw .malformed
  return (← ((s.indent .mappingStart).allow true).dropKey).mark .key

/-- A colon after a key. What may have begun a key did so. -/
def value (s : Lexer) : Except DocumentError Lexer :=
  match s.keys with
  | some k :: outer =>
    let s := { s.insert k.position .key with keys := none :: outer }
    let s := if !s.inBrackets && s.isDeeper k.place.column then
        { s.insert k.position .mappingStart with indents := k.place.column :: s.indents }
      else s
    .ok ((s.allow false).mark .value)
  | _ => do
    if s.inBrackets then return (s.allow false).mark .value
    unless s.allowsKey do throw .malformed
    return ((s.indent .mappingStart).allow true).mark .value

def blockScalar (folded : Bool) (s : Lexer) (cs : List Point) : Except DocumentError Lexer := do
  let s ← s.dropKey
  let (text, rest) ← readBlock folded (max 1 s.inner) cs
  return ((s.allow true).emit (.scalar text false)).seek rest

def plain (s : Lexer) : Except DocumentError Lexer := do
  let s ← s.noteKey
  let p := readPlain s.inBrackets s.inner none 0 s.cursor.rest
  return ((s.allow p.broken).emit (.scalar p.text true)).seek p.rest

def quoted (r : Except DocumentError (List Point × List Point)) :
    Except DocumentError (Lexeme × List Point) :=
  r.map fun (text, rest) => (.scalar text false, rest)

/-- Reads the lexeme that begins here. -/
def step (s : Lexer) (c : Point) (cs : List Point) : Except DocumentError Lexer :=
  if s.column = 0 && c = '%' then do
    let s ← (s.unindent none).dropKey
    let (d, rest) ← readDirective cs
    return ((s.allow false).emit (.directive d)).seek rest
  else if s.column = 0 && atMarker (c :: cs) then
    s.marker (if c = '-' then .documentStart else .documentEnd)
  else match c with
  | .char '[' => s.openBracket .listOpen
  | .char '{' => s.openBracket .braceOpen
  | .char ']' => s.closeBracket .listClose
  | .char '}' => s.closeBracket .braceClose
  | .char ',' => do return (← (s.allow true).dropKey).mark .comma
  | .char '*' => s.keyed cs fun cs => (readName cs).map fun (name, rest) => (.alias name, rest)
  | .char '&' => s.keyed cs fun cs => (readName cs).map fun (name, rest) => (.anchor name, rest)
  | .char '!' => s.keyed cs fun cs => (readTag cs).map fun (tag, rest) => (.tag tag, rest)
  | .char '\'' => s.keyed cs fun cs => quoted (singleQuoted .none cs)
  | .char '"' => s.keyed cs fun cs => quoted (doubleQuoted .none cs)
  | _ =>
    if c = '-' && atGap cs then s.dash
    else if c = '?' && (s.inBrackets || atGap cs) then s.markedKey
    else if c = ':' && (s.inBrackets || atGap cs) then s.value
    else if c = '|' && !s.inBrackets then s.blockScalar false cs
    else if c = '>' && !s.inBrackets then s.blockScalar true cs
    else if startsPlain s.inBrackets (c :: cs) then s.plain
    else .error .malformed

/-- The lexemes in front of the first place where a key may have begun, and a stop. What
comes after that place is settled only together with the next lexeme. -/
def stop (e : DocumentError) (s : Lexer) : List Lexeme :=
  let begun := s.keys.filterMap (·.filter (!s.isStale ·))
  let settled := (begun.map KeyStart.position).foldl min s.count
  (.stop e :: s.lexemes.drop (s.count - settled)).reverse

/-- One step, if there is something left; at the end all collections are closed. -/
def next (s : Lexer) : Except DocumentError (Bool × Lexer) := do
  let s ← s.nextLexeme.dropStale
  match s.cursor.rest with
  | [] => return (false, ← (s.unindent none).dropKey)
  | c :: cs => return (true, ← (s.unindent (some s.column)).step c cs)

/-- Takes the rest apart in at most `fuel` steps; each takes up a character or more. -/
def run : Nat → Lexer → List Lexeme
  | 0, s => s.stop .malformed
  | fuel + 1, s =>
    match s.next with
    | .ok (true, s) => run fuel s
    | .ok (false, s) => s.lexemes.reverse
    | .error e => s.stop e

end Lexer

/-- The lexemes of a text. -/
def lexemes (text : List Point) : List Lexeme :=
  if text.all isAdmitted then Lexer.run (text.length + 1) { cursor := .start text }
  else [.stop .malformed]

end Verdict.Document
