import Verdict.Document.Lexeme
import Verdict.Document.Scalar

/-! The nodes of a document: scalars, sequences and mappings under their tags. An alias
is the node that its anchor stands at. -/

namespace Verdict.Document

inductive Node where
  | scalar (tag : Tag) (text : List Point)
  | sequence (tag : Tag) (items : List Node)
  | mapping (tag : Tag) (entries : List (Node × Node))

namespace Node

/-- What stands where nothing is written. -/
def empty : Node := .scalar .null []

/-! ### Lexemes in turn -/

/-- What is left to read, and what is known from what was read. -/
structure Reading where
  lexemes : List Lexeme
  anchors : List (List Point × Node) := []
  /-- What handles stand for. -/
  handles : List (Text × Text) := [("!", "!"), ("!!", tagSpace)]

abbrev Reader := StateT Reading (Except DocumentError)

/-- The next lexeme, if there is one. -/
def peek : Reader (Option Lexeme) := do
  match (← get).lexemes with
  | [] => return none
  | .stop e :: _ => throw e
  | l :: _ => return some l

def skip : Reader Unit := modify fun r => { r with lexemes := r.lexemes.tail }

/-- Skips the next lexeme if it is this one, and says whether it was. -/
def accept (l : Lexeme) : Reader Bool := do
  if (← peek) = some l then
    skip
    return true
  return false

def expect (l : Lexeme) : Reader Unit := do
  unless ← accept l do throw .malformed

/-- Whether the next lexeme is one of these. -/
def isNext (ls : List Lexeme) : Reader Bool := return (← peek).any ls.contains

/-! ### Properties -/

/-- What is said about the kind of a node. -/
inductive Intent where
  | unsaid
  /-- The look of the text decides, though it may be quoted. -/
  | byLook
  | given (tag : Tag)

def Intent.orElse (i : Intent) (tag : Tag) : Tag :=
  match i with
  | .given t => t
  | _ => tag

/-- The tag of a scalar: unless it is given, a text in quotes is a text. -/
def Intent.ofScalar (i : Intent) (text : List Point) (isPlain : Bool) : Tag :=
  match i with
  | .given t => t
  | .byLook => tagOfPlain text
  | .unsaid => if isPlain then tagOfPlain text else .text

def intentOf : WrittenTag → Reader Intent
  | .unspecified | .full "!" => return .byLook
  | .full name => return .given (.ofName name)
  | .short handle name => do
    let some full := (← get).handles.lookup handle | throw .malformed
    return .given (.ofName (full ++ name))

def readAnchor : Reader (Option (List Point)) := do
  match ← peek with
  | some (.anchor name) =>
    skip
    return some name
  | _ => return none

def readIntent : Reader Intent := do
  match ← peek with
  | some (.tag t) =>
    skip
    intentOf t
  | _ => return .unsaid

/-- The anchor and the tag in front of a node, in either order. -/
def readProperties : Reader (Option (List Point) × Intent) := do
  match ← readAnchor with
  | some name => return (some name, ← readIntent)
  | none =>
    let intent ← readIntent
    match intent with
    | .unsaid => return (none, intent)
    | _ => return (← readAnchor, intent)

/-- Sets the node at an anchor. -/
def bind (anchor : Option (List Point)) (node : Node) : Reader Unit := do
  if let some name := anchor then
    modify fun r => { r with anchors := (name, node) :: r.anchors }

/-! ### Nodes -/

mutual

/-- A node; outside brackets it may be a collection that indentation opened, and after a
key the dashes of a sequence need no indentation. -/
def read (fuel : Nat) (block bare : Bool) : Reader Node := do
  match fuel with
  | 0 => throw .malformed
  | n + 1 =>
    if let some (.alias name) ← peek then
      skip
      let some node := (← get).anchors.lookup name | throw .malformed
      return node
    let (anchor, intent) ← readProperties
    if let some name := anchor then
      if ((← get).anchors.lookup name).isSome then throw .malformed
    bind anchor .empty
    let node ← readContent n block bare anchor.isSome intent
    bind anchor node
    return node

def readContent (fuel : Nat) (block bare anchored : Bool) (intent : Intent) : Reader Node := do
  match fuel with
  | 0 => throw .malformed
  | n + 1 =>
    match ← peek, block with
    | some (.scalar text isPlain), _ =>
      skip
      return .scalar (intent.ofScalar text isPlain) text
    | some .listOpen, _ =>
      skip
      return .sequence (intent.orElse .sequence) (← readList n true)
    | some .braceOpen, _ =>
      skip
      return .mapping (intent.orElse .mapping) (← readBraces n true)
    | some .sequenceStart, true =>
      skip
      return .sequence (intent.orElse .sequence) (← readItems n)
    | some .mappingStart, true =>
      skip
      return .mapping (intent.orElse .mapping) (← readEntries n)
    | l, _ =>
      if bare && l = some .dash then
        return .sequence (intent.orElse .sequence) (← readBareItems n)
      match anchored, intent with
      | false, .unsaid => throw .malformed
      | _, _ => return .scalar (intent.ofScalar [] true) []

/-- A node, or nothing where one of these lexemes follows. -/
def readUnless (fuel : Nat) (block bare : Bool) (stops : List Lexeme) : Reader Node := do
  match fuel with
  | 0 => throw .malformed
  | n + 1 => if ← isNext stops then return .empty else read n block bare

/-- The items of a sequence up to the end of its indentation. -/
def readItems (fuel : Nat) : Reader (List Node) := do
  match fuel with
  | 0 => throw .malformed
  | n + 1 =>
    if ← accept .blockEnd then return []
    expect .dash
    let item ← readUnless n true false [.dash, .blockEnd]
    return item :: (← readItems n)

/-- The items of a sequence that stands at the column of its key. -/
def readBareItems (fuel : Nat) : Reader (List Node) := do
  match fuel with
  | 0 => throw .malformed
  | n + 1 =>
    unless ← accept .dash do return []
    let item ← readUnless n true false [.dash, .key, .value, .blockEnd]
    return item :: (← readBareItems n)

/-- What follows a key: a colon and a node, or nothing. -/
def readValue (fuel : Nat) (block : Bool) (stops : List Lexeme) : Reader Node := do
  match fuel with
  | 0 => throw .malformed
  | n + 1 => if ← accept .value then readUnless n block block stops else return .empty

/-- The entries of a mapping up to the end of its indentation. -/
def readEntries (fuel : Nat) : Reader (List (Node × Node)) := do
  match fuel with
  | 0 => throw .malformed
  | n + 1 =>
    if ← accept .blockEnd then return []
    expect .key
    let stops := [.key, .value, .blockEnd]
    let key ← readUnless n true true stops
    let value ← readValue n true stops
    return (key, value) :: (← readEntries n)

/-- The items of a sequence up to its closing bracket. A key makes an item a mapping of
one entry. -/
def readList (fuel : Nat) (first : Bool) : Reader (List Node) := do
  match fuel with
  | 0 => throw .malformed
  | n + 1 =>
    if ← accept .listClose then return []
    unless first do expect .comma
    if ← accept .listClose then return []
    if ← accept .key then
      let key ← readUnless n false false [.value, .comma, .listClose]
      let value ← readValue n false [.comma, .listClose]
      return .mapping .mapping [(key, value)] :: (← readList n false)
    let item ← read n false false
    return item :: (← readList n false)

/-- The entries of a mapping up to its closing brace. -/
def readBraces (fuel : Nat) (first : Bool) : Reader (List (Node × Node)) := do
  match fuel with
  | 0 => throw .malformed
  | n + 1 =>
    if ← accept .braceClose then return []
    unless first do expect .comma
    if ← accept .braceClose then return []
    if ← accept .key then
      let key ← readUnless n false false [.value, .comma, .braceClose]
      let value ← readValue n false [.comma, .braceClose]
      return (key, value) :: (← readBraces n false)
    let key ← read n false false
    return (key, .empty) :: (← readBraces n false)

end

/-! ### Documents -/

/-- The directives in front of a document. No kind and no handle comes twice. -/
def readDirectives (versioned : Bool) (own : List (Text × Text)) : Nat → Reader Unit
  | 0 => throw .malformed
  | n + 1 => do
    match ← peek with
    | some (.directive d) =>
      skip
      match d with
      | .version major =>
        if versioned || major ≠ 1 then throw .malformed
        readDirectives true own n
      | .handle short full =>
        if (own.lookup short).isSome then throw .malformed
        readDirectives versioned ((short, full) :: own) n
      | .other => readDirectives versioned own n
    | _ => modify fun r => { r with handles := own ++ r.handles }

/-- The one document of a text, and nothing after it. -/
def readDocument (fuel : Nat) : Reader (Option Node) := do
  match ← peek with
  | none => return none
  | some l =>
    let marked := match l with
      | .directive _ | .documentStart => true
      | _ => false
    let mut isEmpty := false
    if marked then
      readDirectives false [] fuel
      expect .documentStart
      isEmpty := match ← peek with
        | none | some .documentStart | some .documentEnd | some (.directive _) => true
        | _ => false
    let node ← if isEmpty then pure .empty else read fuel true false
    modify fun r => { r with lexemes := r.lexemes.dropWhile (· == .documentEnd) }
    match ← peek with
    | none => return some node
    | some _ => throw .malformed

/-- The node that lexemes write, if they write any. -/
def ofLexemes (ls : List Lexeme) : Except DocumentError (Option Node) :=
  (readDocument (4 * ls.length + 4)).run' { lexemes := ls }

end Node

end Verdict.Document
