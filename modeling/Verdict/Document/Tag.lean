import Verdict.Document.Cursor
import Verdict.Text.Unit
import Verdict.Text.Utf8

/-! Tags, which name the kind of a node. One is written with a handle that stands for
the beginning of the name, or in full. -/

namespace Verdict.Document

inductive Tag where
  | null | boolean | integer | real | binary | timestamp | pairs | set | text | sequence | mapping
  /-- Marks the key whose value is merged into the mapping around it. -/
  | merge
  | value
  | unknown
  deriving DecidableEq

def tagNames : List (Text × Tag) := [
  ("null", .null), ("bool", .boolean), ("int", .integer), ("float", .real), ("binary", .binary),
  ("timestamp", .timestamp), ("omap", .pairs), ("pairs", .pairs), ("set", .set), ("str", .text),
  ("seq", .sequence), ("map", .mapping), ("merge", .merge), ("value", .value)]

/-- What the full names of the known tags begin with. -/
def tagSpace : Text := "tag:yaml.org,2002:"

/-- The tag with a full name. -/
def Tag.ofName (name : Text) : Tag :=
  ((tagNames.find? fun (short, _) => tagSpace ++ short = name).map (·.2)).getD .unknown

/-- A tag as it is written. -/
inductive WrittenTag where
  /-- A lone mark, which leaves the kind open. -/
  | unspecified
  | full (name : Text)
  | short (handle name : Text)
  deriving DecidableEq

def isUriChar (c : Point) : Bool :=
  c.isAlphanum || ("-;/?:@&=+$,_.!~*'()[]" : Text).toList.contains c

/-- The bytes of a name; those of other characters are written as a mark and two digits. -/
def uriBytes : List Point → Option (List UInt8 × List Point)
  | .char '%' :: a :: b :: cs => do
    let n ← Text.readHex? [a, b]
    let (bytes, rest) ← uriBytes cs
    return (n.toUInt8 :: bytes, rest)
  | c :: cs =>
    if c = '%' then none
    else if isUriChar c then
      (uriBytes cs).map fun (bytes, rest) => (c.toNat.toUInt8 :: bytes, rest)
    else some ([], c :: cs)
  | [] => some ([], [])

/-- A name and the text after it. -/
def readUri (cs : List Point) : Except DocumentError (Text × List Point) :=
  match uriBytes cs with
  | none | some ([], _) => .error .malformed
  | some (bytes, rest) =>
    match Text.decodeUtf8 0 bytes with
    | .ok name => .ok (.ofList name, rest)
    | .error _ => .error .malformed

/-- A handle, with its marks, and the text after it. One mark alone is a handle when no
other one follows before the next blank. -/
def readHandle (cs : List Point) : Except DocumentError (Text × List Point) :=
  let word := cs.takeWhile fun c => !(c = .char ' ' || isBreak c)
  if word.contains '!' then
    let name := cs.takeWhile isNameChar
    match cs.drop name.length with
    | .char '!' :: rest => .ok (.ofList ('!' :: (name ++ [.char '!'])), rest)
    | _ => .error .malformed
  else .ok ("!", cs)

/-- Refuses a tag that is not followed by a blank. -/
def closeTag (tag : WrittenTag) (rest : List Point) :
    Except DocumentError (WrittenTag × List Point) :=
  if rest.head?.all (fun c => c = .char ' ' || isBreak c) then .ok (tag, rest)
  else .error .malformed

/-- A tag whose first mark is behind, and the text after it. -/
def readTag (cs : List Point) : Except DocumentError (WrittenTag × List Point) :=
  if atGap cs then closeTag .unspecified cs
  else match cs with
    | .char '<' :: r => do
      match ← readUri r with
      | (name, .char '>' :: rest) => closeTag (.full name) rest
      | _ => throw .malformed
    | _ => do
      let (handle, r) ← readHandle cs
      let (name, rest) ← readUri r
      closeTag (.short handle name) rest

end Verdict.Document
