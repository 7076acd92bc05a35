import Verdict.Document.Node

/-! The data of a document. Collections are filled level by level, so that of several
faults the one nearest to the root comes first, and on one level the one written first. -/

namespace Verdict.Document

/-! ### Levels -/

/-- A result, or the fault that comes first and the level below where it arises. -/
abbrev Staged (α : Type) := Except (Nat × DocumentError) α

namespace Staged

variable {α β : Type}

def fail (level : Nat) : Staged α := .error (level, .malformed)

def ofExcept (x : Except DocumentError α) : Staged α := x.mapError fun e => (0, e)

/-- The same one level further down. -/
def deeper (x : Staged α) : Staged α := x.mapError fun (level, e) => (level + 1, e)

/-- Both results, or the fault of the higher level; on one level the first. -/
def both : Staged α → Staged β → Staged (α × β)
  | .ok a, .ok b => .ok (a, b)
  | .error e, .ok _ => .error e
  | .ok _, .error e => .error e
  | .error e, .error e' => .error (if e'.1 < e.1 then e' else e)

def all : List (Staged α) → Staged (List α)
  | [] => .ok []
  | x :: xs => (both x (all xs)).map fun (a, as) => a :: as

end Staged

/-! ### Keys -/

/-- The number that a key counts as: truth values are zero and one. -/
def keyNumber? : Datum → Option Number
  | .boolean b => some (.int (if b then 1 else 0))
  | .number n => some n
  | _ => none

/-- Whether two keys are the same. -/
def sameKey (a b : Datum) : Bool :=
  match keyNumber? a, keyNumber? b with
  | some m, some n => m.eqv n || (m.isNaN && n.isNaN)
  | none, none =>
    match a, b with
    | .null, .null => true
    | .string s, .string t => s = t
    | .other k s, .other l t => k = l && s = t
    | _, _ => false
  | _, _ => false

/-- Sets the value of a key: a new key goes to the end, an old one stays as it was. -/
def setEntry (key value : Datum) : List (Datum × Datum) → List (Datum × Datum)
  | [] => [(key, value)]
  | (k, v) :: rest =>
    if sameKey k key then (k, value) :: rest else (k, v) :: setEntry key value rest

def ofEntries (entries : List (Datum × Datum)) : List (Datum × Datum) :=
  entries.foldl (fun kvs (k, v) => setEntry k v kvs) []

/-! ### Nodes -/

/-- Whether data with a tag is filled after it is put in its place. -/
def Tag.isFilled : Tag → Bool
  | .sequence | .mapping | .set | .pairs => true
  | _ => false

/-- The level at which a node of another shape than its tag is refused. -/
def Tag.refusal (tag : Tag) : Nat := if tag.isFilled then 1 else 0

namespace Node

def tag : Node → Tag
  | .scalar t _ | .sequence t _ | .mapping t _ => t

mutual

/-- The text of a node that is read as a scalar: a mapping has the one under its key
for a value. -/
def scalarText : Node → Option (List Point)
  | .scalar _ text => some text
  | .sequence .. => none
  | .mapping _ entries => valueText entries

def valueText : List (Node × Node) → Option (List Point)
  | [] => none
  | (.scalar .value _, v) :: _ => scalarText v
  | _ :: rest => valueText rest

end

/-- An entry of a mapping on its level. -/
abbrev Entry := Staged (Datum × Datum)

def entry (key : Staged Datum) (tag : Tag) (value : Staged Datum) : Entry :=
  let usable : Staged Unit := if tag.isFilled then .fail 0 else .ok ()
  (Staged.both key (Staged.both usable value)).map fun (k, _, v) => (k, v)

mutual

def build : Node → Staged Datum
  | .scalar tag text =>
    if tag.isFilled then .fail 1 else .ofExcept (readScalar tag text)
  | .sequence tag items =>
    match tag with
    | .sequence => (Staged.all (buildItems items)).deeper.map .list
    | .pairs => (Staged.all (buildPairs items)).deeper.map .list
    | tag => .fail tag.refusal
  | .mapping tag entries =>
    match tag with
    | .mapping => (buildMapping entries).deeper.map .mapping
    | .set => (buildMapping entries).deeper.map fun _ => .other .set "set"
    | tag =>
      match valueText entries with
      | some text => if tag.isFilled then .fail 1 else .ofExcept (readScalar tag text)
      | none => .fail tag.refusal

def buildItems : List Node → List (Staged Datum)
  | [] => []
  | n :: ns => build n :: buildItems ns

/-- Pairs from mappings of one entry each. -/
def buildPairs : List Node → List (Staged Datum)
  | [] => []
  | .mapping _ [(k, v)] :: ns =>
    ((build k).both (build v)).map (fun _ => .other .pair "pair") :: buildPairs ns
  | _ :: ns => .fail 0 :: buildPairs ns

def buildMapping : List (Node × Node) → Staged (List (Datum × Datum))
  | entries =>
    match gather entries with
    | some (merged, own) => (Staged.all (merged ++ own)).map ofEntries
    | none => .fail 0

/-- Entries that are merged in, and a mapping's own ones. -/
def gather : List (Node × Node) → Option (List Entry × List Entry)
  | [] => some ([], [])
  | (.scalar .merge _, v) :: rest => do
    let source ← sourceOf v
    let (merged, own) ← gather rest
    return (source ++ merged, own)
  | (.scalar .value text, v) :: rest => do
    let (merged, own) ← gather rest
    return (merged, entry (.ok (.string (.ofList text))) .text (build v) :: own)
  | (k, v) :: rest => do
    let (merged, own) ← gather rest
    return (merged, entry (build k) k.tag (build v) :: own)

/-- The entries of a mapping or of the mappings of a sequence. What comes first in the
sequence counts more, and so it comes last. -/
def sourceOf : Node → Option (List Entry)
  | .mapping _ entries => do
    let (merged, own) ← gather entries
    return merged ++ own
  | .sequence _ items => sourcesOf items
  | .scalar .. => none

def sourcesOf : List Node → Option (List Entry)
  | [] => some []
  | .mapping _ entries :: rest => do
    let (merged, own) ← gather entries
    return (← sourcesOf rest) ++ (merged ++ own)
  | _ :: _ => none

end

end Node

/-- The datum of a document; one without content gives nothing. -/
def readDatum (text : List Point) : Except DocumentError Datum := do
  match ← Node.ofLexemes (lexemes text) with
  | none => return .null
  | some node => (node.build).mapError (·.2)

end Verdict.Document
