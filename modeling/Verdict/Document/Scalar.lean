import Verdict.Datum
import Verdict.Document.Tag
import Verdict.Document.Timestamp
import Verdict.Text.Lower

/-! Scalars. The look of a plain text decides whether it is a number, a truth value, a
timestamp or nothing, and a tag decides how a text is read. -/

namespace Verdict.Document

/-! ### The look of plain texts -/

/-- Words for truth values, in lower case. -/
def truthWords : List (Text × Bool) := [
  ("yes", true), ("no", false), ("true", true), ("false", false), ("on", true), ("off", false)]

/-- A word in lower case, in upper case, and with a capital. -/
def spellings (word : List Point) : List (List Point) :=
  [word, word.map Point.toUpper, (word.take 1).map Point.toUpper ++ word.drop 1]

def isTruthWord (cs : List Point) : Bool :=
  truthWords.any fun (word, _) => (spellings word.toList).contains cs

def isGroupedDigit (c : Point) : Bool := c.isDigit || c = '_'

/-- An exponent with its sign, or none. -/
def isExponent : List Point → Bool
  | [] => true
  | [_] | [_, _] => false
  | e :: s :: ds => (e = 'e' || e = 'E') && (s = '+' || s = '-') && ds.all Point.isDigit

/-- Part of a number in base sixty after the first: below sixty. -/
def isSixtieth : List Point → Bool
  | [d] => d.isDigit
  | [d, e] => '0' ≤ d && d ≤ '5' && e.isDigit
  | _ => false

/-- Digits with low lines among them but not in front. -/
def isGrouped (cs : List Point) : Bool := cs.head?.any Point.isDigit && cs.all isGroupedDigit

/-- Digits around a point. -/
def isPointed (cs : List Point) : Bool :=
  let whole := cs.takeWhile isGroupedDigit
  match cs.drop whole.length with
  | .char '.' :: r => isGrouped whole && isExponent (r.dropWhile isGroupedDigit)
  | _ => false

/-- A number in base sixty with a point in its last part. -/
def isSexagesimalReal (cs : List Point) : Bool :=
  let (units, rest) := (cs.takeWhile (· ≠ .char '.'), cs.dropWhile (· ≠ .char '.'))
  match rest with
  | .char '.' :: fraction =>
    match units.splitOn (.char ':') with
    | first :: more =>
      isGrouped first && !more.isEmpty && more.all isSixtieth && fraction.all isGroupedDigit
    | [] => false
  | _ => false

def unsigned (cs : List Point) : List Point :=
  match cs with
  | c :: r => if c = '+' ∨ c = '-' then r else cs
  | [] => []

def isReal (cs : List Point) : Bool :=
  let r := unsigned cs
  isPointed r || isSexagesimalReal r ||
    List.elem (Text.ofList r) [".inf", ".Inf", ".INF"] ||
    List.elem (Text.ofList cs) [".nan", ".NaN", ".NAN"] ||
    (match cs with
      | .char '.' :: d :: ds => d.isDigit && isExponent (ds.dropWhile isGroupedDigit)
      | _ => false)

def isInteger (cs : List Point) : Bool :=
  let r := unsigned cs
  match r with
  | .char '0' :: .char 'b' :: ds => !ds.isEmpty && ds.all fun c => c = '0' || c = '1' || c = '_'
  | .char '0' :: .char 'x' :: ds =>
    !ds.isEmpty && ds.all fun c => (Text.hexWorth? c).isSome || c = '_'
  | .char '0' :: ds => ds.all fun c => ('0' ≤ c && c ≤ '7') || c = '_'
  | _ =>
    match r.splitOn (.char ':') with
    | first :: more => isGrouped first && more.all isSixtieth
    | [] => false

def isNullWord (cs : List Point) : Bool :=
  cs = [] || cs = [.char '~'] || (spellings ("null" : Text).toList).contains cs

/-- A text without the break at its end. -/
def withoutBreak (text : List Point) : List Point :=
  if text.getLast? = some (.char '\n') ∧ text ≠ [.char '\n'] then text.dropLast else text

/-- The tag that the look of a plain text gives it. A break at its end does not matter. -/
def tagOfPlain (text : List Point) : Tag :=
  let cs := withoutBreak text
  if isTruthWord cs then .boolean
  else if isReal cs then .real
  else if isInteger cs then .integer
  else if cs = [.char '<', .char '<'] then .merge
  else if isNullWord cs then .null
  else if Timestamp.isWritten cs then .timestamp
  else if cs = [.char '='] then .value
  else .text

/-! ### Reading under a tag -/

def ungrouped (cs : List Point) : List Point := cs.filter (· ≠ .char '_')

/-- An integer in a base other than ten, which may be written in front once more. -/
def readInBase (base : Nat) (letters : List Point) (cs : List Point) : Except Fault Int :=
  let (negative, r) := Numeral.takeSign (Numeral.plainDigits (Numeral.unpad cs))
  let ds := match r with
    | .char '0' :: c :: ds => if letters.contains c then ds else r
    | _ => r
  let worth := ds.foldlM (fun n c => do
    let d ← Text.hexWorth? c
    if d < base then some (base * n + d) else none) 0
  match ds, worth with
  | _ :: _, some n => .ok (Numeral.applySign negative n)
  | _, _ => .error (.scalar (.notInteger base cs))

def readDecimalInt (cs : List Point) : Except Fault Int :=
  match Numeral.readInt cs with
  | .ok n => .ok n
  | .error (.tooLong digits) => .error (.digitLimitRead digits)
  | .error .malformed => .error (.scalar (.notInteger 10 cs))

/-- An integer in base two, eight, ten or sixteen, or in base sixty with colons. -/
def readInteger (text : List Point) : Except Fault Int := do
  let (negative, cs) := Numeral.takeSign (ungrouped text)
  let n ← match cs with
    | [] => throw (.scalar .emptyNumber)
    | [.char '0'] => pure 0
    | .char '0' :: .char 'b' :: ds => readInBase 2 [.char 'b', .char 'B'] ds
    | .char '0' :: .char 'x' :: ds => readInBase 16 [.char 'x', .char 'X'] ds
    | .char '0' :: _ => readInBase 8 [.char 'o', .char 'O'] cs
    | _ =>
      if cs.contains ':' then
        (cs.splitOn (.char ':')).foldlM (fun n part => do return 60 * n + (← readDecimalInt part)) 0
      else readDecimalInt cs
  return if negative then -n else n

def readPart (cs : List Point) : Except Fault Double :=
  match Numeral.readDouble cs with
  | some x => .ok x
  | none => .error (.scalar (.notReal cs))

/-- An integer as a double, unless it is too large for one. -/
def ofDouble? : Option Double → Except Fault Double
  | some x => .ok x
  | none => .error .integerTooLarge

/-- The parts of a number in base sixty, last first, each times its power and added up. -/
def sumSixtieths (total : Double) (power : Nat) : List Double → Except Fault Double
  | [] => .ok total
  | x :: xs => do
    let p ← ofDouble? (Double.ofInt? power)
    sumSixtieths (total.add (x.multiply p)) (60 * power) xs

/-- A double, perhaps in base sixty with colons, or one of the numbers without digits. -/
def readReal (text : List Point) : Except Fault Double := do
  let cs := Text.toLower (ungrouped text)
  if cs = [] then throw (.scalar .emptyNumber)
  let (negative, cs) := Numeral.takeSign cs
  if cs = (".nan" : Text).toList then return .nan
  let x ← if cs = (".inf" : Text).toList then pure (.infinite false)
    else if cs.contains ':' then do
      let parts ← (cs.splitOn (.char ':')).mapM readPart
      sumSixtieths .zero 1 parts.reverse
    else readPart cs
  return if negative then x.negate else x

def readTruth (text : List Point) : Except Fault Bool :=
  let word := Text.toLower text
  match truthWords.lookup (.ofList word) with
  | some b => .ok b
  | none => .error (.scalar (.notBoolean word))

def readTimestamp (text : List Point) : Except Fault Datum :=
  match Timestamp.read? (withoutBreak text) with
  | none => .error (.scalar .notTimestamp)
  | some t =>
    match t.check with
    | .error e => .error (.scalar e)
    | .ok () => .ok (.other (if t.clock.isSome then .datetime else .date) t.text)

/-! ### Bytes -/

def isBase64Char (c : Point) : Bool := c.isAlphanum || c = '+' || c = '/'

/-- Whether groups of four are complete after `place` characters of one and `pads` marks
that fill it up. Other characters are passed over, and a full group of marks ends it. -/
def isBase64 (place pads : Nat) : List Point → Bool
  | [] => place = 0
  | c :: cs =>
    if c = '=' then
      if 2 ≤ place then (4 ≤ place + pads + 1) || isBase64 place (pads + 1) cs
      else isBase64 place pads cs
    else if isBase64Char c then isBase64 ((place + 1) % 4) 0 cs
    else isBase64 place pads cs

def readBytes (text : List Point) : Except DocumentError Datum :=
  if text.all (·.toNat < 0x80) && isBase64 0 0 text then
    .ok (.other .bytes (.ofList (text.filter isBase64Char)))
  else .error .malformed

/-! ### All scalars -/

def orFault {α : Type} : Except Fault α → Except DocumentError α
  | .ok a => .ok a
  | .error f => .error (.fault f)

/-- The datum of a text under a tag. -/
def readScalar (tag : Tag) (text : List Point) : Except DocumentError Datum :=
  match tag with
  | .null => .ok .null
  | .boolean => orFault ((readTruth text).map .boolean)
  | .integer => orFault ((readInteger text).map fun n => .number (.int n))
  | .real => orFault ((readReal text).map fun x => .number (.double x))
  | .binary => readBytes text
  | .timestamp => orFault (readTimestamp text)
  | .text => .ok (.string (.ofList text))
  | .pairs | .set | .sequence | .mapping | .merge | .value | .unknown => .error .malformed

end Verdict.Document
