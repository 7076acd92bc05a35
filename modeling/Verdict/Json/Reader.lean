import Verdict.Text.Unit
import Verdict.Value

/-! JSON texts of scalars. Only strings, numbers and truth values are read; anything
else, well-formed or not, gives nothing. -/

namespace Verdict.Json

def isBlank (c : Point) : Bool := c = ' ' || c = '\t' || c = '\n' || c = '\r'

/-! ### Strings -/

/-- The character of a one-letter escape. -/
def shortEscape? (c : Point) : Option Point :=
  List.lookup c [('"', '"'), ('\\', '\\'), ('/', '/'), ('b', '\x08'), ('f', '\x0c'), ('n', '\n'),
    ('r', '\r'), ('t', '\t')]

/-- The content of a string up to its closing quote, and the text after it. -/
def readString : List Point → Option (List Point × List Point)
  | [] => none
  | .char '"' :: rest => some ([], rest)
  | .char '\\' :: .char 'u' :: a :: b :: c :: d ::
      .char '\\' :: .char 'u' :: e :: f :: g :: h :: rest => do
    let high ← Text.readHex? [a, b, c, d]
    match Text.readHex? [e, f, g, h] with
    | some low =>
      if Text.isHigh high && Text.isLow low then
        let (cs, rest) ← readString rest
        return (Text.joinUnits high low :: cs, rest)
      else
        let (cs, rest) ← readString ('\\' :: 'u' :: e :: f :: g :: h :: rest)
        return (Point.ofNat high :: cs, rest)
    | none => none
  | .char '\\' :: .char 'u' :: a :: b :: c :: d :: rest => do
    let unit ← Text.readHex? [a, b, c, d]
    let (cs, rest) ← readString rest
    return (Point.ofNat unit :: cs, rest)
  | .char '\\' :: c :: rest => do
    let c ← shortEscape? c
    let (cs, rest) ← readString rest
    return (c :: cs, rest)
  | c :: rest =>
    if c.toNat < 0x20 then none
    else do
      let (cs, rest) ← readString rest
      return (c :: cs, rest)
termination_by cs => cs.length

/-! ### Numbers -/

/-- The digits of an integer, without zeros in front of others. -/
def takeWhole (cs : List Point) : Option (List Point × List Point) :=
  match Numeral.takeDigits cs with
  | ([], _) => none
  | (.char '0' :: ds, rest) => some ([.char '0'], ds ++ rest)
  | r => some r

/-- A point with digits after it. -/
def takeFraction (cs : List Point) : List Point × List Point :=
  match cs with
  | .char '.' :: rest =>
    let (ds, after) := Numeral.takeDigits rest
    if ds = [] then ([], cs) else ('.' :: ds, after)
  | _ => ([], cs)

/-- An exponent mark with digits after it. -/
def takeExponent (cs : List Point) : List Point × List Point :=
  match cs with
  | e :: rest =>
    if e = 'e' ∨ e = 'E' then
      let (sign, digits) := match rest with
        | .char '+' :: r => ([.char '+'], r)
        | .char '-' :: r => ([.char '-'], r)
        | r => ([], r)
      let (ds, after) := Numeral.takeDigits digits
      if ds = [] then ([], cs) else (e :: (sign ++ ds), after)
    else ([], cs)
  | [] => ([], cs)

/-- The minus in front of a number, if there is one, and the text after it. -/
def takeMinus : List Point → List Point × List Point
  | .char '-' :: cs => ([.char '-'], cs)
  | cs => ([], cs)

/-- The number that a text begins with, and the text after it: an integer without fraction and
exponent, else a double. -/
def takeNumber (cs : List Point) : Option (Number × List Point) := do
  let (sign, unsigned) := takeMinus cs
  let (whole, rest) ← takeWhole unsigned
  let (fraction, rest) := takeFraction rest
  let (exponent, rest) := takeExponent rest
  if fraction = [] ∧ exponent = [] then
    match Numeral.readInt (sign ++ whole) with
    | .ok n => some (.int n, rest)
    | .error _ => none
  else (Numeral.readDouble (sign ++ whole ++ fraction ++ exponent)).map (.double ·, rest)

/-- A whole text as a number. -/
def readNumber (cs : List Point) : Option Number :=
  match takeNumber cs with
  | some (n, []) => some n
  | _ => none

/-! ### Scalars -/

/-- Words for scalars: truth values, and numbers without digits. -/
def words : List (Text × Value) := [
  ("true", .boolean true), ("false", .boolean false), ("NaN", .number (.double .nan)),
  ("Infinity", .number (.double (.infinite false))),
  ("-Infinity", .number (.double (.infinite true)))]

/-- The scalar that a text writes, with blanks around it or not. -/
def readScalar (text : List Point) : Option Value :=
  let cs := ((text.dropWhile isBlank).reverse.dropWhile isBlank).reverse
  match words.lookup (.ofList cs) with
  | some v => some v
  | none =>
    match cs with
    | .char '"' :: rest =>
      match readString rest with
      | some (s, []) => some (.string (.ofList s))
      | _ => none
    | _ => (readNumber cs).map .number

end Verdict.Json
