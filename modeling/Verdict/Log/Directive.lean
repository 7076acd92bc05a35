import Verdict.Datum
import Verdict.Number.Fixed
import Verdict.Transform.Builtin

/-! Texts with directives such as `%s` or `%05.1f`, filled in with arguments in order or,
by key, from a single mapping. -/

namespace Verdict

attribute [local instance] powOfNatPow

/-- The arguments not yet used: a row of them, or one mapping that keys look into. What
can be taken from a mapping next is the mapping or the value under the last key, once. -/
inductive Arguments where
  | row (rest : List Datum)
  | table (entries : List (Datum × Datum)) (next : Option Datum)

namespace Arguments

/-- One mapping with entries serves keys; any other arguments come in order. -/
def ofList : List Datum → Arguments
  | [.mapping (e :: es)] => .table (e :: es) (some (.mapping (e :: es)))
  | ds => .row ds

def next : Arguments → Except Fault (Datum × Arguments)
  | .row (d :: rest) => .ok (d, .row rest)
  | .table entries (some d) => .ok (d, .table entries none)
  | .row [] | .table _ none => .error (.directive .tooFewArguments)

/-- Turns to the value under a key. -/
def seek (entries : List (Datum × Datum)) (key : Text) : Except Fault Arguments :=
  match Datum.lookup key entries with
  | some d => .ok (.table entries (some d))
  | none => .error (.directive (.missingKey key))

/-- Whether arguments in order are left over. -/
def remain : Arguments → Bool
  | .row rest => !rest.isEmpty
  | .table .. => false

/-- Whether the value under a key was not taken. -/
def isPending : Arguments → Bool
  | .row _ => false
  | .table _ next => next.isSome

end Arguments

namespace Directive

/-- The number that a datum is, truth values included. -/
def number? : Datum → Option Number
  | .number n => some n
  | .boolean b => some (.int (if b then 1 else 0))
  | _ => none

/-! ### Styles -/

/-- How a value is to be written. -/
structure Style where
  flags : List Point
  width : Nat
  precision : Option Nat

namespace Style

/-- Fills up with blanks on the side away from the text. -/
def pad (s : Style) (cs : List Point) : List Point :=
  let blanks := List.replicate (s.width - cs.length) (.char ' ')
  if s.flags.contains '-' then cs ++ blanks else blanks ++ cs

/-- A number with its sign and mark, filled up with zeros between them and the digits or
with blanks. -/
def padNumber (s : Style) (negative : Bool) (mark digits : List Point) : List Point :=
  let sign := if negative then [.char '-'] else if s.flags.contains '+' then [.char '+']
    else if s.flags.contains ' ' then [.char ' '] else []
  let front := sign ++ mark
  if s.flags.contains '0' && !s.flags.contains '-' then
    front ++ List.replicate (s.width - front.length - digits.length) (.char '0') ++ digits
  else s.pad (front ++ digits)

def text (s : Style) (cs : List Point) : List Point := s.pad (s.precision.elim cs cs.take)

/-- An integer in a base with at least as many digits as the precision says. -/
def integer (s : Style) (n : Int) (base : Nat) (mark : List Point) : List Point :=
  let ds := Text.toDigits base n.natAbs
  let ds := List.replicate (s.precision.getD 0 - ds.length) (.char '0') ++ ds
  s.padNumber (n < 0) (if s.flags.contains '#' then mark else []) ds

/-- A double by a way to write magnitudes, which gets the number of digits asked for. -/
def double (s : Style) (x : Double) (write : Bool → Nat → Nat → List Point) : List Point :=
  match x with
  | .finite negative rank =>
    s.padNumber negative [] (write (s.flags.contains '#') rank.val (s.precision.getD 6))
  | .infinite negative => s.padNumber negative [] [.char 'i', .char 'n', .char 'f']
  | .nan => s.padNumber false [] [.char 'n', .char 'a', .char 'n']

end Style

/-! ### Reading directives -/

/-- The key in parentheses, which may nest, and the text after it. -/
def takeKey (depth : Nat) : List Point → Option (List Point × List Point)
  | [] => none
  | .char ')' :: cs =>
    if depth = 0 then some ([], cs) else (takeKey (depth - 1) cs).map fun (k, r) => (')' :: k, r)
  | .char '(' :: cs => (takeKey (depth + 1) cs).map fun (k, r) => ('(' :: k, r)
  | c :: cs => (takeKey depth cs).map fun (k, r) => (c :: k, r)

/-- Turns to the value under the key of a directive, if it has one. -/
def readKey (args : Arguments) (cs : List Point) : Except Fault (Arguments × List Point) :=
  match cs, args with
  | .char '(' :: _, .row _ => .error (.directive .mappingRequired)
  | .char '(' :: rest, .table entries _ =>
    match takeKey 0 rest with
    | some (key, rest) => do return (← Arguments.seek entries (.ofList key), rest)
    | none => .error (.directive .incompleteKey)
  | cs, args => .ok (args, cs)

def isFlag (c : Point) : Bool := ("-+ #0" : Text).toList.contains c

/-- How great an amount can be, and what is wrong with a greater one. -/
structure Bound where
  bits : Nat
  type : Text
  excess : DirectiveError

def widthBound : Bound := ⟨63, "ssize_t", .widthTooBig⟩

def precisionBound : Bound := ⟨31, "int", .precisionTooBig⟩

/-- An amount of room or digits, written out or left to the next argument. -/
def readAmount (b : Bound) (args : Arguments) (cs : List Point) :
    Except Fault (Option Int × Arguments × List Point) :=
  match cs with
  | .char '*' :: rest => do
    let (d, args) ← args.next
    match d, number? d with
    | .string _, _ | _, none | _, some (.double _) => throw (.directive .widthRequired)
    | _, some (.int n) =>
      if -(2 ^ b.bits) ≤ n ∧ n < 2 ^ b.bits then return (some n, args, rest)
      else throw (.directive (.amountTooBig b.type))
  | _ =>
    let (ds, rest) := Numeral.takeDigits cs
    if ds = [] then .ok (none, args, rest)
    else if Numeral.worth ds < 2 ^ b.bits then .ok (some (Numeral.worth ds), args, rest)
    else .error (.directive b.excess)

/-- The greatest width that is filled. -/
def widthLimit : Nat := 10 ^ (10 : Nat)

/-- The style of a directive, its conversion, the arguments left and the text after it. -/
def read (args : Arguments) (cs : List Point) :
    Except Fault (Style × Point × Arguments × List Point) := do
  let (args, cs) ← readKey args cs
  let flags := cs.takeWhile isFlag
  let (width, args, cs) ← readAmount widthBound args (cs.dropWhile isFlag)
  let (precision, args, cs) ← match cs with
    | .char '.' :: rest => do
      let (p, args, rest) ← readAmount precisionBound args rest
      pure (some (p.getD 0), args, rest)
    | _ => pure (none, args, cs)
  let cs := match cs with
    | c :: rest => if c = 'h' ∨ c = 'l' ∨ c = 'L' then rest else c :: rest
    | [] => []
  match cs with
  | conversion :: rest =>
    -- A negative width taken from an argument asks for filling on the right.
    let flags := if width.any (· < 0) then .char '-' :: flags else flags
    let width := (width.getD 0).natAbs
    return (⟨flags, width, precision.map Int.toNat⟩, conversion, args, rest)
  | [] => throw (.directive .incomplete)

/-! ### Writing values -/

/-- A text in which everything beyond the plain characters is escaped. -/
def plainOnly (cs : List Point) : List Point :=
  cs.flatMap fun c =>
    if c.toNat < 0x80 then [c]
    else if c.toNat < 0x100 then '\\' :: 'x' :: Text.hexDigits 2 c.toNat
    else if c.toNat < 0x10000 then '\\' :: 'u' :: Text.hexDigits 4 c.toNat
    else '\\' :: 'U' :: Text.hexDigits 8 c.toNat

def writeInteger (conversion : Point) (s : Style) (d : Datum) : Except Fault (List Point) :=
  if conversion = 'd' ∨ conversion = 'i' ∨ conversion = 'u' then
    match number? d with
    | some n => do
      let i ← n.toInt
      let _ ← (Number.int i).text
      return s.integer i 10 []
    | none => .error (.directive (.realRequired conversion d.kind))
  else match number? d with
    | some (.int n) =>
      let (base, mark) := if conversion = 'o' then (8, ("0o" : Text)) else (16, "0x")
      let cs := s.integer n base mark.toList
      .ok (if conversion = 'X' then cs.map Point.toUpper else cs)
    | _ => .error (.directive (.integerRequired conversion d.kind))

def writeDouble (conversion : Point) (s : Style) (d : Datum) : Except Fault (List Point) :=
  match number? d with
  | some n => do
    let x ← n.toDouble
    let write := if conversion.toLower = 'e' then Double.scientific
      else if conversion.toLower = 'f' then Double.fixed else Double.general
    let cs := s.double x write
    return if conversion.isUpper then cs.map Point.toUpper else cs
  | none => .error (.directive (.numberRequired d.kind))

def writeCharacter (s : Style) : Datum → Except Fault (List Point)
  | .string text =>
    match text.toList with
    | [c] => .ok (s.pad [c])
    | _ => .error (.directive .characterRequired)
  | .number (.int n) =>
    if 0 ≤ n ∧ n < 0x110000 then .ok (s.pad [Point.ofNat n.toNat])
    else .error (.directive .characterRange)
  | .boolean b => .ok (s.pad [Point.ofNat (if b then 1 else 0)])
  | _ => .error (.directive .characterRequired)

/-- A datum as a directive wants it; `index` is the place of the conversion in the text. -/
def write (conversion : Point) (index : Nat) (s : Style) (d : Datum) : Except Fault (List Point) :=
  if conversion = 's' then d.display.map (s.text ·.toList)
  else if conversion = 'r' then d.inspect.map (s.text ·.toList)
  else if conversion = 'a' then d.inspect.map fun t => s.text (plainOnly t.toList)
  else if conversion = 'c' then writeCharacter s d
  else if ("diuxXo" : Text).toList.contains conversion then writeInteger conversion s d
  else if ("eEfFgG" : Text).toList.contains conversion then writeDouble conversion s d
  else .error (.directive (.unknownConversion conversion index))

/-! ### Filling in -/

/-- Fills in a text of which `total` characters are the whole. -/
def fillAll (total : Nat) (args : Arguments) (cs : List Point) : Except Fault (List Point) :=
  match cs with
  | [] => if args.remain then .error (.directive .tooManyArguments) else .ok []
  | .char '%' :: .char '%' :: rest => do return '%' :: (← fillAll total args rest)
  | .char '%' :: rest => do
    let (style, conversion, args, after) ← read args rest
    let (d, args) ← args.next
    let isWide := widthLimit < style.width
    let style := { style with width := if isWide then 0 else style.width }
    let shown ← write conversion (total - after.length - 1) style d
    if args.isPending then throw (.directive .tooManyArguments)
    if isWide then throw (.directive .noRoom)
    if after.length ≤ rest.length then return shown ++ (← fillAll total args after)
    else throw (.directive .incomplete)
  | c :: rest => do return c :: (← fillAll total args rest)
termination_by cs.length
decreasing_by all_goals simp only [List.length_cons]; omega

end Directive

/-- A text filled in with arguments; without any it is taken as it stands. -/
def fillIn (text : Text) (arguments : List Datum) : Except Fault Text :=
  if arguments.isEmpty then .ok text
  else do
    let cs := text.toList
    return .ofList (← Directive.fillAll cs.length (.ofList arguments) cs)

end Verdict
