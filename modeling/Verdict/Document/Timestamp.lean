import Verdict.Document.Cursor
import Verdict.Number.Numeral

/-! Days and instants as they are written in documents. -/

namespace Verdict.Document

/-- The offset of a place from universal time, by hours and minutes. -/
inductive Zone where
  | universal
  | offset (negative : Bool) (hours minutes : Nat)
  deriving DecidableEq

structure Clock where
  hour : Nat
  minute : Nat
  second : Nat
  /-- The digits of the fraction of the second. -/
  fraction : List Point
  zone : Option Zone
  deriving DecidableEq

structure Timestamp where
  year : Nat
  month : Nat
  day : Nat
  clock : Option Clock
  /-- Whether month and day both have two digits. -/
  isPadded : Bool
  deriving DecidableEq

namespace Timestamp

/-! ### Reading -/

/-- A number of at least and at most so many digits, how many it has, and the text after it. -/
def digits? (least most : Nat) (cs : List Point) : Option (Nat × Nat × List Point) :=
  let ds := (cs.take most).takeWhile Point.isDigit
  if ds.length < least then none else some (Numeral.worth ds, ds.length, cs.drop ds.length)

/-- The text after a character. -/
def after? (c : Point) : List Point → Option (List Point)
  | d :: cs => if d = c then some cs else none
  | [] => none

/-- The zone at the end of a timestamp. -/
def readZone : List Point → Option Zone
  | [.char 'Z'] => some .universal
  | c :: cs =>
    if c = '+' ∨ c = '-' then do
      let (hours, _, cs) ← digits? 1 2 cs
      if cs = [] then return .offset (c = '-') hours 0
      let (minutes, _, cs) ← digits? 2 2 (← after? ':' cs)
      if cs = [] then return .offset (c = '-') hours minutes else none
    else none
  | [] => none

def readClock (cs : List Point) : Option Clock := do
  let (hour, _, cs) ← digits? 1 2 cs
  let (minute, _, cs) ← digits? 2 2 (← after? ':' cs)
  let (second, _, cs) ← digits? 2 2 (← after? ':' cs)
  let (fraction, cs) := match after? '.' cs with
    | some r => Numeral.takeDigits r
    | none => ([], cs)
  if cs = [] then return ⟨hour, minute, second, fraction, none⟩
  let zone ← readZone (cs.dropWhile isSpace)
  return ⟨hour, minute, second, fraction, some zone⟩

/-- The text of the clock after that of the day: a letter or blanks stand between. -/
def clockText? : List Point → Option (List Point)
  | c :: cs =>
    if c = 'T' ∨ c = 't' then some cs
    else if isSpace c then some (cs.dropWhile isSpace)
    else none
  | [] => none

def read? (cs : List Point) : Option Timestamp := do
  let (year, _, cs) ← digits? 4 4 cs
  let (month, w, cs) ← digits? 1 2 (← after? '-' cs)
  let (day, w', cs) ← digits? 1 2 (← after? '-' cs)
  let isPadded := w = 2 && w' = 2
  if cs = [] then return ⟨year, month, day, none, isPadded⟩
  let clock ← readClock (← clockText? cs)
  return ⟨year, month, day, some clock, isPadded⟩

/-- Whether a plain text is a timestamp: one of a day alone has two digits everywhere. -/
def isWritten (cs : List Point) : Bool := (read? cs).any fun t => t.clock.isSome || t.isPadded

/-! ### Checking -/

def isLeap (year : Nat) : Bool := year % 4 = 0 && (year % 100 ≠ 0 || year % 400 = 0)

def daysIn (year month : Nat) : Nat :=
  if month = 2 then (if isLeap year then 29 else 28)
  else if month = 4 ∨ month = 6 ∨ month = 9 ∨ month = 11 then 30
  else 31

def Zone.seconds : Zone → Int
  | .universal => 0
  | .offset negative hours minutes =>
    let s : Int := hours * 3600 + minutes * 60
    if negative then -s else s

def checkZone (z : Zone) : Except ScalarError Unit :=
  if (Zone.seconds z).natAbs < 86400 then .ok () else .error (.offsetRange (Zone.seconds z))

def checkDay (t : Timestamp) : Except ScalarError Unit :=
  if t.year = 0 then .error .yearRange
  else if t.month = 0 ∨ 12 < t.month then .error .monthRange
  else if t.day = 0 ∨ daysIn t.year t.month < t.day then .error .dayRange
  else .ok ()

def checkClock (c : Clock) : Except ScalarError Unit :=
  if 23 < c.hour then .error .hourRange
  else if 59 < c.minute then .error .minuteRange
  else if 59 < c.second then .error .secondRange
  else .ok ()

/-- Refuses a timestamp that no calendar has. -/
def check (t : Timestamp) : Except ScalarError Unit := do
  if let some c := t.clock then
    if let some z := c.zone then checkZone z
  checkDay t
  if let some c := t.clock then checkClock c

/-! ### Writing -/

def padded (width n : Nat) : Text :=
  let ds := Text.toDigits 10 n
  .ofList (List.replicate (width - ds.length) (.char '0') ++ ds)

/-- Six digits of the fraction of a second. -/
def microseconds (fraction : List Point) : Text :=
  .ofList ((fraction ++ List.replicate 6 (Point.char '0')).take 6)

def clockText (c : Clock) : Text :=
  "T" ++ padded 2 c.hour ++ ":" ++ padded 2 c.minute ++ ":" ++ padded 2 c.second ++ "." ++
    microseconds c.fraction ++ (c.zone.map fun z => (toString (Zone.seconds z) : Text)).getD ""

/-- The one text of a timestamp, however it was written. -/
def text (t : Timestamp) : Text :=
  padded 4 t.year ++ "-" ++ padded 2 t.month ++ "-" ++ padded 2 t.day ++
    (t.clock.map clockText).getD ""

end Timestamp

end Verdict.Document
