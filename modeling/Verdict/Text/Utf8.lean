import Verdict.Text.Point

/-! Text from bytes in UTF-8. Where no character is written the decoder says at which
bytes and why; the bytes named are those that belong to the beginning of a character. -/

namespace Verdict.Text

inductive Utf8Problem where
  | invalidStart | invalidContinuation | unexpectedEnd
  deriving DecidableEq

structure Utf8Error where
  problem : Utf8Problem
  /-- How many bytes stand before. -/
  start : Nat
  /-- How many bytes are named. -/
  width : Nat
  /-- The first of them. -/
  byte : UInt8
  deriving DecidableEq

/-- The ranges of the bytes after the first byte of a character, if it is one. Overlong
forms, surrogates and what lies past the last character are out of range. -/
def followers (first : UInt8) : Option (List (UInt8 × UInt8)) :=
  let tail := (0x80, 0xbf)
  if first < 0x80 then some []
  else if first < 0xc2 then none
  else if first < 0xe0 then some [tail]
  else if first = 0xe0 then some [(0xa0, 0xbf), tail]
  else if first = 0xed then some [(0x80, 0x9f), tail]
  else if first < 0xf0 then some [tail, tail]
  else if first = 0xf0 then some [(0x90, 0xbf), tail, tail]
  else if first < 0xf4 then some [tail, tail, tail]
  else if first = 0xf4 then some [(0x80, 0x8f), tail, tail]
  else none

/-- The bytes that lie in the ranges, as many as do so in turn, and the bytes after them. -/
def takeFollowers : List (UInt8 × UInt8) → List UInt8 → List UInt8 × List UInt8
  | (low, high) :: ranges, b :: bs =>
    if low ≤ b ∧ b ≤ high then
      let (taken, rest) := takeFollowers ranges bs
      (b :: taken, rest)
    else ([], b :: bs)
  | _, bs => ([], bs)

theorem length_takeFollowers_le (ranges : List (UInt8 × UInt8)) (bs : List UInt8) :
    (takeFollowers ranges bs).2.length ≤ bs.length := by
  fun_induction takeFollowers ranges bs with
  | case1 low high ranges b bs _ taken rest h ih =>
    rw [h] at ih
    exact Nat.le_succ_of_le ih
  | case2 => exact Nat.le_refl _
  | case3 => exact Nat.le_refl _

/-- The worth of the bits that a first byte carries when so many bytes follow it. -/
def leadingBits (first : UInt8) : Nat → Nat
  | 0 => first.toNat
  | 1 => first.toNat - 0xc0
  | 2 => first.toNat - 0xe0
  | _ => first.toNat - 0xf0

def assemble (first : UInt8) (taken : List UInt8) : Point :=
  Point.ofNat (taken.foldl (fun n b => 0x40 * n + (b.toNat - 0x80))
    (leadingBits first taken.length))

/-- The text of bytes that have `start` others before them. -/
def decodeUtf8 (start : Nat) : List UInt8 → Except Utf8Error (List Point)
  | [] => .ok []
  | b :: bs =>
    match followers b with
    | none => .error ⟨.invalidStart, start, 1, b⟩
    | some ranges =>
      let r := takeFollowers ranges bs
      if r.1.length = ranges.length then
        (decodeUtf8 (start + 1 + r.1.length) r.2).map (assemble b r.1 :: ·)
      else if r.2 = [] then .error ⟨.unexpectedEnd, start, 1 + r.1.length, b⟩
      else .error ⟨.invalidContinuation, start, 1 + r.1.length, b⟩
termination_by bs => bs.length
decreasing_by
  have := length_takeFollowers_le ranges bs
  simp only [List.length_cons]
  omega

namespace Utf8Error

def reason : Utf8Problem → Text
  | .invalidStart => "invalid start byte"
  | .invalidContinuation => "invalid continuation byte"
  | .unexpectedEnd => "unexpected end of data"

def place (e : Utf8Error) : Text :=
  if e.width = 1 then
    "byte 0x" ++ .ofList (Text.toDigits 16 e.byte.toNat) ++ " in position " ++ toString e.start
  else "bytes in position " ++ toString e.start ++ "-" ++ toString (e.start + e.width - 1)

def message (e : Utf8Error) : Text :=
  "'utf-8' codec can't decode " ++ e.place ++ ": " ++ reason e.problem

end Utf8Error

end Verdict.Text
