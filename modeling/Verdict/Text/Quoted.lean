import Verdict.Text.Printable

/-! Quoted texts, as messages show them: single quotes unless only double ones avoid
an escape, and an escape for whatever does not print. -/

namespace Verdict.Text

/-- A number in hexadecimal, filled up with zeros. -/
def hexDigits (width n : Nat) : List Point :=
  let ds := toDigits 16 n
  List.replicate (width - ds.length) (.char '0') ++ ds

/-- Double quotes serve when the text holds single ones and no double ones. -/
def quoteFor (cs : List Point) : Point := if cs.contains '\'' && !cs.contains '"' then '"' else '\''

def escape (quote c : Point) : List Point :=
  if c = quote ∨ c = '\\' then [.char '\\', c]
  else if c = '\t' then [.char '\\', .char 't']
  else if c = '\n' then [.char '\\', .char 'n']
  else if c = '\r' then [.char '\\', .char 'r']
  else if isPrintable c then [c]
  else if c.toNat < 0x100 then '\\' :: 'x' :: hexDigits 2 c.toNat
  else if c.toNat < 0x10000 then '\\' :: 'u' :: hexDigits 4 c.toNat
  else '\\' :: 'U' :: hexDigits 8 c.toNat

def quoted (cs : List Point) : List Point :=
  let quote := quoteFor cs
  quote :: (cs.flatMap (escape quote) ++ [quote])

end Verdict.Text
