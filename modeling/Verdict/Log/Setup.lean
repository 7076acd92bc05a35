import Verdict.Log.Line
import Verdict.Settings

/-! The set-up of logging: one handler on the root logger, at the level that a word
names and in the format that suits where the engine runs. -/

namespace Verdict.Log

inductive Format where
  | plain | structured
  deriving DecidableEq

def Format.text : Format → Text
  | .plain => "Formatter"
  | .structured => "StructuredFormatter"

/-- A handler that writes to the error stream. -/
structure Handler where
  level : Nat
  format : Format
  deriving DecidableEq

structure Root where
  level : Nat
  handlers : List Handler
  deriving DecidableEq

/-- The level before any set-up is `WARNING`, and nothing is handled. -/
def Root.initial : Root := ⟨30, []⟩

/-- Words in capitals that name something else than a level. -/
def reservedWords : List (Text × Fault) := [
  ("BASIC_FORMAT", .unknownLevel "'%(levelname)s:%(name)s:%(message)s'"),
  ("_STYLES", .levelNotNumber (
    "\x7b'%': (<class 'logging.PercentStyle'>, '%(levelname)s:%(name)s:%(message)s'), " ++
    "'\x7b': (<class 'logging.StrFormatStyle'>, " ++
    "'\x7blevelname\x7d:\x7bname\x7d:\x7bmessage\x7d'), " ++
    "'$': (<class 'logging.StringTemplateStyle'>, " ++
    "'$\x7blevelname\x7d:$\x7bname\x7d:$\x7bmessage\x7d')\x7d"))]

/-- The level that a word names in any case; other words count as `INFO`. -/
def levelOf (word : Text) : Except Fault Nat :=
  let word := Text.ofList (Text.toUpper word.toList)
  match reservedWords.lookup word with
  | some fault => .error fault
  | none => .ok ((levels.lookup word).getD 20)

/-- Replaces all handlers by one. A level that is not given is that of the settings. -/
def setUp (s : Settings) (word : Option Text) (_ : Root) : Except Fault Root := do
  let word := match word with
    | some w => if w = "" then s.logLevel else w
    | none => s.logLevel
  let level ← levelOf word
  return ⟨level, [⟨level, if s.isDev then .plain else .structured⟩]⟩

end Verdict.Log
