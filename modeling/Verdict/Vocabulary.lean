import Verdict.Text.Blank
import Verdict.Text.Lower
import Verdict.Text.Upper

/-! The fixed words of the rule language: operators of comparisons, groups and presence
checks, and the ways to compare strings. Words are read trimmed and in any case. -/

namespace Verdict

inductive ComparisonOperator where
  | equals | notEquals | greaterThan | greaterEqual | lessThan | lessEqual
  | startsWith | endsWith | contains | notContains
  deriving DecidableEq

inductive LogicalOperator where
  | and | or | not
  deriving DecidableEq

inductive PresenceOperator where
  | exists | notExist
  deriving DecidableEq

inductive ComparisonOption where
  | default | caseInsensitive
  deriving DecidableEq

/-- A text without the blanks around it and in lower case. -/
def normalWord (s : Text) : Text := .ofList (Text.toLower (Text.trim s.toList))

namespace ComparisonOperator

def text : ComparisonOperator → Text
  | .equals => "equals"
  | .notEquals => "notEquals"
  | .greaterThan => "greaterThan"
  | .greaterEqual => "greaterEqual"
  | .lessThan => "lessThan"
  | .lessEqual => "lessEqual"
  | .startsWith => "startsWith"
  | .endsWith => "endsWith"
  | .contains => "contains"
  | .notContains => "notContains"

/-- Every accepted word in lower case: the ten names, and symbols and abbreviations of six. -/
def words : List (Text × ComparisonOperator) := [
  ("equals", .equals), ("notequals", .notEquals), ("greaterthan", .greaterThan),
  ("greaterequal", .greaterEqual), ("lessthan", .lessThan), ("lessequal", .lessEqual),
  ("startswith", .startsWith), ("endswith", .endsWith), ("contains", .contains),
  ("notcontains", .notContains),
  ("==", .equals), ("eq", .equals), ("!=", .notEquals), ("neq", .notEquals),
  (">", .greaterThan), ("gt", .greaterThan), (">=", .greaterEqual), ("gte", .greaterEqual),
  ("<", .lessThan), ("lt", .lessThan), ("<=", .lessEqual), ("lte", .lessEqual)]

def ofWord? (s : Text) : Option ComparisonOperator := words.lookup (normalWord s)

end ComparisonOperator

namespace LogicalOperator

def text : LogicalOperator → Text
  | .and => "and"
  | .or => "or"
  | .not => "not"

def words : List (Text × LogicalOperator) := [("and", .and), ("or", .or), ("not", .not)]

def ofWord? (s : Text) : Option LogicalOperator := words.lookup (normalWord s)

end LogicalOperator

namespace PresenceOperator

def text : PresenceOperator → Text
  | .exists => "exists"
  | .notExist => "notExist"

def words : List (Text × PresenceOperator) := [
  ("exists", .exists), ("exist", .exists), ("notexist", .notExist), ("notexists", .notExist)]

def ofWord? (s : Text) : Option PresenceOperator := words.lookup (normalWord s)

end PresenceOperator

namespace ComparisonOption

def text : ComparisonOption → Text
  | .default => "DEFAULT"
  | .caseInsensitive => "CASE_INSENSITIVE"

def words : List (Text × ComparisonOption) := [
  ("DEFAULT", .default), ("CASE_INSENSITIVE", .caseInsensitive)]

/-- Options are named in capitals, so a text is trimmed and put in upper case. -/
def ofWord? (s : Text) : Option ComparisonOption :=
  words.lookup (.ofList (Text.toUpper (Text.trim s.toList)))

end ComparisonOption

/-- A word of the rule language given as a constant instead of a text. -/
inductive Symbol where
  | comparison (op : ComparisonOperator)
  | logical (op : LogicalOperator)
  | presence (op : PresenceOperator)
  | option (o : ComparisonOption)
  deriving DecidableEq

namespace Symbol

def text : Symbol → Text
  | .comparison op => op.text
  | .logical op => op.text
  | .presence op => op.text
  | .option o => o.text

/-- The family that a constant belongs to. -/
def family : Symbol → Text
  | .comparison _ => "ComparisonOperator"
  | .logical _ => "LogicalOperator"
  | .presence _ => "PresenceOperator"
  | .option _ => "ComparisonOption"

/-- A constant's name in capitals, a low line before each further word. -/
def constant (s : Symbol) : Text :=
  match s with
  | .option o => o.text
  | _ =>
    .ofList (Text.toUpper
      (s.text.toList.flatMap fun c => if c.isUpper then [.char '_', c] else [c]))

/-- How messages show a constant. -/
def display (s : Symbol) : Text := s.family ++ "." ++ s.constant

def inspect (s : Symbol) : Text := "<" ++ s.display ++ ": '" ++ s.text ++ "'>"

end Symbol

end Verdict
