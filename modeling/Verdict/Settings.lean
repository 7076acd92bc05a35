import Verdict.Context

/-! Settings of an engine, read from arguments, the environment and a file of
assignments, in this order of precedence. Every field is read and every problem kept. -/

namespace Verdict

/-- Where the engine runs. -/
inductive Stage where
  | dev | test | staging | prod
  deriving DecidableEq

def Stage.text : Stage → Text
  | .dev => "dev"
  | .test => "test"
  | .staging => "staging"
  | .prod => "prod"

structure Settings where
  stage : Stage := .dev
  logLevel : Text := "INFO"
  comparisonOption : ComparisonOption := .default
  policy : Policy := {}
  registerBuiltins : Bool := true

namespace Settings

/-! ### Reading single fields -/

/-- The problem of a field, by its short name. -/
abbrev Reader (α : Type) := Datum → Except Text α

def readStage : Reader Stage
  | .string s =>
    match [Stage.dev, .test, .staging, .prod].find? (·.text = s) with
    | some stage => .ok stage
    | none => .error "literal_error"
  | _ => .error "literal_error"

def readText (d : Datum) : Except Text Text :=
  match d.word? with
  | some s => .ok s
  | none => .error "string_type"

/-- Options are named exactly; no blanks, no other case. -/
def readOption : Reader ComparisonOption
  | .symbol (.option o) => .ok o
  | .string s =>
    match ComparisonOption.words.lookup s with
    | some o => .ok o
    | none => .error "enum"
  | _ => .error "enum"

def trueWords : List Text := ["1", "on", "t", "true", "y", "yes"]

def falseWords : List Text := ["0", "off", "f", "false", "n", "no"]

/-- A truth value, zero or one as a number, or a word for it in any case and without blanks. -/
def readBool : Reader Bool
  | .boolean b => .ok b
  | .number n =>
    if n.isZero then .ok false
    else if n.eqv (.int 1) then .ok true
    else match n with
      | .int _ => .error "bool_parsing"
      | .double _ => .error "bool_type"
  | d =>
    match d.word? with
    | some s =>
      let word := Text.ofList (s.toList.map Point.toLower)
      if trueWords.contains word then .ok true
      else if falseWords.contains word then .ok false
      else .error "bool_parsing"
    | none => .error "bool_type"

/-! ### Sources -/

/-- What stands before the names of variables that set a field. -/
def variablePrefix : List Point := ("condition_engine_" : Text).toList

/-- The field that a variable sets, in whatever case its name is written. -/
def fieldOfVariable? (name : Text) : Option Text :=
  let name := Text.toLower name.toList
  if variablePrefix.isPrefixOf name then some (.ofList (name.drop variablePrefix.length)) else none

/-- The fields that a list of variables sets; of two for one field the later one counts. -/
def ofVariables (assigned : List (Text × Text)) : List (Text × Datum) :=
  assigned.reverse.filterMap fun (name, value) =>
    (fieldOfVariable? name).map fun field => (field, .string value)

/-- The value on the right of an assignment: without a comment, blanks and quotes around it. -/
def assignedValue (cs : List Point) : Text :=
  let cs := Text.trim cs
  match cs with
  | q :: rest =>
    if (q = '"' ∨ q = '\'') ∧ rest.getLast? = some q then .ofList rest.dropLast
    else match cut [.char ' ', .char '#'] cs with
      | some (before, _) => .ofList (Text.trimRight before)
      | none => .ofList cs
  | [] => ""

/-- A line that assigns a value to a name. -/
def assignment? (line : List Point) : Option (Text × Text) :=
  match cut [.char '='] line with
  | some (name, value) =>
    let name := Text.trim name
    if name.head? = some (.char '#') then none else some (.ofList name, assignedValue value)
  | none => none

/-- The lines of a text. -/
def lines (cs : List Point) : List (List Point) :=
  (cs.splitOn (.char '\n')).map fun line =>
    if line.getLast? = some (.char '\r') then line.dropLast else line

/-- The variables that a file of assignments sets. -/
def variablesOfText (text : Text) : List (Text × Text) :=
  (lines text.toList).filterMap assignment?

/-! ### All fields -/

/-- Reads a field from the sources, or takes its default, and notes its problem. -/
def readField {α : Type} (sources : List (Text × Datum)) (name : Text) (default : α)
    (read : Reader α) : α × List (Text × Text) :=
  match sources.lookup name with
  | none => (default, [])
  | some d =>
    match read d with
    | .ok a => (a, [])
    | .error problem => (default, [(name, problem)])

/-- Settings from fields in order of precedence. -/
def ofFields (sources : List (Text × Datum)) : Except Fault Settings :=
  let (stage, p1) := readField sources "env" .dev readStage
  let (logLevel, p2) := readField sources "log_level" ("INFO" : Text) readText
  let (comparisonOption, p3) := readField sources "comparison_option" .default readOption
  let (numericStrings, p4) := readField sources "coerce_numeric_strings" true readBool
  let (booleanStrings, p5) := readField sources "coerce_boolean_strings" true readBool
  let (absentEqualsAbsent, p6) := readField sources "absent_equals_absent" false readBool
  let (registerBuiltins, p7) := readField sources "register_builtin_transforms" true readBool
  match p1 ++ p2 ++ p3 ++ p4 ++ p5 ++ p6 ++ p7 with
  | [] => .ok {
      stage, logLevel, comparisonOption, registerBuiltins
      policy := { numericStrings, booleanStrings, absentEqualsAbsent } }
  | problems => .error (.invalidSettings problems)

/-- Settings from arguments, then environment variables, then a file of assignments. -/
def load (arguments : List (Text × Datum)) (environment : List (Text × Text))
    (file : Text) : Except Fault Settings :=
  ofFields (arguments ++ ofVariables environment ++ ofVariables (variablesOfText file))

/-- Whether the engine runs on a developer's machine. -/
def isDev (s : Settings) : Bool := s.stage = .dev

end Settings

end Verdict
