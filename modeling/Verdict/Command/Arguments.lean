import Verdict.Datum

/-! The words of a command line. A verb comes first; its operands and options follow in
any order. A separator ends the options, and a verb takes its operands from the words
between options, as many as it can. -/

namespace Verdict.Command

inductive Verb where
  | resolve | render | compare
  deriving DecidableEq

inductive Switch where
  | help | context | logLevel | ignoreCase
  deriving DecidableEq

namespace Verb

def all : List Verb := [.resolve, .render, .compare]

def text : Verb → Text
  | .resolve => "resolve"
  | .render => "render"
  | .compare => "compare"

/-- The names of the operands, in their order. -/
def operands : Verb → List Text
  | .resolve => ["token"]
  | .render => ["template"]
  | .compare => ["lhs", "operator", "rhs"]

/-- The spellings of the options, in the order in which an abbreviation is looked up. -/
def spellings (v : Verb) : List (Text × Switch) :=
  ("-h", .help) :: ("--help", .help) :: ("--context", .context) :: ("--log-level", .logLevel) ::
    (if v = .compare then [("--case-insensitive", .ignoreCase)] else [])

end Verb

namespace Switch

/-- The name of an option in messages. -/
def text : Switch → Text
  | .help => "-h/--help"
  | .context => "--context"
  | .logLevel => "--log-level"
  | .ignoreCase => "--case-insensitive"

def takesValue : Switch → Bool
  | .context | .logLevel => true
  | .help | .ignoreCase => false

end Switch

/-! ### Faulty command lines -/

inductive UsageProblem where
  | ambiguous (word : Text) (spellings : List Text)
  | valueExpected (s : Switch)
  | valueIgnored (s : Switch) (value : Text)
  | missing (names : List Text)
  | unrecognized (words : List Text)
  | noSuchVerb (word : Text)
  deriving DecidableEq

/-- A problem with the words of a verb or with the line as a whole. -/
structure UsageError where
  verb : Option Verb
  problem : UsageProblem
  deriving DecidableEq

/-- Why a command line asks for nothing that can be run. -/
inductive Refusal where
  /-- Help is asked for. -/
  | help
  | usage (e : UsageError)
  deriving DecidableEq

def programName : Text := "condition-engine"

def quotedVerbs : Text := Text.intercalate ", " (Verb.all.map fun v => Datum.quotedText v.text)

def UsageProblem.message : UsageProblem → Text
  | .ambiguous word spellings =>
    "ambiguous option: " ++ word ++ " could match " ++ Text.intercalate ", " spellings
  | .valueExpected s => "argument " ++ s.text ++ ": expected one argument"
  | .valueIgnored s value =>
    "argument " ++ s.text ++ ": ignored explicit argument " ++ Datum.quotedText value
  | .missing names => "the following arguments are required: " ++ Text.intercalate ", " names
  | .unrecognized words => "unrecognized arguments: " ++ Text.intercalate " " words
  | .noSuchVerb word =>
    "argument command: invalid choice: " ++ Datum.quotedText word ++ " (choose from " ++
      quotedVerbs ++ ")"

def UsageError.message (e : UsageError) : Text :=
  programName ++ (e.verb.map fun v => (" " ++ v.text : Text)).getD "" ++ ": error: " ++
    e.problem.message

/-! ### Words -/

/-- What a word counts as. -/
inductive Word where
  | operand (text : Text)
  | separator
  /-- An option with the value in the same word, which an equals sign sets off or not. -/
  | option (s : Switch) (isShort : Bool) (value : Option (Bool × Text))
  | unknown (text : Text)
  deriving DecidableEq

/-- Whether a text is a negative number without an exponent, a line feed after it or not. -/
def isNegativeNumber (cs : List Point) : Bool :=
  let isDigit (c : Point) : Bool := (Text.digitWorth? c).isSome
  let isDigits (cs : List Point) : Bool := !cs.isEmpty && cs.all isDigit
  let cs := if cs.getLast? = some (.char '\n') then cs.dropLast else cs
  match cs with
  | .char '-' :: r =>
    isDigits r || (match r.dropWhile isDigit with
      | .char '.' :: fraction => isDigits fraction
      | _ => false)
  | _ => false

/-- A word before its first equals sign and, if there is one, after it. -/
def splitValue (word : Text) : Text × Option Text :=
  let cs := word.toList
  (.ofList (cs.takeWhile (· ≠ .char '=')),
    if cs.contains '=' then some (.ofList ((cs.dropWhile (· ≠ .char '=')).drop 1)) else none)

/-- The options that a word may abbreviate, with the value in it. -/
def candidates (spellings : List (Text × Switch)) (word : Text) :
    List (Text × Word) :=
  match word.toList with
  | .char '-' :: .char '-' :: _ =>
    let (name, value) := splitValue word
    (spellings.filter fun (s, _) => name.toList.isPrefixOf s.toList).map fun (s, switch) =>
      (s, .option switch false (value.map (true, ·)))
  | c :: d :: rest =>
    (spellings.filter fun (s, _) => s.toList = [c, d]).map fun (s, switch) =>
      (s, .option switch true (some (false, .ofList rest)))
  | _ => []

/-- A word that is no separator. Words in front of which no hyphen stands are operands, and
so are a lone hyphen, negative numbers, and what holds a space and is no option. -/
def classify (spellings : List (Text × Switch)) (word : Text) : Except UsageProblem Word :=
  let cs := word.toList
  if cs.head? ≠ some (.char '-') ∨ cs = [.char '-'] then .ok (.operand word)
  else match spellings.lookup word with
    | some s => .ok (.option s (cs.take 2 ≠ [.char '-', .char '-']) none)
    | none =>
      let (name, value) := splitValue word
      match value, spellings.lookup name with
      | some v, some s => .ok (.option s (cs.take 2 ≠ [.char '-', .char '-']) (some (true, v)))
      | _, _ =>
        match candidates spellings word with
        | [(_, w)] => .ok w
        | [] =>
          .ok (if isNegativeNumber cs || cs.contains ' ' then .operand word else .unknown word)
        | several => .error (.ambiguous word (several.map (·.1)))

/-- All words; those after the first separator are operands. -/
def classifyAll (spellings : List (Text × Switch)) : List Text → Except UsageProblem (List Word)
  | [] => .ok []
  | word :: words =>
    if word = "--" then .ok (.separator :: words.map .operand)
    else do return (← classify spellings word) :: (← classifyAll spellings words)

namespace Word

def isOption : Word → Bool
  | .option .. | .unknown _ => true
  | .operand _ | .separator => false

/-- A word that is no option as it was written. -/
def text : Word → Text
  | .operand text | .unknown text => text
  | .separator => "--"
  | .option s _ _ => s.text

end Word

/-! ### Operands -/

/-- The words of one operand: a separator may stand on either side of its text. -/
def takeOperand : List Word → Option (List Text × List Word)
  | .operand a :: .separator :: rest => some ([a, "--"], rest)
  | .operand a :: rest => some ([a], rest)
  | .separator :: .operand a :: rest => some (["--", a], rest)
  | _ => none

/-- An operand from its words, of which the first separator is dropped. A text that looks
like a separator is dropped with it, and then nothing is left. -/
def operandOf (words : List Text) : Datum :=
  match words.erase "--" with
  | [a] => .string a
  | as => .list (as.map .string)

/-- As many operands as there are, but no more than wanted, and the words left over. -/
def takeOperands : Nat → List Word → List Datum × List Word
  | 0, ws => ([], ws)
  | n + 1, ws =>
    match takeOperand ws with
    | some (words, rest) =>
      let (taken, rest) := takeOperands n rest
      (operandOf words :: taken, rest)
    | none => ([], ws)

/-! ### The words of a verb -/

/-- What has been read of a verb's words. -/
structure Collected where
  operands : List Datum := []
  context : Option Text := none
  logLevel : Option Text := none
  ignoresCase : Bool := false
  /-- Words that mean nothing. -/
  extras : List Text := []

/-- An option with its value. -/
def Collected.set (c : Collected) (s : Switch) (value : Text) : Collected :=
  match s with
  | .context => { c with context := some value }
  | .logLevel => { c with logLevel := some value }
  | .ignoreCase => { c with ignoresCase := true }
  | .help => c

/-! ### Requests for help -/

/-- What is written after the letter for help in one word and is no letter, if anything
is: help can be asked for again, and another letter is passed over. -/
def afterLetters : List Point → Option Text
  | .char 'h' :: .char '=' :: cs => some (.ofList cs)
  | .char 'h' :: cs => afterLetters cs
  | .char '-' :: cs => some (.ofList ('-' :: cs))
  | _ => none

/-- Help takes no value. -/
def refuseHelp (isShort : Bool) (value : Option (Bool × Text)) (verb : Option Verb) : Refusal :=
  let ignored := match value with
    | none => none
    | some (setOff, v) => if isShort && !setOff then afterLetters v.toList else some v
  match ignored with
  | some v => .usage ⟨verb, .valueIgnored .help v⟩
  | none => .help

/-! ### Verbs and their words -/

/-- Reads the words of a verb that wants so many more operands. -/
def collect (verb : Verb) (wanted : Nat) (c : Collected) : List Word → Except Refusal Collected
  | [] => .ok c
  | .unknown text :: ws => collect verb wanted { c with extras := c.extras ++ [text] } ws
  | .option s isShort value :: ws =>
    if s = .help then .error (refuseHelp isShort value verb)
    else match s.takesValue, value with
      | true, some (_, v) => collect verb wanted (c.set s v) ws
      | true, none =>
        match ws with
        | .operand v :: ws => collect verb wanted (c.set s v) ws
        | _ => .error (.usage ⟨verb, .valueExpected s⟩)
      | false, some (_, v) => .error (.usage ⟨verb, .valueIgnored s v⟩)
      | false, none => collect verb wanted (c.set s "") ws
  | w :: ws =>
    let (taken, left) := takeOperands wanted (w :: ws.takeWhile (!·.isOption))
    collect verb (wanted - taken.length)
      { c with operands := c.operands ++ taken, extras := c.extras ++ left.map Word.text }
      (ws.dropWhile (!·.isOption))
termination_by ws => ws.length
decreasing_by
  all_goals simp only [List.length_cons]
  all_goals try omega
  exact Nat.lt_succ_of_le (List.dropWhile_sublist _).length_le

/-- A command line that can be run. -/
structure Request where
  verb : Verb
  /-- As many as the verb has. -/
  operands : List Datum
  context : Option Text
  logLevel : Option Text
  ignoresCase : Bool

/-- Reads a verb's words; `extras` are words before it that mean nothing. -/
def readVerb (verb : Verb) (extras words : List Text) : Except Refusal Request :=
  match classifyAll verb.spellings words with
  | .error problem => .error (.usage ⟨verb, problem⟩)
  | .ok ws => do
    let c ← collect verb verb.operands.length {} ws
    let missing := verb.operands.drop c.operands.length
    if missing ≠ [] then throw (.usage ⟨verb, .missing missing⟩)
    let extras := extras ++ c.extras
    if extras ≠ [] then throw (.usage ⟨none, .unrecognized extras⟩)
    return ⟨verb, c.operands, c.context, c.logLevel, c.ignoresCase⟩

def readRequest (extras : List Text) : List Text → Except Refusal Request
  | [] => .error (.usage ⟨none, .missing ["command"]⟩)
  | word :: words =>
    if word = "--" then
      .error (.usage ⟨none, if words = [] then .missing ["command"] else .noSuchVerb word⟩)
    else match classify [("-h", .help), ("--help", .help)] word with
      | .ok (.unknown text) => readRequest (extras ++ [text]) words
      | .ok (.option _ isShort value) => .error (refuseHelp isShort value none)
      | .ok _ =>
        match Verb.all.find? (·.text = word) with
        | some verb => readVerb verb extras words
        | none => .error (.usage ⟨none, .noSuchVerb word⟩)
      | .error problem => .error (.usage ⟨none, problem⟩)

/-- The request that the words of a command line make. -/
def Request.ofWords (words : List Text) : Except Refusal Request := readRequest [] words

end Verdict.Command
