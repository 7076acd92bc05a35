import Verdict.Text.Quoted

/-! Everything that can stop a computation, by cause. A fault has a title, which names
its family, and a message. -/

namespace Verdict

/-- What the system says of a path that it cannot follow or read. -/
structure SystemError where
  number : Nat
  text : Text
  deriving DecidableEq

/-- Why a context file cannot be used. -/
inductive ContextFileError where
  | missing
  | unreadable (reason : Text)
  /-- The reader of documents finds this wrong with it. -/
  | malformed (problem : Text)
  | notMapping
  deriving DecidableEq

/-- Why a text with directives cannot be filled in. -/
inductive DirectiveError where
  | incomplete
  | incompleteKey
  | tooFewArguments
  | tooManyArguments
  | mappingRequired
  /-- The mapping has no such key. -/
  | missingKey (name : Text)
  | realRequired (conversion : Point) (kind : Text)
  | integerRequired (conversion : Point) (kind : Text)
  | numberRequired (kind : Text)
  | characterRequired
  | characterRange
  | widthRequired
  | widthTooBig
  | precisionTooBig
  /-- An amount taken from an argument is beyond the integers of this machine type. -/
  | amountTooBig (type : Text)
  /-- The text would not fit into memory. -/
  | noRoom
  | unknownConversion (conversion : Point) (index : Nat)
  deriving DecidableEq

/-- Why a scalar in a document has no reading under its tag. -/
inductive ScalarError where
  | notInteger (base : Nat) (text : List Point)
  | notReal (text : List Point)
  | notBoolean (text : List Point)
  /-- A number without any character besides its sign. -/
  | emptyNumber
  | notTimestamp
  | yearRange
  | monthRange
  | dayRange
  | hourRange
  | minuteRange
  | secondRange
  /-- The offset from universal time is a day or more. -/
  | offsetRange (seconds : Int)
  /-- An escape names a number that no character has. -/
  | characterRange
  | characterOverflow
  deriving DecidableEq

inductive Fault where
  /-- An integer has too many digits to be written as text. -/
  | digitLimit
  /-- A text holds an integer of too many digits. -/
  | digitLimitRead (digits : Nat)
  | infinityToInteger
  | nanToInteger
  | integerTooLarge
  | emptyDelimiter
  | emptyTransformName
  | notCallable (name : Text)
  | notText (kind : Text)
  | notJson (kind : Text)
  /-- A JSON text goes too deep, and this is what comes then. -/
  | tooDeep (activity : Text)
  | notValues (kind : Text)
  | notOperand (role kind : Text)
  | notExpression (kind : Text)
  | notIterable (kind : Text)
  | unknownLevel (text : Text)
  | levelNotNumber (text : Text)
  | directive (error : DirectiveError)
  | invalidSettings (problems : List (Text × Text))
  | contextFile (path : Text) (error : ContextFileError)
  | scalar (error : ScalarError)
  | system (path : Text) (error : SystemError)
  /-- A function handed in by the caller raised this. -/
  | raised (title message : Text)
  deriving DecidableEq

namespace SystemError

/-- The families of errors that have a name of their own, by their numbers. -/
def titles : List (Nat × Text) := [
  (1, "PermissionError"), (2, "FileNotFoundError"), (3, "ProcessLookupError"),
  (4, "InterruptedError"), (10, "ChildProcessError"), (11, "BlockingIOError"),
  (13, "PermissionError"), (17, "FileExistsError"), (20, "NotADirectoryError"),
  (21, "IsADirectoryError"), (32, "BrokenPipeError"), (103, "ConnectionAbortedError"),
  (104, "ConnectionResetError"), (108, "BrokenPipeError"), (110, "TimeoutError"),
  (111, "ConnectionRefusedError"), (114, "BlockingIOError"), (115, "BlockingIOError")]

def title (e : SystemError) : Text := (titles.lookup e.number).getD "OSError"

def message (path : Text) (e : SystemError) : Text :=
  "[Errno " ++ toString e.number ++ "] " ++ e.text ++ ": " ++ .ofList (Text.quoted path.toList)

/-- Whether the error says that a path leads nowhere: there is no such entry, a part on the way is
no directory, a descriptor is bad, or links go round in circles. -/
def leadsNowhere (e : SystemError) : Bool := [2, 20, 9, 40].contains e.number

end SystemError

namespace ContextFileError

def message (path : Text) : ContextFileError → Text
  | .missing => "Context file not found: " ++ path
  | .unreadable reason => "Cannot read context file " ++ path ++ ": " ++ reason
  | .malformed problem => "Invalid context file " ++ path ++ ": " ++ problem
  | .notMapping => "Context file " ++ path ++ " must contain a mapping"

end ContextFileError

namespace DirectiveError

def title : DirectiveError → Text
  | .incomplete | .incompleteKey | .widthTooBig | .precisionTooBig | .unknownConversion .. =>
    "ValueError"
  | .missingKey _ => "KeyError"
  | .characterRange | .amountTooBig _ => "OverflowError"
  | .noRoom => "MemoryError"
  | .tooFewArguments | .tooManyArguments | .mappingRequired | .realRequired ..
  | .integerRequired .. | .numberRequired _ | .characterRequired | .widthRequired => "TypeError"

/-- A character in a message; what is not plain shows as a question mark. -/
def shown (c : Point) : Text :=
  Text.singleton (if 31 ≤ c.toNat ∧ c.toNat < 127 then c else '?') ++ "' (0x" ++
    .ofList (Text.toDigits 16 c.toNat) ++ ")"

def message : DirectiveError → Text
  | .incomplete => "incomplete format"
  | .incompleteKey => "incomplete format key"
  | .tooFewArguments => "not enough arguments for format string"
  | .tooManyArguments => "not all arguments converted during string formatting"
  | .mappingRequired => "format requires a mapping"
  | .missingKey name => .ofList (Text.quoted name.toList)
  | .realRequired c kind =>
    "%" ++ .singleton c ++ " format: a real number is required, not " ++ kind
  | .integerRequired c kind =>
    "%" ++ .singleton c ++ " format: an integer is required, not " ++ kind
  | .numberRequired kind => "must be real number, not " ++ kind
  | .characterRequired => "%c requires int or char"
  | .characterRange => "%c arg not in range(0x110000)"
  | .widthRequired => "* wants int"
  | .widthTooBig => "width too big"
  | .precisionTooBig => "precision too big"
  | .amountTooBig type => "Python int too large to convert to C " ++ type
  | .noRoom => ""
  | .unknownConversion c index =>
    "unsupported format character '" ++ shown c ++ " at index " ++ toString index

end DirectiveError

namespace ScalarError

def title : ScalarError → Text
  | .notInteger .. | .notReal _ | .yearRange | .monthRange | .dayRange | .hourRange | .minuteRange
  | .secondRange | .offsetRange _ | .characterRange => "ValueError"
  | .notBoolean _ => "KeyError"
  | .emptyNumber => "IndexError"
  | .notTimestamp => "AttributeError"
  | .characterOverflow => "OverflowError"

/-- An offset by days and seconds; the seconds are never negative, and none are not shown. -/
def offsetText (seconds : Int) : Text :=
  let rest := seconds.emod 86400
  "datetime.timedelta(days=" ++ toString (seconds.ediv 86400) ++
    (if rest = 0 then "" else ", seconds=" ++ toString rest) ++ ")"

def message : ScalarError → Text
  | .notInteger base text =>
    "invalid literal for int() with base " ++ toString base ++ ": " ++
      .ofList ((Text.quoted text).take 200)
  | .notReal text => "could not convert string to float: " ++ .ofList (Text.quoted text)
  | .notBoolean text => .ofList (Text.quoted text)
  | .emptyNumber => "string index out of range"
  | .notTimestamp => "'NoneType' object has no attribute 'groupdict'"
  | .yearRange => "year 0 is out of range"
  | .monthRange => "month must be in 1..12"
  | .dayRange => "day is out of range for month"
  | .hourRange => "hour must be in 0..23"
  | .minuteRange => "minute must be in 0..59"
  | .secondRange => "second must be in 0..59"
  | .offsetRange seconds =>
    "offset must be a timedelta strictly between -timedelta(hours=24) and timedelta(hours=24), " ++
      "not " ++ offsetText seconds ++ "."
  | .characterRange => "chr() arg not in range(0x110000)"
  | .characterOverflow => "Python int too large to convert to C int"

end ScalarError

namespace Fault

def title : Fault → Text
  | .digitLimit | .digitLimitRead _ | .nanToInteger | .emptyDelimiter | .emptyTransformName
  | .unknownLevel _ => "ValueError"
  | .infinityToInteger | .integerTooLarge => "OverflowError"
  | .notCallable _ | .notText _ | .notJson _ | .notValues _ | .notOperand .. | .notExpression _
  | .notIterable _ | .levelNotNumber _ => "TypeError"
  | .tooDeep _ => "RecursionError"
  | .directive error => error.title
  | .invalidSettings _ => "ValidationError"
  | .contextFile .. => "ContextFileError"
  | .scalar error => error.title
  | .system _ error => error.title
  | .raised title _ => title

def limitText (detail : Text) : Text :=
  "Exceeds the limit (4300 digits) for integer string conversion" ++ detail ++
    "; use sys.set_int_max_str_digits() to increase the limit"

def message : Fault → Text
  | .digitLimit => limitText ""
  | .digitLimitRead n => limitText (": value has " ++ toString n ++ " digits")
  | .infinityToInteger => "cannot convert float infinity to integer"
  | .nanToInteger => "cannot convert float NaN to integer"
  | .integerTooLarge => "int too large to convert to float"
  | .emptyDelimiter => "Token delimiters must be non-empty"
  | .emptyTransformName => "Transform name cannot be empty"
  | .notCallable name => "Transform '" ++ name ++ "' must be callable"
  | .notText kind => "expected string or bytes-like object, got '" ++ kind ++ "'"
  | .notJson kind => "the JSON object must be str, bytes or bytearray, not " ++ kind
  | .tooDeep activity => "maximum recursion depth exceeded" ++ activity
  | .notValues kind => "values must be a mapping or a callable, got " ++ kind
  | .notOperand role kind => role ++ " must be an operand, got " ++ kind
  | .notExpression kind => "Logical operand must be an expression, got " ++ kind
  | .notIterable kind => "'" ++ kind ++ "' object is not iterable"
  | .unknownLevel text => "Unknown level: " ++ text
  | .levelNotNumber text => "Level not an integer or a valid string: " ++ text
  | .directive error => error.message
  | .invalidSettings problems =>
    Text.intercalate "; " (problems.map fun (field, problem) => field ++ ": " ++ problem)
  | .contextFile path error => error.message path
  | .scalar error => error.message
  | .system path error => error.message path
  | .raised _ message => message

end Fault

end Verdict
