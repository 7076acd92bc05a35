import Verdict.ContextFile.Path
import Verdict.Datum
import Verdict.Text.Utf8

/-! Context files: documents that hold one mapping, in UTF-8. What reads the documents is handed
in; it may say that a text is no document, and it may raise anything else. -/

namespace Verdict

/-! ### Readers -/

/-- Why a reader of documents gives no datum. -/
inductive ReaderError where
  /-- The text does not follow the format, for this reason. -/
  | malformed (problem : Text)
  /-- Any other error, by its title and its message. -/
  | raised (title message : Text)
  deriving DecidableEq

/-- What reads documents: the datum in a text, nothing in one without content. -/
abbrev DocumentReader := List Point → Except ReaderError Datum

/-! ### Paths -/

/-- What comes of looking for a path: an error where the path cannot be followed to its end, else
the bytes that are found there, or the error of reading them. -/
inductive Target where
  | failed (e : SystemError)
  | found (bytes : Except SystemError (List UInt8))

namespace ContextFile

/-- A text with a line feed in place of every end of a line. -/
def unifyLines : List Point → List Point
  | .char '\r' :: .char '\n' :: cs => '\n' :: unifyLines cs
  | .char '\r' :: cs => '\n' :: unifyLines cs
  | c :: cs => c :: unifyLines cs
  | [] => []

/-- The mapping in a document; one without content counts as empty. -/
def entriesOf (read : DocumentReader) (path : Text) (text : List Point) :
    Except Fault (List (Datum × Datum)) :=
  match read text with
  | .error (.malformed problem) => .error (.contextFile path (.malformed problem))
  | .error (.raised title message) => .error (.raised title message)
  | .ok .null => .ok []
  | .ok (.mapping entries) => .ok entries
  | .ok _ => .error (.contextFile path .notMapping)

/-- The mapping in the file that a path leads to. -/
def load (read : DocumentReader) (path : Path) (target : Target) :
    Except Fault (List (Datum × Datum)) :=
  let name := path.text
  match target with
  | .failed e =>
    if e.leadsNowhere then .error (.contextFile name .missing) else .error (.system name e)
  | .found (.error e) => .error (.contextFile name (.unreadable (e.message name)))
  | .found (.ok bytes) =>
    match Text.decodeUtf8 0 bytes with
    | .error e => .error (.contextFile name (.unreadable e.message))
    | .ok text => entriesOf read name (unifyLines text)

end ContextFile

end Verdict
