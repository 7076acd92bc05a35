import Verdict.ContextFile
import Verdict.Document.Data

/-! The reader of documents that the program hands in. -/

namespace Verdict.Document

/-- What is wrong with a document that does not follow the grammar. -/
def malformedText : Text := "the document is not well-formed"

def reader : DocumentReader := fun text =>
  (readDatum text).mapError fun
    | .malformed => .malformed malformedText
    | .fault f => .raised f.title f.message

end Verdict.Document
