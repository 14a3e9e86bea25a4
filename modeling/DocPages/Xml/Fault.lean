/-!
Why the text of a document cannot be read as XML. A fault is a cause; `Fault.message` words it.
-/

namespace DocPages.Xml

inductive Fault where
  | unclosedReference
  | unclosedTag
  | unknownMarkup
  | unclosedCData
  | unclosedComment
  | unclosedDoctype
  | namelessDoctype
  | unclosedInstruction
  /-- A closing tag that does not carry the name of the innermost open element. -/
  | mismatchedClose (expected found : String)
  /-- A closing tag where no element is open. -/
  | strayClose (found : String)
  deriving DecidableEq, Repr

namespace Fault

private def notFound (what mark : String) : String :=
  what ++ " not closed: `" ++ mark ++ "` not found before end of input"

def message : Fault → String
  | unclosedReference => "ill-formed document: " ++ notFound "entity or character reference" ";"
  | unclosedTag => "syntax error: " ++ notFound "tag" ">"
  | unknownMarkup => "syntax error: unknown or missed symbol in markup"
  | unclosedCData => "syntax error: " ++ notFound "CDATA" "]]>"
  | unclosedComment => "syntax error: " ++ notFound "comment" "-->"
  | unclosedDoctype => "syntax error: " ++ notFound "DOCTYPE" ">"
  | namelessDoctype =>
    "ill-formed document: `<!DOCTYPE>` declaration does not contain a name of a document type"
  | unclosedInstruction =>
    "syntax error: " ++ notFound "processing instruction or xml declaration" "?>"
  | mismatchedClose expected found =>
    "ill-formed document: expected `</" ++ expected ++ ">`, but `</" ++ found ++ ">` was found"
  | strayClose found =>
    "ill-formed document: close tag `</" ++ found ++ ">` does not match any open tag"

end Fault

end DocPages.Xml
