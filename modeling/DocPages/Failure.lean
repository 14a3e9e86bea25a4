import DocPages.FileSystem
import DocPages.Members.Extraction
import DocPages.Text.Quoted

/-!
Why a run comes to nothing. A failure is a cause; `Failure.message` words it.
-/

namespace DocPages

/-- What was to be done with a file. -/
inductive FileAction where
  | read (path : String)
  | makeDirectory (path : String)
  | write (path : String)
  /-- Anything of which no more is known. -/
  | unspecified
  deriving DecidableEq, Repr

def FileAction.failureText : FileAction → String
  | read path => "failed to read " ++ path
  | makeDirectory path => "failed to create output directory " ++ path
  | write path => "failed to write " ++ path
  | unspecified => "IO operation failed"

inductive Failure where
  | inputMissing (path : String)
  | file (action : FileAction) (cause : Cause)
  | document (defect : Members.Defect)
  /-- The document is sound, but no member in it belongs to a type. -/
  | nothingDocumented
  deriving DecidableEq, Repr

namespace Failure

def inputMissingText (path : String) : String :=
  "input file not found: " ++ Text.quoted path

def fileText (detail : String) : String :=
  "IO error: " ++ detail

def documentText (position : Nat) (detail : String) : String :=
  "XML parsing error at position " ++ position.repr ++ ": " ++ detail

def message : Failure → String
  | inputMissing path => inputMissingText path
  | file action _ => fileText action.failureText
  | document defect => documentText defect.position defect.problem.message
  | nothingDocumented => "no types found in the XML documentation"

def cause? : Failure → Option Cause
  | file _ cause => some cause
  | _ => none

end Failure

end DocPages
