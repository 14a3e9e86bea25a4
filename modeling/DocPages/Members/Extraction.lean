import DocPages.Members.Gathering
import DocPages.Xml.Reading

/-!
The members of a whole document, or why it is refused. A document has exactly one outermost
element, which is closed, and it uses no reference that would have to be declared. The first event
against this decides, whatever comes later; what was gathered up to there is kept for the log.
-/

namespace DocPages.Members

open Xml (Event Ending Reading)

/-- What is wrong with a document. -/
inductive Problem where
  | unreadable (fault : Xml.Fault)
  | unknownReference (name : String)
  /-- An element begins behind the end of the outermost one. -/
  | secondRoot (localName : String)
  | noRoot
  | unclosedElement (localName : String)
  deriving DecidableEq, Repr

def Problem.message : Problem → String
  | unreadable fault => fault.message
  | unknownReference name => "unknown entity &" ++ name ++ ";"
  | secondRoot name => "unexpected second root element <" ++ name ++ ">"
  | noRoot => "no root element found"
  | unclosedElement name => "unexpected end of document, <" ++ name ++ "> is not closed"

/-- A problem and the position up to which the document was read when it showed. -/
structure Defect where
  problem : Problem
  position : Nat
  deriving DecidableEq, Repr

namespace Gathering

/-- The problem with an event at this place, if there is one. -/
def problem? (g : Gathering) : Event → Option Problem
  | .start tag | .empty tag =>
    if g.rootSeen && g.opened.isEmpty then some (.secondRoot tag.localName) else none
  | .reference name =>
    if (Xml.referent? name.toList).isNone then some (.unknownReference name) else none
  | _ => none

/-- The problem with a document that ends here. -/
def problemAtEnd? (g : Gathering) : Option Problem :=
  if !g.rootSeen then some .noRoot else g.opened.head?.map .unclosedElement

def defectAtEnd? (g : Gathering) : Ending → Option Defect
  | .broken fault position => some ⟨.unreadable fault, position⟩
  | .complete position => g.problemAtEnd?.map (⟨·, position⟩)

/-- Takes the events in turn, up to the first with a problem. -/
def run (ending : Ending) : Gathering → List (Event × Nat) → Gathering × Option Defect
  | g, [] => (g, g.defectAtEnd? ending)
  | g, (event, position) :: later =>
    match g.problem? event with
    | some problem => (g, some ⟨problem, position⟩)
    | none => run ending (g.step event) later

end Gathering

structure Extraction where
  /-- What became of the members, in document order. -/
  entries : List Entry
  defect? : Option Defect
  deriving DecidableEq, Repr

namespace Extraction

def ofReading (reading : Reading) : Extraction :=
  let finished := Gathering.run reading.ending {} reading.events
  { entries := finished.1.entries, defect? := finished.2 }

def ofText (s : String) : Extraction :=
  ofReading (Reading.ofText s)

def records (extraction : Extraction) : Except Defect (List Record) :=
  match extraction.defect? with
  | some defect => .error defect
  | none => .ok (extraction.entries.filterMap Entry.record?)

theorem records_eq_error_iff (extraction : Extraction) (defect : Defect) :
    extraction.records = .error defect ↔ extraction.defect? = some defect := by
  unfold records
  cases extraction.defect? <;> simp

theorem records_eq_ok_iff (extraction : Extraction) (records : List Record) :
    extraction.records = .ok records ↔
      extraction.defect? = none ∧ extraction.entries.filterMap Entry.record? = records := by
  unfold Extraction.records
  cases extraction.defect? <;> simp

end Extraction

end DocPages.Members
