import DocPages.Record

/-!
The parts of a member's documentation, and a member whose parts are still being gathered. The first
part of each sort counts, apart from parameters, of which every one counts.
-/

namespace DocPages.Members

/-- The sorts of documentation that an element of a member may hold. -/
inductive Section where
  | summary
  | remarks
  | exampleText
  | returns
  /-- The description of the parameter with this name. -/
  | param (name : String)
  deriving DecidableEq, Repr

/-- A named member whose element is still open. -/
structure Draft where
  name : String
  summary : Option String := none
  remarks : Option String := none
  exampleText : Option String := none
  returns : Option String := none
  params : List Parameter := []
  deriving DecidableEq, Repr

namespace Draft

/-- The draft with one more part; a sort that has been given already stays as it is. -/
def fill (draft : Draft) (sort : Section) (text : String) : Draft :=
  match sort with
  | .summary => { draft with summary := draft.summary <|> some text }
  | .remarks => { draft with remarks := draft.remarks <|> some text }
  | .exampleText => { draft with exampleText := draft.exampleText <|> some text }
  | .returns => { draft with returns := draft.returns <|> some text }
  | .param name => { draft with params := draft.params ++ [⟨name, text⟩] }

/-- The record of the finished member, if its name is an identifier. -/
def record? (draft : Draft) : Option Record :=
  (Identifier.parse? draft.name).map fun identifier =>
    { identifier
      summary := draft.summary.getD ""
      remarks := draft.remarks.getD ""
      exampleText := draft.exampleText.getD ""
      returns := draft.returns.getD ""
      params := draft.params }

end Draft

end DocPages.Members
