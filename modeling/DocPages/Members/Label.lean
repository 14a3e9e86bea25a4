import DocPages.Identifier
import DocPages.Xml.Event

/-!
The words that stand in a text for an element that only refers to something else, such as
`<see cref="M:App.Player.Jump(System.Single)"/>`. They are used when the element has no body.
-/

namespace DocPages.Members

/-- The elements that refer to something else. -/
def referringElements : List String :=
  ["see", "seealso", "paramref", "typeparamref"]

/-- The short name of what a cross-reference names: without the kind in front, the parameter list
behind, and the enclosing names. -/
def targetLabel (target : String) : String :=
  let path :=
    match Text.cutFirst? ':' target.toList with
    | some (_, path) => path
    | none => target.toList
  simpleName (.ofList (Identifier.cutParameters path).1)

/-- The label of a referring element: its target's, or else the name or the keyword it gives. -/
def label? (tag : Xml.Tag) : Option String :=
  if referringElements.contains tag.localName then
    (tag.attribute? "cref").map targetLabel <|> tag.attribute? "name" <|> tag.attribute? "langword"
  else none

end DocPages.Members
