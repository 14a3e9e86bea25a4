import DocPages.Identifier

/-!
The documentation of one member as it stands in the document, reduced to plain texts. A text that
is not given is empty.
-/

namespace DocPages

structure Parameter where
  name : String
  description : String
  deriving DecidableEq, Repr

structure Record where
  identifier : Identifier
  summary : String
  remarks : String
  exampleText : String
  returns : String
  params : List Parameter
  deriving DecidableEq, Repr

end DocPages
