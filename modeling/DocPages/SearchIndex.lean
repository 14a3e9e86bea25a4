import DocPages.Address
import DocPages.Catalogue

/-!
The search index: one row for every type, each followed by one for every method of that type.
Fields and properties are not searched for.
-/

namespace DocPages

/-- The methods with their anchors, in the order of the document. -/
def TypeEntry.anchoredMethods (type : TypeEntry) : List (MethodEntry × String) :=
  type.methods.zip (Address.anchors (type.methods.map (·.name)))

namespace SearchIndex

inductive Subject where
  | type
  | method
  deriving DecidableEq, Repr

structure Row where
  name : String
  fullName : String
  namespaceName : String
  summary : String
  url : String
  subject : Subject
  deriving DecidableEq, Repr

def typeRow (type : TypeEntry) : Row where
  name := type.simpleName
  fullName := type.fullName
  namespaceName := type.namespaceName
  summary := type.summary
  url := Address.page type.fullName
  subject := .type

def methodRow (type : TypeEntry) (method : MethodEntry) (anchor : String) : Row where
  name := type.simpleName ++ "." ++ method.name
  fullName := type.fullName ++ "." ++ method.name
  namespaceName := type.namespaceName
  summary := method.summary
  url := Address.ofMember type.fullName anchor
  subject := .method

def ofType (type : TypeEntry) : List Row :=
  typeRow type :: type.anchoredMethods.map fun (method, anchor) => methodRow type method anchor

def ofCatalogue (catalogue : Catalogue) : List Row :=
  catalogue.types.toList.flatMap ofType

end SearchIndex

end DocPages
