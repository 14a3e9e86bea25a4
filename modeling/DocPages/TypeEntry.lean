import DocPages.Record

/-!
The documentation of one type: its own texts and those of its members, each sort of member in the
order of the document.
-/

namespace DocPages

structure MethodEntry where
  name : String
  signature : String
  summary : String
  params : List Parameter
  returns : String
  remarks : String
  deriving DecidableEq, Repr

/-- A field or a property. -/
structure ValueEntry where
  name : String
  summary : String
  deriving DecidableEq, Repr

structure TypeEntry where
  fullName : String
  simpleName : String
  namespaceName : String
  summary : String := ""
  remarks : String := ""
  exampleText : String := ""
  methods : List MethodEntry := []
  fields : List ValueEntry := []
  properties : List ValueEntry := []
  deriving DecidableEq, Repr

namespace MethodEntry

def ofRecord (record : Record) : MethodEntry where
  name := record.identifier.member.getD ""
  signature := record.identifier.signature.getD ""
  summary := record.summary
  params := record.params
  returns := record.returns
  remarks := record.remarks

end MethodEntry

namespace ValueEntry

def ofRecord (record : Record) : ValueEntry where
  name := record.identifier.member.getD ""
  summary := record.summary

end ValueEntry

namespace TypeEntry

/-- A type of which nothing is documented yet. -/
def new (fullName namespaceName : String) : TypeEntry where
  fullName
  simpleName := DocPages.simpleName fullName
  namespaceName

/-- The type with one more record of its own: a later description of the type itself replaces an
earlier one, and a member is listed behind those that came before. -/
def absorb (type : TypeEntry) (record : Record) : TypeEntry :=
  match record.identifier.kind with
  | .type =>
    { type with
      summary := record.summary, remarks := record.remarks, exampleText := record.exampleText }
  | .method => { type with methods := type.methods ++ [.ofRecord record] }
  | .field => { type with fields := type.fields ++ [.ofRecord record] }
  | .property => { type with properties := type.properties ++ [.ofRecord record] }
  | .other _ => type

def memberTotal (type : TypeEntry) : Nat :=
  type.methods.length + type.fields.length + type.properties.length

end TypeEntry

end DocPages
