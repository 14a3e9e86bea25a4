import DocPages.Text.Sorted
import DocPages.TypeEntry
import Std.Data.ExtTreeMap

/-!
All documented types of a document. Records are added one at a time; the first record of an owner
brings the type into being and fixes its namespace. Types keep the order in which they were first
mentioned, an index finds a type by its full name, and a second map lists the types of each
namespace.
-/

namespace DocPages

structure Catalogue where
  /-- The types in the order in which they were first mentioned. -/
  types : Array TypeEntry
  /-- The place of each type among `types`, by its full name. -/
  index : Std.ExtTreeMap String Nat
  /-- The full names of the types of each namespace other than the global one. -/
  namespaces : Std.ExtTreeMap String (List String)

/-- How much is documented. -/
structure Totals where
  types : Nat
  methods : Nat
  fields : Nat
  properties : Nat
  deriving DecidableEq, Repr

namespace Catalogue

def empty : Catalogue where
  types := #[]
  index := ∅
  namespaces := ∅

/-- The type with this full name. -/
def get? (catalogue : Catalogue) (owner : String) : Option TypeEntry :=
  catalogue.index[owner]? >>= fun place => catalogue.types[place]?

/-- Makes an entry for the type in its namespace, unless it is listed there; the global namespace
has none. -/
def register (namespaces : Std.ExtTreeMap String (List String)) (owner namespaceName : String) :
    Std.ExtTreeMap String (List String) :=
  let listed := namespaces.getD namespaceName []
  if namespaceName = "" then namespaces
  else namespaces.insert namespaceName (if owner ∈ listed then listed else listed ++ [owner])

/-- Changes the type with this full name, which starts out empty in the given namespace if it has
not been mentioned before. -/
def update (catalogue : Catalogue) (owner namespaceName : String)
    (change : TypeEntry → TypeEntry) : Catalogue :=
  match catalogue.index[owner]? with
  | some place => { catalogue with types := catalogue.types.modify place change }
  | none =>
    { types := catalogue.types.push (change (.new owner namespaceName))
      index := catalogue.index.insert owner catalogue.types.size
      namespaces := register catalogue.namespaces owner namespaceName }

/-- Adds a record to its owner. A record of an unknown kind adds nothing, not even its owner. -/
def add (catalogue : Catalogue) (record : Record) : Catalogue :=
  let id := record.identifier
  if id.kind.isOther then catalogue
  else catalogue.update id.owner id.namespaceName (·.absorb record)

def ofRecords (records : List Record) : Catalogue :=
  records.foldl add empty

def size (catalogue : Catalogue) : Nat :=
  catalogue.types.size

def isEmpty (catalogue : Catalogue) : Bool :=
  catalogue.types.isEmpty

/-- The types by full name, as navigation lists them. -/
def typesByName (catalogue : Catalogue) : List TypeEntry :=
  Text.sortBy TypeEntry.fullName catalogue.types.toList

def totals (catalogue : Catalogue) : Totals where
  types := catalogue.size
  methods := (catalogue.types.toList.flatMap (·.methods)).length
  fields := (catalogue.types.toList.flatMap (·.fields)).length
  properties := (catalogue.types.toList.flatMap (·.properties)).length

end Catalogue

end DocPages
