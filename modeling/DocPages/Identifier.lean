import DocPages.Text.Cut

/-!
Identifiers of documented members, such as `M:App.Player.Move(System.Single)`: a code for the kind
of member, a colon, and a dotted path. Parameter types are dotted too, so a parameter list is taken
off before the last dot of the path is looked up. An identifier keeps every character of the text
that it was read from.
-/

namespace DocPages

/-- What an identifier names. A code other than the four known ones is kept but documents
nothing. -/
inductive Kind where
  | type
  | method
  | field
  | property
  | other (code : String)
  deriving DecidableEq, Repr

namespace Kind

def ofCode (code : String) : Kind :=
  match code with
  | "T" => type
  | "M" => method
  | "F" => field
  | "P" => property
  | _ => other code

def code : Kind → String
  | type => "T"
  | method => "M"
  | field => "F"
  | property => "P"
  | other code => code

def isOther : Kind → Bool
  | other _ => true
  | _ => false

end Kind

/-- The last segment of a dotted name. -/
def simpleName (name : String) : String :=
  match Text.cutLast? '.' name.toList with
  | some (_, last) => .ofList last
  | none => name

/-- A dotted name without its last segment; a name without a dot is in no namespace. -/
def enclosingName (name : String) : String :=
  match Text.cutLast? '.' name.toList with
  | some (before, _) => .ofList before
  | none => ""

structure Identifier where
  kind : Kind
  /-- The full name of the type that the entry belongs to. -/
  owner : String
  /-- The last segment of a member's path. A type has none, nor has a path without a dot. -/
  member : Option String
  /-- What stands in the path from its first parenthesis on. -/
  signature : Option String
  /-- The namespace of the owner, empty for the global one. -/
  namespaceName : String
  deriving DecidableEq, Repr

namespace Identifier

def simpleName (id : Identifier) : String :=
  DocPages.simpleName id.owner

/-- A member's path in two: what stands before the first parenthesis, and the rest from there. -/
def cutParameters (path : List Char) : List Char × Option (List Char) :=
  match Text.cutFirst? '(' path with
  | some (base, list) => (base, some ('(' :: list))
  | none => (path, none)

/-- The identifier with this kind and path. The path of a type is all owner. -/
def ofPath (kind : Kind) (path : List Char) : Identifier :=
  let ofOwner (owner : List Char) (member signature : Option (List Char)) : Identifier :=
    { kind, owner := .ofList owner, member := member.map .ofList
      signature := signature.map .ofList, namespaceName := enclosingName (.ofList owner) }
  if kind = .type then ofOwner path none none
  else
    let (base, signature) := cutParameters path
    match Text.cutLast? '.' base with
    | some (owner, member) => ofOwner owner (some member) signature
    | none => ofOwner base none signature

/-- Reads an identifier. There is none unless the text holds exactly one colon. -/
def parse? (text : String) : Option Identifier :=
  match Text.cutFirst? ':' text.toList with
  | none => none
  | some (code, path) =>
    if path.contains ':' then none else some (ofPath (.ofCode (.ofList code)) path)

end Identifier

end DocPages
