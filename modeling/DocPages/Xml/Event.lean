import DocPages.Text.Cut
import DocPages.Xml.Fault
import DocPages.Xml.Reference

/-!
What a document says, piece by piece. A reading is the list of the pieces that could be read, each
with the position right behind it, and the way the reading ended. Positions count bytes of the
UTF-8 form.
-/

namespace DocPages.Xml

/-- The characters that separate the parts of a tag. -/
def isSpace (c : Char) : Bool :=
  c == ' ' || c == '\t' || c == '\r' || c == '\n'

/-- The name without its prefix, which ends at the first colon. -/
def localPart (name : String) : String :=
  match Text.cutFirst? ':' name.toList with
  | some (_, after) => .ofList after
  | none => name

/-- An attribute with its value as it is written, references included. -/
structure Attribute where
  name : String
  value : String
  deriving DecidableEq, Repr

structure Tag where
  name : String
  attributes : List Attribute
  deriving DecidableEq, Repr

namespace Tag

def localName (tag : Tag) : String :=
  localPart tag.name

/-- The value of the first attribute with this local name, its references replaced. -/
def attribute? (tag : Tag) (localName : String) : Option String :=
  (tag.attributes.find? fun a => localPart a.name == localName).map (unescape ·.value)

end Tag

inductive Event where
  /-- A start tag; the element is open from here on. -/
  | start (tag : Tag)
  /-- An element without content, written as one tag. -/
  | empty (tag : Tag)
  /-- A closing tag. -/
  | close (name : String)
  | text (content : String)
  | cdata (content : String)
  /-- A reference `&name;` in running text. -/
  | reference (name : String)
  /-- A comment, a processing instruction or a document type, which say nothing here. -/
  | aside
  deriving DecidableEq, Repr

inductive Ending where
  | complete (position : Nat)
  | broken (fault : Fault) (position : Nat)
  deriving DecidableEq, Repr

structure Reading where
  events : List (Event × Nat)
  ending : Ending
  deriving DecidableEq, Repr

namespace Reading

def cons (event : Event) (position : Nat) (reading : Reading) : Reading :=
  { reading with events := (event, position) :: reading.events }

end Reading

end DocPages.Xml
