import DocPages.Members.Label
import DocPages.Members.Section
import DocPages.Text.Blank
import DocPages.Text.Cut

/-!
Gathering members from the events of a document. A member is an element `member` inside an element
`members` inside the outermost one, and the elements right inside a member document it. Their text
is taken as it is read, elements further inside included, and a referring element without a text of
its own is replaced by its label.

A gathering knows where an event stands by the elements that are open. It takes any event and never
fails: what a document may not contain is judged in `Extraction`.
-/

namespace DocPages.Members

open Xml (Event Tag)

/-- What became of an element `member`. -/
inductive Entry where
  | unnamed
  /-- The name is no identifier. -/
  | unsupported (name : String)
  | documented (name : String) (record : Record)
  deriving DecidableEq, Repr

def Entry.record? : Entry → Option Record
  | documented _ record => some record
  | _ => none

/-- A referring element that is open inside a text. -/
structure OpenLabel where
  /-- How many elements are open around it. -/
  depth : Nat
  label : String
  /-- How many bytes of the text stand before it. -/
  start : Nat
  deriving DecidableEq, Repr

/-- A text that is being taken. -/
structure Passage where
  sort : Section
  /-- How many elements are open around the element that holds the text. -/
  depth : Nat
  text : String := ""
  /-- The referring elements that are open in the text, the innermost first. -/
  labels : List OpenLabel := []
  deriving DecidableEq, Repr

namespace Passage

def append (passage : Passage) (text : String) : Passage :=
  { passage with text := passage.text ++ text }

def openLabel (passage : Passage) (depth : Nat) (label : String) : Passage :=
  { passage with labels := ⟨depth, label, passage.text.utf8ByteSize⟩ :: passage.labels }

/-- Whether nothing but blanks was taken behind the first `start` bytes. -/
def blankSince (passage : Passage) (start : Nat) : Bool :=
  (Text.dropBytes start passage.text.toList).all Text.isBlank

/-- Closes the innermost referring element if it stands at `depth`; without a text of its own it
leaves its label. -/
def closeLabel (passage : Passage) (depth : Nat) : Passage :=
  match passage.labels with
  | [] => passage
  | label :: outer =>
    if label.depth ≠ depth then passage
    else
      let closed := { passage with labels := outer }
      if passage.blankSince label.start then closed.append label.label else closed

end Passage

structure Gathering where
  /-- The local names of the open elements, the innermost first. -/
  opened : List String := []
  rootSeen : Bool := false
  draft : Option Draft := none
  passage : Option Passage := none
  /-- What became of the members so far, in document order. -/
  entries : List Entry := []
  deriving DecidableEq, Repr

/-- The part of a member that a tag right inside it begins. -/
def sectionOf? (tag : Tag) : Option Section :=
  match tag.localName with
  | "summary" => some .summary
  | "remarks" => some .remarks
  | "example" => some .exampleText
  | "returns" => some .returns
  | "param" => some (.param ((tag.attribute? "name").getD ""))
  | _ => none

/-- What a start tag begins, by where it stands. -/
inductive Role where
  | label (label : String)
  /-- A member, with its name unless that is missing or empty. -/
  | member (name? : Option String)
  | part (sort : Section)
  | plain
  deriving DecidableEq, Repr

namespace Gathering

def depth (g : Gathering) : Nat :=
  g.opened.length

def role (g : Gathering) (tag : Tag) : Role :=
  match g.passage, g.opened with
  | some _, _ => ((label? tag).map Role.label).getD .plain
  | none, ["members", _] =>
    if tag.localName = "member" then .member ((tag.attribute? "name").filter (· ≠ "")) else .plain
  | none, [_, _, _] =>
    if g.draft.isSome then ((sectionOf? tag).map Role.part).getD .plain else .plain
  | none, _ => .plain

/-- Hands the text taken over to the member, without the blanks at its ends. -/
def endPassage (g : Gathering) : Gathering :=
  match g.passage, g.draft with
  | some passage, some draft =>
    { g with passage := none, draft := some (draft.fill passage.sort (Text.trim passage.text)) }
  | _, _ => { g with passage := none }

def endMember (g : Gathering) : Gathering :=
  match g.draft with
  | none => g
  | some draft =>
    let entry :=
      match draft.record? with
      | some record => .documented draft.name record
      | none => .unsupported draft.name
    { g with draft := none, entries := g.entries ++ [entry] }

/-- Begins what the tag begins, and ends it at once if its element is empty. -/
def begin (g : Gathering) (tag : Tag) (isEmpty : Bool) : Gathering :=
  match g.role tag with
  | .label label =>
    let insert (passage : Passage) :=
      if isEmpty then passage.append label else passage.openLabel g.depth label
    { g with passage := g.passage.map insert }
  | .member name? =>
    let named : Gathering :=
      match name? with
      | some name => { g with draft := some { name } }
      | none => { g with entries := g.entries ++ [.unnamed] }
    if isEmpty then named.endMember else named
  | .part sort =>
    let taking : Gathering := { g with passage := some { sort, depth := g.depth } }
    if isEmpty then taking.endPassage else taking
  | .plain => g

def enter (g : Gathering) (tag : Tag) (isEmpty : Bool) : Gathering :=
  let begun := { g.begin tag isEmpty with rootSeen := true }
  if isEmpty then begun else { begun with opened := tag.localName :: g.opened }

/-- Closes the innermost open element, and with it whatever it began. -/
def leave (g : Gathering) : Gathering :=
  let opened := g.opened.tail
  let depth := opened.length
  let outside : Gathering := { g with opened, passage := g.passage.map (·.closeLabel depth) }
  let taken :=
    if outside.passage.any (·.depth == depth) then outside.endPassage else outside
  if depth = 2 then taken.endMember else taken

def push (g : Gathering) (text : String) : Gathering :=
  { g with passage := g.passage.map (·.append text) }

/-- Running text is unescaped like an attribute's value, though the reader leaves no reference in
it. -/
def step (g : Gathering) : Event → Gathering
  | .start tag => g.enter tag false
  | .empty tag => g.enter tag true
  | .close _ => g.leave
  | .text content => g.push (Xml.unescape content)
  | .cdata content => g.push content
  | .reference name =>
    match Xml.referent? name.toList with
    | some value => g.push (.singleton value)
    | none => g
  | .aside => g

end Gathering

end DocPages.Members
