import DocPages.Members.Extraction
import DocPages.Proofs.KnownReferences

/-! The members of a document, read off its tree of elements. Nothing here knows of the state in
which a gathering takes tags one by one: the text of an element is defined by recursion on what the
element holds, and the parts of a member are looked up among its children. -/
namespace DocPages.TreeReading
open Xml Members

/-- What stands between a start tag and its closing tag, or in a whole document, from the front. -/
inductive Content where
  | nothing
  | text (content : String) (later : Content)
  | cdata (content : String) (later : Content)
  | reference (name : String) (later : Content)
  | aside (later : Content)
  /-- An element written as one tag. -/
  | empty (tag : Tag) (later : Content)
  | element (tag : Tag) (inside later : Content)
  deriving DecidableEq, Repr

/-- An element is its tag and what it holds. -/
structure Element where
  tag : Tag
  inside : Content
  deriving DecidableEq, Repr

namespace Content

/-- The events as which a reader delivers the content. -/
def events : Content → List Event
  | nothing => []
  | text content later => .text content :: later.events
  | cdata content later => .cdata content :: later.events
  | reference name later => .reference name :: later.events
  | aside later => .aside :: later.events
  | empty tag later => .empty tag :: later.events
  | element tag inside later => .start tag :: inside.events ++ .close tag.name :: later.events

/-- The elements right inside the content. An element written as one tag holds nothing. -/
def elements : Content → List Element
  | nothing => []
  | text _ later | cdata _ later | reference _ later | aside later => later.elements
  | empty tag later => ⟨tag, nothing⟩ :: later.elements
  | element tag inside later => ⟨tag, inside⟩ :: later.elements

/-- What an element says when `body` is said inside it: a referring element adds its label to a
body that is blank. -/
def labelled (tag : Tag) (body : String) : String :=
  if body.toList.all Text.isBlank then body ++ (label? tag).getD "" else body

/-- All that the content says, elements further inside included. -/
def wording : Content → String
  | nothing => ""
  | text content later => unescape content ++ later.wording
  | cdata content later => content ++ later.wording
  | reference name later =>
    ((referent? name.toList).map String.singleton).getD "" ++ later.wording
  | aside later => later.wording
  | empty tag later => labelled tag "" ++ later.wording
  | element tag inside later => labelled tag inside.wording ++ later.wording

/-- The tags of a content are nested, whatever elements are open around it. -/
theorem events_nest (content : Content) (opened : List String) :
    content.events.foldlM nest opened = .ok opened := by
  induction content generalizing opened with
  | nothing => rfl
  | text _ later ih | cdata _ later ih | reference _ later ih | aside later ih | empty _ later ih =>
    exact ih opened
  | element tag inside later within after =>
    have closed : nest (tag.name :: opened) (.close tag.name) = .ok opened := by simp [nest]
    rw [events, List.foldlM_append]
    calc
      _ = inside.events.foldlM nest (tag.name :: opened) >>=
          (Event.close tag.name :: later.events).foldlM nest := rfl
      _ = (Event.close tag.name :: later.events).foldlM nest (tag.name :: opened) := by
        rw [within]
        rfl
      _ = later.events.foldlM nest opened := by
        rw [List.foldlM_cons, closed]
        rfl
      _ = .ok opened := after opened

/-- Events that close all that was open begin with a content: it makes up all of them, or it
reaches to the closing tag of the innermost element that was open before. -/
private inductive Leads : List String → List Event → Prop
  | all (content : Content) : Leads [] content.events
  | upTo (content : Content) (rest : List Event) (left : rest.foldlM nest outer = .ok []) :
      Leads (name :: outer) (content.events ++ .close name :: rest)

private theorem leads_append (before : List Event) (grow : Content → Content)
    (grown : ∀ content, (grow content).events = before ++ content.events)
    (leads : Leads opened later) : Leads opened (before ++ later) := by
  cases leads with
  | all content =>
    rw [← grown]
    exact .all (grow content)
  | upTo content rest left =>
    rw [← List.append_assoc, ← grown]
    exact .upTo (grow content) rest left

private theorem leads_of_nests (events : List Event) (opened : List String)
    (nests : events.foldlM nest opened = .ok []) : Leads opened events := by
  match events with
  | [] =>
    cases nests
    exact .all nothing
  | .text content :: later =>
    exact leads_append [_] (text content) (fun _ => rfl) (leads_of_nests later opened nests)
  | .cdata content :: later =>
    exact leads_append [_] (cdata content) (fun _ => rfl) (leads_of_nests later opened nests)
  | .reference name :: later =>
    exact leads_append [_] (reference name) (fun _ => rfl) (leads_of_nests later opened nests)
  | .aside :: later =>
    exact leads_append [_] aside (fun _ => rfl) (leads_of_nests later opened nests)
  | .empty tag :: later =>
    exact leads_append [_] (empty tag) (fun _ => rfl) (leads_of_nests later opened nests)
  | .close name :: later =>
    cases opened with
    | nil => cases nests
    | cons innermost outer =>
      by_cases same : innermost = name
      · have closed : nest (innermost :: outer) (.close name) = .ok outer := by simp [nest, same]
        rw [List.foldlM_cons, closed] at nests
        exact same ▸ .upTo nothing later nests
      · have refused : nest (innermost :: outer) (.close name) =
            .error (.mismatchedClose innermost name) := by simp [nest, same]
        rw [List.foldlM_cons, refused] at nests
        cases nests
  | .start tag :: later =>
    cases leads_of_nests later (tag.name :: opened) nests with
    | upTo inside rest left =>
      have after := leads_append (.start tag :: inside.events ++ [.close tag.name])
        (element tag inside) (by simp [Content.events]) (leads_of_nests rest opened left)
      simpa using after
termination_by events.length

/-- A stream of events is well nested, with nothing left open, exactly if it is a content's. -/
theorem nests_iff_events (events : List Event) :
    events.foldlM nest [] = .ok [] ↔ ∃ content : Content, content.events = events := by
  constructor
  · intro nests
    cases leads_of_nests events [] nests with
    | all content => exact ⟨content, rfl⟩
  · rintro ⟨content, rfl⟩
    exact events_nest content []

/-- Every reference of the content, at any depth, means a character. -/
def Resolvable : Content → Prop
  | nothing => True
  | text _ later | cdata _ later | aside later | empty _ later => later.Resolvable
  | reference name later => (∃ c, KnownReferences.Means name.toList c) ∧ later.Resolvable
  | element _ inside later => inside.Resolvable ∧ later.Resolvable

end Content

namespace Element

def isNamed (name : String) (element : Element) : Bool :=
  element.tag.localName == name

/-- The text of the element, without the blanks at its ends. -/
def text (element : Element) : String :=
  Text.trim element.inside.wording

/-- The text of the first of the elements that has this name. -/
def textOfFirst (name : String) (elements : List Element) : String :=
  ((elements.find? (isNamed name)).map text).getD ""

/-- Every one of the elements that is a parameter, in order. -/
def parameters (elements : List Element) : List Parameter :=
  (elements.filter (isNamed "param")).map fun param =>
    { name := (param.tag.attribute? "name").getD "", description := param.text }

/-- The record of a member; there is none unless the member has a name that is an identifier. -/
def record? (member : Element) : Option Record :=
  match member.tag.attribute? "name" with
  | none => none
  | some name =>
    if name = "" then none
    else
      (Identifier.parse? name).map fun identifier =>
        { identifier
          summary := textOfFirst "summary" member.inside.elements
          remarks := textOfFirst "remarks" member.inside.elements
          exampleText := textOfFirst "example" member.inside.elements
          returns := textOfFirst "returns" member.inside.elements
          params := parameters member.inside.elements }

/-- The members of the document that has this outermost element. -/
def members (root : Element) : List Element :=
  (root.inside.elements.filter (isNamed "members")).flatMap fun group =>
    group.inside.elements.filter (isNamed "member")

def records (root : Element) : List Record :=
  root.members.filterMap record?

end Element

end DocPages.TreeReading
