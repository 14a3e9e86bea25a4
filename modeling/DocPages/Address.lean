import Std.Data.ExtTreeMap

/-!
Where things are found: the page of a type, the anchor of a member on it, and the links to both.
All of them are made from documented names by one replacement of characters, so that a link and the
file that it leads to get the same name.
-/

namespace DocPages.Address

/-- The characters that a file name cannot hold everywhere. -/
def forbidden : List Char :=
  ['<', '>', ':', '"', '/', '\\', '|', '?', '*']

def safeChar (c : Char) : Char :=
  if c ∈ forbidden then '_' else c

/-- The name with an underscore for each forbidden character. Names that differ in nothing else
become one. -/
def safe (name : String) : String :=
  .ofList (name.toList.map safeChar)

/-- The file name of a type's page. -/
def page (owner : String) : String :=
  safe owner ++ ".html"

/-- The anchor of the first member with this name. -/
def anchor (member : String) : String :=
  safe member

/-- The link to a member on its owner's page. -/
def ofMember (owner member : String) : String :=
  page owner ++ "#" ++ anchor member

/-- The anchor for the nth method that shares it: the first has it plain, the others numbered. -/
def numbered (anchor : String) (occurrence : Nat) : String :=
  if occurrence = 1 then anchor else anchor ++ "-" ++ occurrence.repr

/-- Anchors for methods with these names, when `tally` tells how often each plain anchor came
before them. -/
def anchorsFrom (tally : Std.ExtTreeMap String Nat) : List String → List String
  | [] => []
  | name :: later =>
    let plain := anchor name
    let occurrence := tally.getD plain 0 + 1
    numbered plain occurrence :: anchorsFrom (tally.insert plain occurrence) later

/-- The anchors of a type's methods, in the order of the methods. -/
def anchors (names : List String) : List String :=
  anchorsFrom ∅ names

end DocPages.Address
