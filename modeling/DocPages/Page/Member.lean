import DocPages.Html
import DocPages.SearchIndex
import DocPages.Text.Sorted

/-!
The members of a type on its page. Each sort of member has a section with one card for each member,
by name, where members of one name keep the order of the document. A method's anchor is settled
before the cards are sorted, so it does not depend on where the card stands.
-/

namespace DocPages.Page

open Html.Piece (markup text anchor link)

/-- A part of a card that is left out when there is nothing to say. -/
def unlessEmpty (s : String) (html : Html) : Html :=
  if s = "" then [] else html

def memberCard (member : ValueEntry) : Html :=
  [markup "  <div class=\"member-card\"><h4><code>", text member.name, markup "</code></h4><p>",
   text member.summary, markup "</p></div>\n"]

def sortedMembers (members : List ValueEntry) : List ValueEntry :=
  Text.sortBy ValueEntry.name members

/-- The section for fields or for properties; without members there is none. -/
def cardSection (place title : String) (members : List ValueEntry) : Html :=
  if members.isEmpty then []
  else
    [markup "<section ", anchor place, markup " class=\"member-section\">\n<h3>", text title,
     markup "</h3>\n<div class=\"member-grid\">\n"] ++
    (sortedMembers members).flatMap memberCard ++ [markup "</div>\n</section>\n"]

def paramRow (param : Parameter) : Html :=
  [markup "  <tr><td><code>", text param.name, markup "</code></td><td>", text param.description,
   markup "</td></tr>\n"]

def paramTable (params : List Parameter) : Html :=
  if params.isEmpty then []
  else
    [markup ("<div class=\"params-section\">\n<h5>Parameters</h5>\n" ++
       "<table class=\"params-table\">\n")] ++
    params.flatMap paramRow ++ [markup "</table>\n</div>\n"]

/-- The card of a method. Parameters, result and remarks appear only where they are documented. -/
def methodCard (method : MethodEntry) (place : String) : Html :=
  [markup "<div class=\"method-card\" ", anchor place,
   markup ">\n<div class=\"method-header\">\n  <h4><code>", text method.name,
   markup "</code><span class=\"signature\">", text method.signature,
   markup "</span></h4>\n  <a ", link ("#" ++ place),
   markup " class=\"anchor-link\">#</a>\n</div>\n<p class=\"method-summary\">",
   text method.summary, markup "</p>\n"] ++
  paramTable method.params ++
  unlessEmpty method.returns
    [markup "<div class=\"returns-section\"><h5>Returns</h5><p>", text method.returns,
     markup "</p></div>\n"] ++
  unlessEmpty method.remarks
    [markup "<div class=\"remarks-section\"><h5>Remarks</h5><p>", text method.remarks,
     markup "</p></div>\n"] ++
  [markup "</div>\n"]

/-- The methods with their anchors, in the order of their cards. -/
def sortedMethods (type : TypeEntry) : List (MethodEntry × String) :=
  Text.sortBy (fun (method, _) => method.name) type.anchoredMethods

def methodSection (type : TypeEntry) : Html :=
  if type.methods.isEmpty then []
  else
    [markup "<section ", anchor "methods",
     markup " class=\"member-section\">\n<h3>Methods</h3>\n"] ++
    (sortedMethods type).flatMap (fun (method, place) => methodCard method place) ++
    [markup "</section>\n"]

end DocPages.Page
