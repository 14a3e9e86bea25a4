import DocPages.Page.Member
import DocPages.Page.Overview

/-!
The page of one type: all types to choose from at the side, the texts of this one, a badge for each
sort of member that it has, and the members.
-/

namespace DocPages.Page

open Html.Piece (markup text anchor link)

/-- The list of all types, in which the one that is shown is marked. -/
def typeList (catalogue : Catalogue) (shown : TypeEntry) : Html :=
  [markup "<h2>Types</h2>\n<ul class=\"type-list\">\n"] ++
  catalogue.typesByName.flatMap (fun type =>
    [markup (if type.fullName = shown.fullName then "  <li class=\"active\">" else "  <li>")] ++
    (NavItem.ofType type).html ++ [markup "</li>\n"]) ++
  [markup "</ul>\n</nav>\n"]

def breadcrumb (type : TypeEntry) : Html :=
  [markup "<div class=\"breadcrumb\">\n  <a ", link "index.html", markup ">Home</a>\n"] ++
  unlessEmpty type.namespaceName
    [markup "  <span>&rarr;</span><span>", text type.namespaceName, markup "</span>\n"] ++
  [markup "  <span>&rarr;</span><span class=\"current\">", text type.simpleName,
   markup "</span>\n</div>\n"]

def typeHeader (type : TypeEntry) : Html :=
  [markup "<main class=\"main-content\">\n<div class=\"type-header\">\n"] ++ breadcrumb type ++
  [markup "<h2 class=\"type-title\">", text type.simpleName, markup "</h2>\n"] ++
  unlessEmpty type.namespaceName
    [markup "<p class=\"namespace-info\">Namespace: <code>", text type.namespaceName,
     markup "</code></p>\n"] ++
  [markup "<p class=\"type-summary\">", text type.summary, markup "</p>\n"] ++
  unlessEmpty type.remarks
    [markup "<div class=\"remarks\"><h4>Remarks</h4><p>", text type.remarks,
     markup "</p></div>\n"] ++
  unlessEmpty type.exampleText
    [markup "<div class=\"example\"><h4>Example</h4><pre><code>", text type.exampleText,
     markup "</code></pre></div>\n"] ++
  [markup "</div>\n"]

/-- A link to the section of a sort of member, with the number of members; none for no members. -/
def badge (count : Nat) (place style label : String) : Html :=
  if count = 0 then []
  else
    [markup "  <a ", link ("#" ++ place), markup (" class=\"badge " ++ style ++ "\">"),
     text count.repr, markup (" " ++ label ++ "</a>\n")]

def badges (type : TypeEntry) : Html :=
  [markup "<div class=\"summary-badges\">\n"] ++
  badge type.fields.length "fields" "badge-field" "Fields" ++
  badge type.properties.length "properties" "badge-property" "Properties" ++
  badge type.methods.length "methods" "badge-method" "Methods" ++
  [markup "</div>\n"]

def ofType (catalogue : Catalogue) (type : TypeEntry) (options : Options) : Html :=
  opening options (type.simpleName ++ " - " ++ options.title) ++
  banner options
    [markup "<p><a ", link "index.html",
     markup " class=\"back-link\">&larr; Back to index</a></p>"] ++
  sidebarStart ++ typeList catalogue type ++ typeHeader type ++ badges type ++
  cardSection "fields" "Fields" type.fields ++
  cardSection "properties" "Properties" type.properties ++
  methodSection type ++ [markup "</main>\n</div>\n"] ++ closing

end DocPages.Page
