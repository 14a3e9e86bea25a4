import DocPages.Address
import DocPages.Catalogue
import DocPages.Page.Frame

/-!
The overview page. One tab lists all types by full name; the other lists them by namespace, with
the types of the global namespace last. Beside the tabs stand the totals.
-/

namespace DocPages.Page

open Html.Piece (markup text anchor link)

/-- An entry of the navigation: a page and the name under which it is listed. -/
structure NavItem where
  target : String
  label : String
  deriving DecidableEq, Repr

namespace NavItem

def ofType (type : TypeEntry) : NavItem where
  target := Address.page type.fullName
  label := type.simpleName

/-- The entry for the type with this full name, which is its own label if it is unknown. -/
def ofOwner (catalogue : Catalogue) (owner : String) : NavItem where
  target := Address.page owner
  label := ((catalogue.get? owner).map (·.simpleName)).getD owner

def html (item : NavItem) : Html :=
  [markup "<a ", link item.target, markup ">", text item.label, markup "</a>"]

end NavItem

/-- The types that a heading of the second tab stands over. -/
structure NavGroup where
  heading : String
  items : List NavItem
  deriving DecidableEq, Repr

def NavGroup.html (group : NavGroup) : Html :=
  [markup "<div class=\"namespace-group\">\n<h3>", text group.heading,
   markup "</h3>\n<ul class=\"type-list\">\n"] ++
  group.items.flatMap (fun item => [markup "  <li>"] ++ item.html ++ [markup "</li>\n"]) ++
  [markup "</ul>\n</div>\n"]

/-- The types of the global namespace have a group of their own if there are any. -/
def globalGroups (catalogue : Catalogue) : List NavGroup :=
  match catalogue.typesByName.filter (·.namespaceName == "") with
  | [] => []
  | types => [{ heading := "Global", items := types.map .ofType }]

def namespaceGroups (catalogue : Catalogue) : List NavGroup :=
  catalogue.namespaces.toList.map fun (name, owners) =>
    { heading := name, items := (Text.sortBy id owners).map (NavItem.ofOwner catalogue) }

def navGroups (catalogue : Catalogue) : List NavGroup :=
  namespaceGroups catalogue ++ globalGroups catalogue

/-- A line of the first tab: a type and the namespace that it is in. -/
def typeLine (type : TypeEntry) : Html :=
  [markup "  <li>"] ++ (NavItem.ofType type).html ++
  (if type.namespaceName = "" then []
   else [markup "<span class=\"namespace-label\">", text type.namespaceName, markup "</span>"]) ++
  [markup "</li>\n"]

def statCard (count : Nat) (label : String) : Html :=
  [markup "  <div class=\"stat-card\"><div class=\"stat-number\">", text count.repr,
   markup "</div><div class=\"stat-label\">", text label, markup "</div></div>\n"]

def totalsGrid (totals : Totals) : Html :=
  [markup "<div class=\"stats-grid\">\n"] ++ statCard totals.types "Types" ++
  statCard totals.methods "Methods" ++ statCard totals.properties "Properties" ++
  statCard totals.fields "Fields" ++ [markup "</div>\n"]

def overview (catalogue : Catalogue) (options : Options) : Html :=
  opening options options.title ++
  banner options [markup "<p>Generated from XML documentation comments</p>"] ++
  sidebarStart ++
  [markup ("<h2>Navigation</h2>\n<div class=\"nav-tabs\">\n" ++
     "  <button class=\"nav-tab active\" data-tab=\"types\">Types</button>\n" ++
     "  <button class=\"nav-tab\" data-tab=\"namespaces\">Namespaces</button>\n</div>\n<div "),
   anchor "types-tab", markup " class=\"tab-content active\">\n<ul class=\"type-list\">\n"] ++
  catalogue.typesByName.flatMap typeLine ++
  [markup "</ul>\n</div>\n<div ", anchor "namespaces-tab", markup " class=\"tab-content\">\n"] ++
  (navGroups catalogue).flatMap NavGroup.html ++
  [markup ("</div>\n</nav>\n<main class=\"main-content\">\n" ++
     "<div class=\"welcome-section\">\n<h2>"),
   text options.title,
   markup "</h2>\n<p>Use the search box or browse by type or namespace.</p>\n</div>\n"] ++
  totalsGrid catalogue.totals ++ [markup "</main>\n</div>\n"] ++ closing

end DocPages.Page
