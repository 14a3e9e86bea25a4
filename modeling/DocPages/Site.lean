import DocPages.Site.Script
import DocPages.Site.Stylesheet
import DocPages.Page.Type
import DocPages.SearchIndex.Json

/-!
The files of a site, in the order in which they are written. Owners whose page names are the same
share a file in the end, since a file that is written later replaces an earlier one of its name;
every page that takes over a name is reported as a clash. Stylesheet and script come last and no
page can have their names.
-/

namespace DocPages

structure Site.File where
  name : String
  contents : String
  deriving DecidableEq, Repr

/-- A page that takes over the name of an earlier file. -/
structure Site.Clash where
  name : String
  owner : String
  deriving DecidableEq, Repr

structure Site where
  files : List Site.File
  clashes : List Site.Clash
  deriving DecidableEq, Repr

namespace Site

def searchIndexName : String := "search-index.json"

def overviewName : String := "index.html"

def stylesheetName : String := "style.css"

def scriptName : String := "script.js"

def typeFile (catalogue : Catalogue) (options : Options) (type : TypeEntry) : Site.File where
  name := Address.page type.fullName
  contents := (Page.ofType catalogue type options).render

/-- The types whose page names are taken: by a name in `taken` or by a type before them. -/
def clashesFrom (taken : List String) : List TypeEntry → List Clash
  | [] => []
  | type :: later =>
    let name := Address.page type.fullName
    let clashes := clashesFrom (name :: taken) later
    if taken.contains name then ⟨name, type.fullName⟩ :: clashes else clashes

def ofCatalogue (catalogue : Catalogue) (options : Options) : Site where
  files :=
    [⟨searchIndexName, SearchIndex.jsonText (SearchIndex.ofCatalogue catalogue)⟩,
     ⟨overviewName, (Page.overview catalogue options).render⟩] ++
    catalogue.types.toList.map (typeFile catalogue options) ++
    [⟨stylesheetName, stylesheet⟩, ⟨scriptName, script⟩]
  clashes := clashesFrom [overviewName, searchIndexName] catalogue.types.toList

end Site

end DocPages
