/-!
What can be chosen about a site, and the name under which the program signs it.
-/

namespace DocPages

/-- The name and version that pages and the command line show. -/
def signature : String :=
  "xmldoc-site 0.1.0"

/-- The colours of a page until its reader picks others. -/
inductive Theme where
  | light
  | dark
  deriving DecidableEq, Repr

namespace Theme

def name : Theme → String
  | light => "light"
  | dark => "dark"

def all : List Theme :=
  [light, dark]

/-- The theme with this name, in which the case of ASCII letters may be ignored. -/
def ofName? (name : String) (ignoreCase : Bool) : Option Theme :=
  all.find? fun theme =>
    if ignoreCase then theme.name.toList.map Char.toLower == name.toList.map Char.toLower
    else theme.name == name

end Theme

structure Options where
  /-- The title that every page shows. -/
  title : String := "API Documentation"
  theme : Theme := .light
  deriving DecidableEq, Repr

end DocPages
