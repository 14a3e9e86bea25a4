import DocPages.Html
import DocPages.Options

/-!
What all pages have around their contents: the head with title and theme, the banner, the search
box and the footer.
-/

namespace DocPages.Page

open Html.Piece (markup text anchor link)

def opening (options : Options) (title : String) : Html :=
  [markup "<!DOCTYPE html>\n<html lang=\"en\" data-theme=\"", text options.theme.name,
   markup ("\">\n<head>\n<meta charset=\"utf-8\">\n" ++
     "<meta name=\"viewport\" content=\"width=device-width, initial-scale=1.0\">\n<title>"),
   text title, markup "</title>\n<link rel=\"stylesheet\" ", link "style.css",
   markup ">\n</head>\n<body>\n"]

/-- The banner with the site's title, and below it what the page has to say of itself. -/
def banner (options : Options) (subtitle : Html) : Html :=
  [markup "<header>\n<div class=\"header-content\">\n<div>\n<h1>", text options.title,
   markup "</h1>\n"] ++ subtitle ++
  [markup "\n</div>\n<button ", anchor "theme-toggle",
   markup (" class=\"theme-toggle\" title=\"Toggle theme\"><span class=\"theme-icon\"></span>" ++
     "</button>\n</div>\n</header>\n")]

def searchField : Html :=
  [markup "<div class=\"search-container\">\n  <input type=\"text\" ", anchor "search-input",
   markup " placeholder=\"Search...\" autocomplete=\"off\">\n  <div ", anchor "search-results",
   markup " class=\"search-results\"></div>\n</div>\n"]

/-- The contents between navigation and footer begin with the navigation's column. -/
def sidebarStart : Html :=
  [markup "<div class=\"container\">\n<nav class=\"sidebar\">\n"] ++ searchField

def closing : Html :=
  [markup "<footer>\n<p>Generated by ", text signature,
   markup "</p>\n</footer>\n<script src=\"script.js\"></script>\n</body>\n</html>\n"]

end DocPages.Page
