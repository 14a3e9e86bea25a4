/-!
HTML as pieces. Markup is written as it is; a text from the documentation is a piece of its own and
is escaped when it is written, so it cannot open or close a tag, nor leave an attribute. Anchors
and links are pieces too, which shows where a page can be entered and where it leads.
-/

namespace DocPages

namespace Html

/-- The characters with a meaning in markup and the references that stand for them. The ampersand
comes first, for the other references begin with one. -/
def references : List (Char × String) :=
  [('&', "&amp;"), ('<', "&lt;"), ('>', "&gt;"), ('"', "&quot;"), ('\'', "&#x27;")]

def replaceChar (s : List Char) (c : Char) (reference : String) : List Char :=
  s.flatMap fun d => if d = c then reference.toList else [d]

/-- Replaces the characters that mean something in markup, one after the other. -/
def escapeChars (s : List Char) : List Char :=
  references.foldl (fun s (c, reference) => replaceChar s c reference) s

def escape (s : String) : String :=
  .ofList (escapeChars s.toList)

inductive Piece where
  | markup (s : String)
  | text (s : String)
  /-- The attribute that names a place on the page. -/
  | anchor (name : String)
  /-- The attribute that links to another place. -/
  | link (target : String)
  deriving DecidableEq, Repr

def Piece.render : Piece → String
  | markup s => s
  | text s => escape s
  | anchor name => "id=\"" ++ escape name ++ "\""
  | link target => "href=\"" ++ escape target ++ "\""

end Html

/-- A page or a part of one. -/
abbrev Html := List Html.Piece

def Html.render (html : Html) : String :=
  String.join (html.map Piece.render)

theorem Html.render_append (first second : Html) :
    (first ++ second).render = first.render ++ second.render := by
  simp [render, String.join_append]

theorem Html.render_nil : render [] = "" := rfl

theorem Html.render_cons (piece : Html.Piece) (html : Html) :
    render (piece :: html) = piece.render ++ html.render := by
  simp [render]

/-- Parts that are made from entries stand one behind the other. -/
theorem Html.render_flatMap (part : Entry → Html) (entries : List Entry) :
    render (entries.flatMap part) = String.join (entries.map fun entry => (part entry).render) := by
  induction entries with
  | nil => rfl
  | cons entry entries ih =>
    rw [List.flatMap_cons, render_append, ih]
    simp

end DocPages
