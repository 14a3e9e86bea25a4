import DocPages.Page.Type
import DocPages.Proofs.Escaping

/-! What a reader finds in the text of a page. Attributes are read off the written text, character
by character, and compared with the pieces that the page was made of: the anchors and links among
them are the only places that the page names or leads to, whatever is documented. -/
namespace DocPages.PageReading
open Page

/-! ## Reading a text -/

/-- Where a reader of markup is. -/
inductive Position where
  | content
  /-- In a tag, behind the beginning of a word. -/
  | tag (word : List Char)
  /-- In the value behind a word, of which a part was read. -/
  | value (word part : List Char)
  deriving DecidableEq, Repr

structure Attribute where
  name : String
  value : String
  deriving DecidableEq, Repr

def Position.step : Position → Char → Position
  | content, c => if c = '<' then tag [] else content
  | tag word, c =>
    if c = '>' then content
    else if c = '"' then value word []
    else if c.isWhitespace then tag []
    else tag (word ++ [c])
  | value word part, c => if c = '"' then tag [] else value word (part ++ [c])

/-- The attribute that the next character completes. Its value is written with references. -/
def Position.completed? : Position → Char → Option Attribute
  | value word part, '"' =>
    some { name := .ofList (word.takeWhile (· ≠ '=')), value := Xml.unescape (.ofList part) }
  | _, _ => none

def positionAfter (start : Position) (s : List Char) : Position :=
  s.foldl Position.step start

/-- The attributes that a reader at this position completes in a text. -/
def attributesFrom : Position → List Char → List Attribute
  | _, [] => []
  | position, c :: rest => (position.completed? c).toList ++ attributesFrom (position.step c) rest

def valuesIn (attributes : List Attribute) (name : String) : List String :=
  attributes.filterMap fun found => if found.name = name then some found.value else none

/-- The values that attributes of this name have in a page, in the order of its text. -/
def valuesOf (name page : String) : List String :=
  valuesIn (attributesFrom .content page.toList) name

theorem attributesFrom_append (position : Position) (first second : List Char) :
    attributesFrom position (first ++ second) =
      attributesFrom position first ++ attributesFrom (positionAfter position first) second := by
  induction first generalizing position with
  | nil => rfl
  | cons c first ih => simp [attributesFrom, ih, positionAfter]

theorem positionAfter_append (position : Position) (first second : List Char) :
    positionAfter position (first ++ second) =
      positionAfter (positionAfter position first) second :=
  List.foldl_append

/-- A text that opens no tag is passed over. -/
theorem content_passed (unopened : '<' ∉ s) :
    positionAfter .content s = .content ∧ attributesFrom .content s = [] := by
  induction s with
  | nil => exact ⟨rfl, rfl⟩
  | cons c s ih =>
    simp only [List.mem_cons, not_or] at unopened
    have stays : Position.step .content c = .content := if_neg (Ne.symm unopened.1)
    obtain ⟨position, attributes⟩ := ih unopened.2
    constructor
    · rw [positionAfter, List.foldl_cons, stays]
      exact position
    · rw [attributesFrom, stays, attributes]
      rfl

/-- A value without quotes is read up to the quote behind it. -/
theorem value_read (unquoted : '"' ∉ s) (word part : List Char) :
    positionAfter (.value word part) (s ++ ['"']) = .tag [] ∧
      attributesFrom (.value word part) (s ++ ['"']) =
        [{ name := .ofList (word.takeWhile (· ≠ '=')),
           value := Xml.unescape (.ofList (part ++ s)) }] := by
  induction s generalizing part with
  | nil => simp [positionAfter, attributesFrom, Position.step, Position.completed?]
  | cons c s ih =>
    simp only [List.mem_cons, not_or] at unquoted
    have unclosed : c ≠ '"' := Ne.symm unquoted.1
    have stays : Position.step (.value word part) c = .value word (part ++ [c]) := if_neg unclosed
    have incomplete : Position.completed? (.value word part) c = none := by
      simp [Position.completed?, unclosed]
    obtain ⟨position, attributes⟩ := ih unquoted.2 (part ++ [c])
    constructor
    · rw [List.cons_append, positionAfter, List.foldl_cons, stays]
      exact position
    · rw [List.cons_append, attributesFrom, incomplete, stays, attributes]
      simp

/-! ## Reading pieces -/

/-- Whether the attribute names a place on the page or leads to one. -/
def Attribute.isPlace (found : Attribute) : Bool :=
  found.name = "id" ∨ found.name = "href"

/-- The attribute that names a place. -/
def Attribute.naming (place : String) : Attribute where
  name := "id"
  value := place

/-- The attribute that leads to a place or a file. -/
def Attribute.leadingTo (target : String) : Attribute where
  name := "href"
  value := target

def placeOf? : Html.Piece → Option Attribute
  | .markup _ | .text _ => none
  | .anchor name => some (.naming name)
  | .link target => some (.leadingTo target)

/-- The places that a part names or leads to, in its order. -/
def placesIn (html : Html) : List Attribute :=
  html.filterMap placeOf?

/-- Of a part of a page the reader finds exactly the places that its pieces are. -/
structure Reads (start : Position) (html : Html) (stop : Position) : Prop where
  position : positionAfter start html.render.toList = stop
  places : (attributesFrom start html.render.toList).filter Attribute.isPlace = placesIn html

@[simp] theorem placesIn_nil : placesIn [] = [] := rfl

@[simp] theorem placesIn_markup (s : String) (html : Html) :
    placesIn (.markup s :: html) = placesIn html := rfl

@[simp] theorem placesIn_text (s : String) (html : Html) :
    placesIn (.text s :: html) = placesIn html := rfl

@[simp] theorem placesIn_anchor (name : String) (html : Html) :
    placesIn (.anchor name :: html) = .naming name :: placesIn html := rfl

@[simp] theorem placesIn_link (target : String) (html : Html) :
    placesIn (.link target :: html) = .leadingTo target :: placesIn html := rfl

@[simp] theorem placesIn_append (first second : Html) :
    placesIn (first ++ second) = placesIn first ++ placesIn second :=
  List.filterMap_append

@[simp] theorem placesIn_flatMap (part : Entry → Html) (entries : List Entry) :
    placesIn (entries.flatMap part) = entries.flatMap fun entry => placesIn (part entry) :=
  List.filterMap_flatMap

@[simp] theorem placesIn_optional (vacant : Prop) [Decidable vacant] (html : Html) :
    placesIn (if vacant then [] else html) = if vacant then [] else placesIn html := by
  split <;> rfl

theorem Reads.append (first : Reads start html middle) (second : Reads middle html' stop) :
    Reads start (html ++ html') stop := by
  constructor
  · rw [Html.render_append, String.toList_append, positionAfter_append, first.position,
      second.position]
  · rw [Html.render_append, String.toList_append, attributesFrom_append, first.position,
      List.filter_append, first.places, second.places, placesIn_append]

theorem Reads.nil (position : Position) : Reads position [] position :=
  ⟨rfl, rfl⟩

theorem render_piece (piece : Html.Piece) : Html.render [piece] = piece.render := by
  simp [Html.render]

theorem reads_markup (placeless : (attributesFrom start s).all fun found => !found.isPlace) :
    Reads start [.markup (.ofList s)] (positionAfter start s) := by
  have nothing : (attributesFrom start s).filter Attribute.isPlace = [] := by
    simpa [List.filter_eq_nil_iff] using placeless
  constructor
  · rw [render_piece, Html.Piece.render, String.toList_ofList]
  · rw [render_piece, Html.Piece.render, String.toList_ofList, nothing]
    rfl

/-- What a text says completes no attribute. -/
theorem text_passed (s : String) :
    let written := (Html.render [.text s]).toList
    positionAfter .content written = .content ∧ attributesFrom .content written = [] := by
  have unopened : '<' ∉ (Html.escape s).toList := by
    rw [Html.escape, String.toList_ofList]
    exact fun held => (Escaping.escapeChars_unmarked s.toList '<' held).1 rfl
  rw [render_piece]
  exact content_passed unopened

theorem reads_text (s : String) : Reads .content [.text s] .content := by
  obtain ⟨position, attributes⟩ := text_passed s
  constructor
  · exact position
  · rw [attributes]
    rfl

/-- An escaped value behind a word and a quote is read as it was meant. -/
theorem attribute_read (start : List Char)
    (begins : positionAfter (.tag []) start = .value word [])
    (vacant : attributesFrom (.tag []) start = []) (value : String) :
    let written := start ++ ((Html.escape value).toList ++ ['"'])
    positionAfter (.tag []) written = .tag [] ∧ attributesFrom (.tag []) written =
      [{ name := .ofList (word.takeWhile (· ≠ '=')), value }] := by
  intro written
  have unquoted : '"' ∉ (Html.escape value).toList := by
    rw [Html.escape, String.toList_ofList]
    exact fun held => (Escaping.escapeChars_unmarked value.toList '"' held).2.2.1 rfl
  obtain ⟨position, attributes⟩ := value_read unquoted word []
  constructor
  · rw [positionAfter_append, begins, position]
  · rw [attributesFrom_append, begins, vacant, attributes, List.nil_append, List.nil_append,
      String.ofList_toList, Escaping.unescape_escape]

theorem anchor_read (name : String) :
    let written := (Html.render [.anchor name]).toList
    positionAfter (.tag []) written = .tag [] ∧
      attributesFrom (.tag []) written = [.naming name] := by
  have written : (Html.render [.anchor name]).toList =
      ['i', 'd', '=', '"'] ++ ((Html.escape name).toList ++ ['"']) := by
    simp [render_piece, Html.Piece.render]
  rw [written]
  exact attribute_read ['i', 'd', '=', '"'] rfl rfl name

theorem reads_anchor (name : String) : Reads (.tag []) [.anchor name] (.tag []) := by
  obtain ⟨position, attributes⟩ := anchor_read name
  constructor
  · exact position
  · rw [attributes]
    rfl

theorem link_read (target : String) :
    let written := (Html.render [.link target]).toList
    positionAfter (.tag []) written = .tag [] ∧
      attributesFrom (.tag []) written = [.leadingTo target] := by
  have written : (Html.render [.link target]).toList =
      ['h', 'r', 'e', 'f', '=', '"'] ++ ((Html.escape target).toList ++ ['"']) := by
    simp [render_piece, Html.Piece.render]
  rw [written]
  exact attribute_read ['h', 'r', 'e', 'f', '=', '"'] rfl rfl target

theorem reads_link (target : String) : Reads (.tag []) [.link target] (.tag []) := by
  obtain ⟨position, attributes⟩ := link_read target
  constructor
  · exact position
  · rw [attributes]
    rfl

theorem Reads.cons (first : Reads start [piece] middle) (later : Reads middle html stop) :
    Reads start (piece :: html) stop :=
  first.append later

/-- Parts that are written alike and have the same places are read alike. -/
theorem Reads.of_render (reads : Reads start html stop) (written : html'.render = html.render)
    (places : placesIn html' = placesIn html) : Reads start html' stop := by
  constructor
  · rw [written, reads.position]
  · rw [written, places, reads.places]

/-! ## Legible parts -/

/-- A part that begins and ends outside of tags, and whose places are those of its pieces. -/
def Legible (html : Html) : Prop :=
  Reads .content html .content

theorem Legible.append (first : Legible html) (second : Legible html') :
    Legible (html ++ html') :=
  Reads.append first second

theorem Legible.flatMap {part : Entry → Html} (legible : ∀ entry, Legible (part entry))
    (entries : List Entry) : Legible (entries.flatMap part) := by
  induction entries with
  | nil => exact Reads.nil _
  | cons entry entries ih =>
    rw [List.flatMap_cons]
    exact (legible entry).append ih

theorem Legible.optional [Decidable vacant] (legible : Legible html) :
    Legible (if vacant then [] else html) := by
  split
  · exact Reads.nil _
  · exact legible

/-- The values that are found in the text of a page are those that its pieces have. -/
theorem Legible.valuesOf_place (legible : Legible html) {name : String}
    (known : name = "id" ∨ name = "href") :
    valuesOf name html.render = valuesIn (placesIn html) name := by
  have kept : ∀ found : Attribute, found.name = name → found.isPlace := by
    rintro found rfl
    simpa [Attribute.isPlace] using known
  rw [← Reads.places legible, valuesOf, valuesIn, valuesIn, List.filterMap_filter]
  congr 1
  funext found
  by_cases same : found.name = name
  · simp [same, kept found same]
  · simp [same]

/-! ## Parts given piece by piece -/

/-- What of a piece decides how it is read: the characters of markup, and of other pieces only
whether they belong outside of tags or in one. -/
inductive Token where
  | chars (s : List Char)
  | outside
  | inside
  deriving DecidableEq, Repr

/-- The position behind the tokens, if all stand where they belong and markup makes no places. -/
def passage? : Position → List Token → Option Position
  | position, [] => some position
  | position, .chars s :: later =>
    if (attributesFrom position s).all fun found => !found.isPlace then
      passage? (positionAfter position s) later
    else none
  | position, .outside :: later => if position = .content then passage? position later else none
  | position, .inside :: later => if position = .tag [] then passage? position later else none

theorem passage_append (position : Position) (first second : List Token) :
    passage? position (first ++ second) =
      (passage? position first).bind fun middle => passage? middle second := by
  induction first generalizing position with
  | nil => rfl
  | cons token first ih =>
    cases token <;>
    · simp only [List.cons_append, passage?, ih]
      split <;> rfl

/-- The tokens of a part, in which markup is spelled out. -/
inductive Spells : Html → List Token → Prop where
  | nil : Spells [] []
  | text (s : String) : Spells html tokens → Spells (.text s :: html) (.outside :: tokens)
  | anchor (name : String) : Spells html tokens → Spells (.anchor name :: html) (.inside :: tokens)
  | link (target : String) : Spells html tokens → Spells (.link target :: html) (.inside :: tokens)
  | markup (s : List Char) :
      Spells html tokens → Spells (.markup (.ofList s) :: html) (.chars s :: tokens)
  /-- Markup may be given in two parts. -/
  | joined : Spells (.markup first :: .markup second :: html) tokens →
      Spells (.markup (first ++ second) :: html) tokens
  /-- A text that is known is written with references and otherwise like markup. -/
  | known (s : List Char) : Spells html tokens →
      Spells (.text (.ofList s) :: html) (.chars (Html.escapeChars s) :: tokens)
  | append : Spells html tokens → Spells html' tokens' → Spells (html ++ html') (tokens ++ tokens')
  | optional [Decidable vacant] : Spells html tokens → passage? .content tokens = some .content →
      Spells (if vacant then [] else html) [.outside]
  /-- What is legible stands where a text may stand. -/
  | part : Legible html → Spells html [.outside]

theorem passage_outside (passes : passage? start (.outside :: tokens) = some stop) :
    start = .content ∧ passage? .content tokens = some stop := by
  simp only [passage?, Option.ite_none_right_eq_some] at passes
  exact ⟨passes.1, passes.1 ▸ passes.2⟩

/-- The positions between the pieces are those of the check, whatever is said in them. -/
theorem reads_of_spells (spelled : Spells html tokens)
    (passes : passage? start tokens = some stop) : Reads start html stop := by
  induction spelled generalizing start stop with
  | nil =>
    cases passes
    exact .nil _
  | text s _ ih =>
    obtain ⟨rfl, passes⟩ := passage_outside passes
    exact (reads_text s).cons (ih passes)
  | anchor name _ ih =>
    simp only [passage?, Option.ite_none_right_eq_some] at passes
    obtain ⟨rfl, passes⟩ := passes
    exact (reads_anchor name).cons (ih passes)
  | link target _ ih =>
    simp only [passage?, Option.ite_none_right_eq_some] at passes
    obtain ⟨rfl, passes⟩ := passes
    exact (reads_link target).cons (ih passes)
  | markup s _ ih =>
    simp only [passage?, Option.ite_none_right_eq_some] at passes
    exact (reads_markup passes.1).cons (ih passes.2)
  | joined _ ih =>
    refine (ih passes).of_render ?_ rfl
    simp [Html.render, Html.Piece.render, String.append_assoc]
  | known s _ ih =>
    simp only [passage?, Option.ite_none_right_eq_some] at passes
    refine ((reads_markup passes.1).cons (ih passes.2)).of_render ?_ rfl
    simp [Html.render, Html.Piece.render, Html.escape]
  | append _ _ first second =>
    rw [passage_append, Option.bind_eq_some_iff] at passes
    obtain ⟨middle, before, after⟩ := passes
    exact (first before).append (second after)
  | optional _ inside ih =>
    obtain ⟨rfl, passes⟩ := passage_outside passes
    cases passes
    exact Legible.optional (ih inside)
  | part legible =>
    obtain ⟨rfl, passes⟩ := passage_outside passes
    cases passes
    exact legible

theorem Legible.of_pieces (spelled : Spells html tokens)
    (passes : passage? .content tokens = some .content) : Legible html :=
  reads_of_spells spelled passes

end DocPages.PageReading
