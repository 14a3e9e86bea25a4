import DocPages.Page.Type
import DocPages.Proofs.PageReading
import DocPages.Proofs.SafeNames

/-! The classes by which the style of a page tells badges, sections and cards from everything else.
They are read off the text of a page like its places, and no documented text adds to them. -/
namespace DocPages.PageClasses
open Page PageReading

/-- The classes of badges, of sections and of the cards in them. -/
def memberClasses : List String :=
  ["badge badge-field", "badge badge-property", "badge badge-method", "member-section",
   "member-card", "method-card"]

def classesFrom (start : Position) (s : List Char) : List String :=
  (valuesIn (attributesFrom start s) "class").filter (· ∈ memberClasses)

/-- The badges, sections and cards of a page, by their classes and in the order of its text. -/
def shownOn (page : String) : List String :=
  (valuesOf "class" page).filter (· ∈ memberClasses)

/-! ## Reading classes -/

/-- The classes and the position behind the tokens, if all stand where they belong. -/
def shown? : Position → List Token → Option (List String × Position)
  | position, [] => some ([], position)
  | position, .chars s :: later =>
    (shown? (positionAfter position s) later).map fun (shown, stop) =>
      (classesFrom position s ++ shown, stop)
  | .content, .outside :: later => shown? .content later
  | .tag [], .inside :: later => shown? (.tag []) later
  | _, _ => none

/-- The tokens of pieces that all have to be there. -/
inductive Pieces : Html → List Token → Prop where
  | nil : Pieces [] []
  | text (s : String) : Pieces html tokens → Pieces (.text s :: html) (.outside :: tokens)
  | anchor (name : String) : Pieces html tokens → Pieces (.anchor name :: html) (.inside :: tokens)
  | link (target : String) : Pieces html tokens → Pieces (.link target :: html) (.inside :: tokens)
  | markup (s : List Char) :
      Pieces html tokens → Pieces (.markup (.ofList s) :: html) (.chars s :: tokens)
  | joined : Pieces (.markup first :: .markup second :: html) tokens →
      Pieces (.markup (first ++ second) :: html) tokens
  | known (s : List Char) : Pieces html tokens →
      Pieces (.text (.ofList s) :: html) (.chars (Html.escapeChars s) :: tokens)

variable {start middle stop : Position} {html html' : Html} {shown shown' : List String}
  {tokens : List Token}

/-- The classes in a part that is read from one position to another. -/
structure Shows (start : Position) (html : Html) (shown : List String) (stop : Position) :
    Prop where
  position : positionAfter start html.render.toList = stop
  classes : classesFrom start html.render.toList = shown

theorem classesFrom_append (start : Position) (first second : List Char) :
    classesFrom start (first ++ second) =
      classesFrom start first ++ classesFrom (positionAfter start first) second := by
  simp [classesFrom, valuesIn, attributesFrom_append]

theorem Shows.nil (position : Position) : Shows position [] [] position :=
  ⟨rfl, rfl⟩

theorem Shows.append (first : Shows start html shown middle)
    (second : Shows middle html' shown' stop) :
    Shows start (html ++ html') (shown ++ shown') stop := by
  constructor
  · rw [Html.render_append, String.toList_append, positionAfter_append, first.position,
      second.position]
  · rw [Html.render_append, String.toList_append, classesFrom_append, first.position,
      first.classes, second.classes]

theorem Shows.cons {piece : Html.Piece} (first : Shows start [piece] shown middle)
    (later : Shows middle html shown' stop) : Shows start (piece :: html) (shown ++ shown') stop :=
  first.append later

theorem shows_text (s : String) : Shows .content [.text s] [] .content := by
  obtain ⟨position, attributes⟩ := text_passed s
  constructor
  · exact position
  · rw [classesFrom, attributes]
    rfl

theorem shows_anchor (name : String) : Shows (.tag []) [.anchor name] [] (.tag []) := by
  obtain ⟨position, attributes⟩ := anchor_read name
  constructor
  · exact position
  · rw [classesFrom, attributes]
    rfl

theorem shows_link (target : String) : Shows (.tag []) [.link target] [] (.tag []) := by
  obtain ⟨position, attributes⟩ := link_read target
  constructor
  · exact position
  · rw [classesFrom, attributes]
    rfl

theorem shows_markup (start : Position) (s : List Char) :
    Shows start [.markup (.ofList s)] (classesFrom start s) (positionAfter start s) := by
  constructor <;> rw [render_piece, Html.Piece.render, String.toList_ofList]

/-- Parts that are written alike are read alike. -/
theorem Shows.of_render (shows : Shows start html shown stop)
    (written : html'.render = html.render) : Shows start html' shown stop := by
  constructor
  · rw [written, shows.position]
  · rw [written, shows.classes]

theorem shown_inside (check : shown? start (.inside :: tokens) = some (shown, stop)) :
    start = .tag [] ∧ shown? (.tag []) tokens = some (shown, stop) := by
  cases start with
  | content => cases check
  | value word part => cases check
  | tag word =>
    cases word with
    | cons c word => cases check
    | nil => exact ⟨rfl, check⟩

theorem Shows.of_pieces (pieces : Pieces html tokens)
    (check : shown? start tokens = some (shown, stop)) : Shows start html shown stop := by
  induction pieces generalizing start shown with
  | nil =>
    cases check
    exact .nil _
  | text s _ ih =>
    cases start with
    | content => exact (shows_text s).cons (ih check)
    | tag word => cases check
    | value word part => cases check
  | anchor name _ ih =>
    obtain ⟨rfl, check⟩ := shown_inside check
    exact (shows_anchor name).cons (ih check)
  | link target _ ih =>
    obtain ⟨rfl, check⟩ := shown_inside check
    exact (shows_link target).cons (ih check)
  | markup s _ ih =>
    obtain ⟨⟨later, _⟩, onward, same⟩ := Option.map_eq_some_iff.mp check
    cases same
    exact (shows_markup start s).cons (ih onward)
  | joined _ ih =>
    refine (ih check).of_render ?_
    simp [Html.render, Html.Piece.render, String.append_assoc]
  | known s _ ih =>
    obtain ⟨⟨later, _⟩, onward, same⟩ := Option.map_eq_some_iff.mp check
    cases same
    refine ((shows_markup start _).cons (ih onward)).of_render ?_
    simp [Html.render, Html.Piece.render, Html.escape]

/-! ## Parts outside of tags -/

/-- A part that begins and ends outside of tags, and the classes in it. -/
def Presents (html : Html) (shown : List String) : Prop :=
  Shows .content html shown .content

theorem Presents.append (first : Presents html shown) (second : Presents html' shown') :
    Presents (html ++ html') (shown ++ shown') :=
  Shows.append first second

theorem Presents.behind (first : Presents html []) (second : Presents html' shown) :
    Presents (html ++ html') shown :=
  Shows.append first second

theorem Presents.before (first : Presents html shown) (second : Presents html' []) :
    Presents (html ++ html') shown := by
  simpa using Presents.append first second

theorem Presents.flatMap {part : Entry → Html} {own : Entry → List String}
    (presents : ∀ entry, Presents (part entry) (own entry)) (entries : List Entry) :
    Presents (entries.flatMap part) (entries.flatMap own) := by
  induction entries with
  | nil => exact Shows.nil _
  | cons entry entries ih => exact (presents entry).append ih

/-- Parts that present the same for every entry are counted. -/
theorem Presents.each {part : Entry → Html} (presents : ∀ entry, Presents (part entry) [card])
    (entries : List Entry) :
    Presents (entries.flatMap part) (List.replicate entries.length card) := by
  have cards := Presents.flatMap presents entries
  rwa [← List.map_eq_flatMap, List.map_const'] at cards

theorem Presents.nothing {part : Entry → Html} (presents : ∀ entry, Presents (part entry) [])
    (entries : List Entry) : Presents (entries.flatMap part) [] := by
  have none : (entries.flatMap fun _ => ([] : List String)) = [] := by simp
  exact none ▸ Presents.flatMap presents entries

theorem Presents.optional {vacant : Prop} [Decidable vacant] (presents : Presents html shown) :
    Presents (if vacant then [] else html) (if vacant then [] else shown) := by
  split
  · exact Shows.nil _
  · exact presents

/-- A part without members stays without them if it may be left out. -/
theorem Presents.unlessEmpty (s : String) (presents : Presents html []) :
    Presents (Page.unlessEmpty s html) [] := by
  unfold Page.unlessEmpty
  simpa using presents.optional

/-- Of pieces that are all known the classes are computed. -/
theorem Presents.of_pieces (pieces : Pieces html tokens)
    (check : shown? .content tokens = some (shown, .content)) : Presents html shown :=
  Shows.of_pieces pieces check

/-! ## What all pages have -/

theorem presents_opening (options : Options) (title : String) :
    Presents (opening options title) [] := by
  unfold opening
  -- The name of the theme stands in a value, so what it says has to be known.
  cases options.theme
  · exact .of_pieces (.markup _ (.known _ (by repeat constructor))) (by decide +kernel)
  · exact .of_pieces (.markup _ (.known _ (by repeat constructor))) (by decide +kernel)

theorem presents_banner (options : Options) (presents : Presents subtitle []) :
    Presents (banner options subtitle) [] :=
  Presents.behind (.of_pieces (by repeat constructor) (by rfl)) presents
    |>.behind (.of_pieces (by repeat constructor) (by rfl))

theorem presents_sidebarStart : Presents sidebarStart [] :=
  .of_pieces (by repeat constructor) (by rfl)

theorem presents_closing : Presents closing [] :=
  .of_pieces (by repeat constructor) (by rfl)

/-! ## The other parts of a type's page -/

theorem presents_typeList (catalogue : Catalogue) (type : TypeEntry) :
    Presents (typeList catalogue type) [] := by
  have line (listed : TypeEntry) : Presents ([.markup
      (if listed.fullName = type.fullName then "  <li class=\"active\">" else "  <li>")] ++
      (NavItem.ofType listed).html ++ [.markup "</li>\n"]) [] := by
    split
    · exact .of_pieces (by repeat constructor) (by rfl)
    · exact .of_pieces (by repeat constructor) (by rfl)
  exact Presents.behind (.of_pieces (by repeat constructor) (by rfl)) (.nothing line _)
    |>.behind (.of_pieces (by repeat constructor) (by rfl))

theorem presents_breadcrumb (type : TypeEntry) : Presents (breadcrumb type) [] :=
  Presents.behind (.of_pieces (by repeat constructor) (by rfl))
      (.unlessEmpty _ (.of_pieces (by repeat constructor) (by rfl)))
    |>.behind (.of_pieces (by repeat constructor) (by rfl))

theorem presents_typeHeader (type : TypeEntry) : Presents (typeHeader type) [] :=
  Presents.behind (.of_pieces (by repeat constructor) (by rfl)) (presents_breadcrumb type)
    |>.behind (.of_pieces (by repeat constructor) (by rfl))
    |>.behind (.unlessEmpty _ (.of_pieces (by repeat constructor) (by rfl)))
    |>.behind (.of_pieces (by repeat constructor) (by rfl))
    |>.behind (.unlessEmpty _ (.of_pieces (by repeat constructor) (by rfl)))
    |>.behind (.unlessEmpty _ (.of_pieces (by repeat constructor) (by rfl)))
    |>.behind (.of_pieces (by repeat constructor) (by rfl))

/-! ## Members -/

/-- What there is of one sort of members, each with a badge or a card. -/
def badgeClasses (style : String) (count : Nat) : List String :=
  if count = 0 then [] else ["badge " ++ style]

def sectionClasses (card : String) (count : Nat) : List String :=
  if count = 0 then [] else "member-section" :: List.replicate count card

theorem presents_badges (type : TypeEntry) :
    Presents (badges type) (badgeClasses "badge-field" type.fields.length ++
      badgeClasses "badge-property" type.properties.length ++
      badgeClasses "badge-method" type.methods.length) :=
  Presents.behind (.of_pieces (by repeat constructor) (by rfl))
      (.optional (.of_pieces (by repeat constructor) (by rfl)))
    |>.append (.optional (.of_pieces (by repeat constructor) (by rfl)))
    |>.append (.optional (.of_pieces (by repeat constructor) (by rfl)))
    |>.before (.of_pieces (by repeat constructor) (by rfl))

theorem presents_memberCard (member : ValueEntry) :
    Presents (memberCard member) ["member-card"] :=
  .of_pieces (by repeat constructor) (by rfl)

/-- A section with one card for each of its entries, which is left out without entries. -/
theorem presents_section {start cards stop : Html} (entries : List Entry)
    (starts : Presents start ["member-section"])
    (listed : Presents cards (List.replicate entries.length card)) (stops : Presents stop []) :
    Presents (if entries.isEmpty then [] else start ++ cards ++ stop)
      (sectionClasses card entries.length) := by
  have vacant : (entries.isEmpty = true) = (entries.length = 0) := by simp
  have whole : Presents (start ++ cards ++ stop)
      ("member-section" :: List.replicate entries.length card) :=
    (starts.append listed).before stops
  have optional : Presents (if entries.length = 0 then [] else start ++ cards ++ stop) _ :=
    whole.optional
  simpa only [sectionClasses, vacant] using optional

theorem presents_cardSection (place title : String) (members : List ValueEntry) :
    Presents (cardSection place title members) (sectionClasses "member-card" members.length) := by
  have cards := Presents.each presents_memberCard (sortedMembers members)
  rw [sortedMembers, Text.length_sortBy] at cards
  exact presents_section members (.of_pieces (by repeat constructor) (by rfl)) cards
    (.of_pieces (by repeat constructor) (by rfl))

theorem presents_paramTable (params : List Parameter) : Presents (paramTable params) [] := by
  have row (param : Parameter) : Presents (paramRow param) [] :=
    .of_pieces (by repeat constructor) (by rfl)
  unfold paramTable
  split
  · exact Shows.nil _
  · exact Presents.behind (.of_pieces (by repeat constructor) (by rfl)) (.nothing row params)
      |>.behind (.of_pieces (by repeat constructor) (by rfl))

theorem presents_methodCard (method : MethodEntry) (place : String) :
    Presents (methodCard method place) ["method-card"] :=
  Presents.before (.of_pieces (by repeat constructor) (by rfl)) (presents_paramTable method.params)
    |>.before (.unlessEmpty _ (.of_pieces (by repeat constructor) (by rfl)))
    |>.before (.unlessEmpty _ (.of_pieces (by repeat constructor) (by rfl)))
    |>.before (.of_pieces (by repeat constructor) (by rfl))

theorem presents_methodSection (type : TypeEntry) :
    Presents (methodSection type) (sectionClasses "method-card" type.methods.length) := by
  have cards := Presents.each (fun card => presents_methodCard card.1 card.2) (sortedMethods type)
  have all : (sortedMethods type).length = type.methods.length := by
    simp [sortedMethods, TypeEntry.anchoredMethods, SafeNames.length_anchors]
  rw [all] at cards
  exact presents_section type.methods (.of_pieces (by repeat constructor) (by rfl)) cards
    (.of_pieces (by repeat constructor) (by rfl))

/-- The page of a type presents its badges, and then its sections with one card for each member. -/
theorem shownOn_ofType (catalogue : Catalogue) (type : TypeEntry) (options : Options) :
    shownOn (Page.ofType catalogue type options).render =
      badgeClasses "badge-field" type.fields.length ++
      badgeClasses "badge-property" type.properties.length ++
      badgeClasses "badge-method" type.methods.length ++
      sectionClasses "member-card" type.fields.length ++
      sectionClasses "member-card" type.properties.length ++
      sectionClasses "method-card" type.methods.length := by
  have page : Presents (Page.ofType catalogue type options) _ :=
    Presents.behind (presents_opening options _)
        (presents_banner options (.of_pieces (by repeat constructor) (by rfl)))
      |>.behind presents_sidebarStart
      |>.behind (presents_typeList catalogue type)
      |>.behind (presents_typeHeader type)
      |>.behind (presents_badges type)
      |>.append (presents_cardSection "fields" "Fields" type.fields)
      |>.append (presents_cardSection "properties" "Properties" type.properties)
      |>.append (presents_methodSection type)
      |>.before (.of_pieces (by repeat constructor) (by rfl))
      |>.before presents_closing
  exact page.classes

end DocPages.PageClasses
