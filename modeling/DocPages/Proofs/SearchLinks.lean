import DocPages.Proofs.CatalogueGrouping
import DocPages.Proofs.Escaping
import DocPages.Proofs.SafeNames
import DocPages.Site

/-! The search index leads to the cards of the pages. Index and page take the anchors of a type's
methods from one list, in the order of the document; the page then sorts its cards and the index
makes its links safe, and neither of the two parts a method from its anchor. -/
namespace DocPages.SearchLinks
open Page SearchIndex

/-! ## Cards -/

/-- A section of a card, which is left out when there is nothing in it. -/
def sectionText (opening s : String) : String :=
  if s = "" then "" else opening ++ Html.escape s ++ "</p></div>\n"

/-- The table of parameters on a card, in their order. -/
def paramsText (params : List Parameter) : String :=
  if params = [] then ""
  else
    "<div class=\"params-section\">\n<h5>Parameters</h5>\n<table class=\"params-table\">\n" ++
    String.join (params.map fun param => "  <tr><td><code>" ++ Html.escape param.name ++
      "</code></td><td>" ++ Html.escape param.description ++ "</td></tr>\n") ++
    "</table>\n</div>\n"

/-- The card of a method as a page shows it, with this id and a link to itself. -/
def cardText (method : MethodEntry) (id : String) : String :=
  "<div class=\"method-card\" " ++ ("id=\"" ++ id ++ "\"") ++
  ">\n<div class=\"method-header\">\n  <h4><code>" ++ Html.escape method.name ++
  "</code><span class=\"signature\">" ++ Html.escape method.signature ++
  "</span></h4>\n  <a " ++ ("href=\"" ++ ("#" ++ id) ++ "\"") ++
  " class=\"anchor-link\">#</a>\n</div>\n<p class=\"method-summary\">" ++
  Html.escape method.summary ++ "</p>\n" ++ paramsText method.params ++
  sectionText "<div class=\"returns-section\"><h5>Returns</h5><p>" method.returns ++
  sectionText "<div class=\"remarks-section\"><h5>Remarks</h5><p>" method.remarks ++ "</div>\n"

theorem render_section (opening s : String) :
    (unlessEmpty s [.markup opening, .text s, .markup "</p></div>\n"]).render =
      sectionText opening s := by
  unfold unlessEmpty sectionText
  split <;> simp [Html.render_cons, Html.render_nil, Html.Piece.render, String.append_assoc]

theorem paramTable_render (params : List Parameter) :
    (paramTable params).render = paramsText params := by
  have row (param : Parameter) : (paramRow param).render = "  <tr><td><code>" ++
      Html.escape param.name ++ "</code></td><td>" ++ Html.escape param.description ++
      "</td></tr>\n" := by
    simp only [paramRow, Html.render_cons, Html.render_nil, Html.Piece.render,
      String.append_empty, String.append_assoc]
  have start : "<div class=\"params-section\">\n<h5>Parameters</h5>\n" ++
      "<table class=\"params-table\">\n" =
    "<div class=\"params-section\">\n<h5>Parameters</h5>\n<table class=\"params-table\">\n" := rfl
  cases params with
  | nil => rfl
  | cons param params =>
    unfold paramTable paramsText
    rw [if_neg (by simp), if_neg (by simp), Html.render_append, Html.render_append,
      Html.render_flatMap]
    simp only [row, start, Html.render_cons, Html.render_nil, Html.Piece.render,
      String.append_empty, String.append_assoc]

theorem methodCard_render (method : MethodEntry) (place : String) :
    (methodCard method place).render = cardText method (Html.escape place) := by
  unfold methodCard cardText
  simp only [Html.render_append, render_section, paramTable_render]
  simp only [Html.render_cons, Html.render_nil, Html.Piece.render, Escaping.escape_place]
  simp only [String.append_assoc, String.append_empty]

theorem cards_render (cards : List (MethodEntry × String)) :
    Html.render (cards.flatMap fun (method, place) => methodCard method place) =
      String.join (cards.map fun (method, place) => cardText method (Html.escape place)) := by
  rw [Html.render_flatMap]
  simp only [methodCard_render]

theorem sortedMethods_perm (type : TypeEntry) :
    (sortedMethods type).Perm type.anchoredMethods :=
  Text.sortBy_perm _ _

/-- The cards of a page, in its order. -/
def cards (type : TypeEntry) : Html :=
  (sortedMethods type).flatMap fun (method, place) => methodCard method place

theorem sortedMethods_nil (vacant : type.methods.isEmpty) : sortedMethods type = [] := by
  rw [← List.length_eq_zero_iff]
  simp [sortedMethods, TypeEntry.anchoredMethods, List.isEmpty_iff.mp vacant]

theorem cards_in_methodSection (type : TypeEntry) : cards type <:+: methodSection type := by
  unfold methodSection
  split
  · rename_i vacant
    rw [cards, sortedMethods_nil vacant]
    exact List.nil_infix
  · exact List.infix_append _ _ _

theorem cards_in_ofType (catalogue : Catalogue) (type : TypeEntry) (options : Options) :
    cards type <:+: Page.ofType catalogue type options := by
  have placed : methodSection type <:+: Page.ofType catalogue type options := by
    unfold Page.ofType
    exact (List.infix_append _ _ _).trans (List.prefix_append _ _).isInfix
  exact (cards_in_methodSection type).trans placed

/-! ## Rows -/

/-- The rows of a type stand between those of the types around it. -/
theorem ofCatalogue_at {catalogue : Catalogue} (held : catalogue.types[place]? = some type) :
    ofCatalogue catalogue = (catalogue.types.toList.take place).flatMap SearchIndex.ofType ++
      (SearchIndex.ofType type ++
        (catalogue.types.toList.drop (place + 1)).flatMap SearchIndex.ofType) := by
  have listed : catalogue.types.toList[place]? = some type := by simpa using held
  obtain ⟨within, found⟩ := List.getElem?_eq_some_iff.mp listed
  rw [ofCatalogue, ← List.flatMap_cons, ← List.flatMap_append, ← found,
    List.getElem_cons_drop, List.take_append_drop]

theorem anchoredMethods_places (type : TypeEntry) :
    type.anchoredMethods.map Prod.snd = Address.anchors (type.methods.map (·.name)) := by
  apply List.map_snd_zip
  simp [SafeNames.length_anchors]

theorem methodRow_url (anchored : pair ∈ type.anchoredMethods) :
    (methodRow type pair.1 pair.2).url = Address.page type.fullName ++ "#" ++ pair.2 :=
  SafeNames.ofMember_anchor type.fullName (List.of_mem_zip anchored).2

theorem methodRows_urls (type : TypeEntry) :
    (type.anchoredMethods.map fun (method, place) => (methodRow type method place).url) =
      (Address.anchors (type.methods.map (·.name))).map
        (Address.page type.fullName ++ "#" ++ ·) := by
  rw [← anchoredMethods_places, List.map_map]
  exact List.map_congr_left fun _ held => methodRow_url held

theorem methodRows_names (type : TypeEntry) :
    (type.anchoredMethods.map fun (method, place) => (methodRow type method place).fullName) =
      type.methods.map (type.fullName ++ "." ++ ·.name) := by
  have methods : type.anchoredMethods.map Prod.fst = type.methods := by
    apply List.map_fst_zip
    simp [SafeNames.length_anchors]
  conv => rhs; rw [← methods, List.map_map]
  rfl

/-- Whatever follows the rows of a type begins with the row of another one. -/
theorem head_of_rows (types : List TypeEntry) :
    ∀ row ∈ (types.flatMap SearchIndex.ofType).head?, row.subject = .type := by
  cases types with
  | nil => simp
  | cons type types => simp [SearchIndex.ofType, typeRow]

theorem typeFile_at {catalogue : Catalogue} (held : catalogue.types[place]? = some type)
    (options : Options) : (Site.ofCatalogue catalogue options).files[place + 2]? =
      some (Site.typeFile catalogue options type) := by
  obtain ⟨within, found⟩ := Array.getElem?_eq_some_iff.mp held
  simp [Site.ofCatalogue, List.getElem?_append, within, found]

/-- The index holds for a type its own row, and behind it one for each of its methods and no more.
The type's row leads to the file of its page, and a method's row to a place on that page that is the
id of the very card on which the method is shown. -/
theorem rows_lead_to_pages_and_cards (catalogue : Catalogue) (options : Options) (place : Nat)
    (type : TypeEntry) (held : catalogue.types[place]? = some type) :
    let page := Page.ofType catalogue type options
    let anchors := Address.anchors (type.methods.map (·.name))
    let own := typeRow type
    (∃ earlier rows later, ofCatalogue catalogue = earlier ++ own :: (rows ++ later) ∧
      earlier = (catalogue.types.toList.take place).flatMap SearchIndex.ofType ∧
      rows.length = type.methods.length ∧ (∀ row ∈ rows, row.subject = .method) ∧
      (∀ row ∈ later.head?, row.subject = .type) ∧
      rows.map Row.fullName = type.methods.map (type.fullName ++ "." ++ ·.name) ∧
      rows.map Row.url = anchors.map (Address.page type.fullName ++ "#" ++ ·)) ∧
    (∃ (shown : List (MethodEntry × String)) (before after : String),
      shown.Perm (type.methods.zip anchors) ∧
      page.render = before ++ String.join (shown.map fun (method, anchor) =>
        cardText method (Html.escape anchor)) ++ after) ∧
    own.url = Address.page type.fullName ∧
      (Site.ofCatalogue catalogue options).files[place + 2]? = some ⟨own.url, page.render⟩ := by
  intro page anchors own
  refine ⟨?_, ?_, rfl, typeFile_at held options⟩
  · refine ⟨_, type.anchoredMethods.map fun (method, place) => methodRow type method place, _,
      ofCatalogue_at held, rfl, ?_, ?_, head_of_rows _, ?_, ?_⟩
    · simp [TypeEntry.anchoredMethods, SafeNames.length_anchors]
    · intro row listed
      obtain ⟨pair, _, rfl⟩ := List.mem_map.mp listed
      rfl
    · rw [List.map_map]
      exact methodRows_names type
    · rw [List.map_map]
      exact methodRows_urls type
  · obtain ⟨before, after, split⟩ := cards_in_ofType catalogue type options
    refine ⟨sortedMethods type, Html.render before, Html.render after, sortedMethods_perm type, ?_⟩
    rw [← cards_render, ← Html.render_append, ← Html.render_append]
    exact congrArg Html.render split.symm

/-- Overloads, and two operators whose names become the same in an address. -/
def operatorRecords : List Record :=
  [⟨⟨.property, "Other", some "Length", none, ""⟩, "", "", "", "", []⟩,
   ⟨⟨.method, "Col.List<T>", some "op<", none, "Col"⟩, "Less.", "", "", "", []⟩,
   ⟨⟨.method, "Col.List<T>", some "Move", some "(System.Int32)", "Col"⟩, "Moves.", "", "", "", []⟩,
   ⟨⟨.method, "Col.List<T>", some "op>", none, "Col"⟩, "More.", "", "", "Success.", []⟩,
   ⟨⟨.method, "Col.List<T>", some "Move", some "(System.Single)", "Col"⟩, "", "Slow.", "", "", []⟩]

theorem operators_lead_to_their_cards :
    let catalogue := Catalogue.ofRecords operatorRecords
    let type := CatalogueGrouping.described "Col" "Col.List<T>" operatorRecords
    let anchors := ["op_", "Move", "op_-2", "Move-2"]
    catalogue.types[1]? = some type ∧
      (∃ earlier rows later, ofCatalogue catalogue = earlier ++ typeRow type :: (rows ++ later) ∧
        rows.map Row.url = anchors.map ("Col.List_T_.html#" ++ ·)) ∧
      ∃ (shown : List (MethodEntry × String)) (before after : String),
        shown.Perm (type.methods.zip anchors) ∧
        (Page.ofType catalogue type {}).render = before ++ String.join (shown.map
          fun (method, anchor) => cardText method (Html.escape anchor)) ++ after := by
  intro catalogue type anchors
  have held : catalogue.types[1]? = some type := by decide +kernel
  have named : Address.anchors (type.methods.map (·.name)) = anchors := by decide +kernel
  have page : Address.page type.fullName ++ "#" = "Col.List_T_.html#" := by decide +kernel
  obtain ⟨⟨earlier, rows, later, split, _, _, _, _, _, urls⟩, shown, _⟩ :=
    rows_lead_to_pages_and_cards catalogue {} 1 type held
  rw [named] at urls shown
  rw [page] at urls
  exact ⟨held, ⟨earlier, rows, later, split, urls⟩, shown⟩

end DocPages.SearchLinks
