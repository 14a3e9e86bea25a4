import DocPages.Proofs.PageReading
import DocPages.Proofs.SearchLinks
import Mathlib.Data.List.Basic

/-! The places of the two kinds of pages, part by part. Each part stands outside of tags, so the
reader finds in it the places that its pieces are, and those of a page are told from what is listed
on it. -/
namespace DocPages.PagePlaces
open Page PageReading

/-! ## What all pages have -/

theorem legible_opening (options : Options) (title : String) :
    Legible (opening options title) := by
  unfold opening
  -- The name of the theme stands in a value, so what it says has to be known.
  cases options.theme
  · exact .of_pieces (.markup _ (.known _ (by repeat constructor))) (by rfl)
  · exact .of_pieces (.markup _ (.known _ (by repeat constructor))) (by rfl)

theorem legible_banner (options : Options) (legible : Legible subtitle) :
    Legible (banner options subtitle) :=
  .of_pieces (by repeat first | exact .part legible | constructor) (by rfl)

theorem legible_sidebarStart : Legible sidebarStart :=
  .of_pieces (by repeat constructor) (by rfl)

theorem legible_closing : Legible closing :=
  .of_pieces (by repeat constructor) (by rfl)

/-! ## Members -/

theorem legible_memberCard (member : ValueEntry) : Legible (memberCard member) :=
  .of_pieces (by repeat constructor) (by rfl)

theorem legible_cardSection (place title : String) (members : List ValueEntry) :
    Legible (cardSection place title members) := by
  have cards := Legible.flatMap legible_memberCard (sortedMembers members)
  exact .of_pieces (by repeat first | exact .part cards | constructor) (by rfl)

theorem legible_paramRow (param : Parameter) : Legible (paramRow param) :=
  .of_pieces (by repeat constructor) (by rfl)

theorem legible_paramTable (params : List Parameter) : Legible (paramTable params) := by
  have rows := Legible.flatMap legible_paramRow params
  exact .of_pieces (by repeat first | exact .part rows | constructor) (by rfl)

theorem legible_methodCard (method : MethodEntry) (place : String) :
    Legible (methodCard method place) := by
  have table := legible_paramTable method.params
  exact .of_pieces (by repeat first | exact .part table | constructor) (by rfl)

theorem legible_methodSection (type : TypeEntry) : Legible (methodSection type) := by
  have cards : Legible (SearchLinks.cards type) := by
    unfold SearchLinks.cards
    apply Legible.flatMap
    exact fun card => legible_methodCard card.1 card.2
  exact .of_pieces (by repeat first | exact .part cards | constructor) (by rfl)

/-! ## Navigation -/

theorem legible_navGroup (group : NavGroup) : Legible group.html := by
  have line (item : NavItem) :
      Legible ([.markup "  <li>"] ++ item.html ++ [.markup "</li>\n"]) :=
    .of_pieces (by repeat constructor) (by rfl)
  have lines := Legible.flatMap line group.items
  exact .of_pieces (by repeat first | exact .part lines | constructor) (by rfl)

theorem legible_typeLine (type : TypeEntry) : Legible (typeLine type) :=
  .of_pieces (by repeat constructor) (by rfl)

theorem legible_typeList (catalogue : Catalogue) (shown : TypeEntry) :
    Legible (typeList catalogue shown) := by
  have line (type : TypeEntry) : Legible ([.markup
      (if type.fullName = shown.fullName then "  <li class=\"active\">" else "  <li>")] ++
      (NavItem.ofType type).html ++ [.markup "</li>\n"]) := by
    split
    · exact .of_pieces (by repeat constructor) (by rfl)
    · exact .of_pieces (by repeat constructor) (by rfl)
  have lines := Legible.flatMap line catalogue.typesByName
  exact .of_pieces (by repeat first | exact .part lines | constructor) (by rfl)

/-! ## Pages -/

theorem legible_typeHeader (type : TypeEntry) : Legible (typeHeader type) :=
  .of_pieces (by repeat constructor) (by rfl)

theorem legible_badges (type : TypeEntry) : Legible (badges type) :=
  .of_pieces (by repeat constructor) (by rfl)

theorem legible_ofType (catalogue : Catalogue) (type : TypeEntry) (options : Options) :
    Legible (Page.ofType catalogue type options) :=
  Legible.append (legible_opening options _)
      (legible_banner options (.of_pieces (by repeat constructor) (by rfl)))
    |>.append legible_sidebarStart
    |>.append (legible_typeList catalogue type)
    |>.append (legible_typeHeader type)
    |>.append (legible_badges type)
    |>.append (legible_cardSection "fields" "Fields" type.fields)
    |>.append (legible_cardSection "properties" "Properties" type.properties)
    |>.append (legible_methodSection type)
    |>.append (.of_pieces (by repeat constructor) (by rfl))
    |>.append legible_closing

theorem legible_totalsGrid (totals : Totals) : Legible (totalsGrid totals) :=
  .of_pieces (by repeat constructor) (by rfl)

theorem legible_overview (catalogue : Catalogue) (options : Options) :
    Legible (overview catalogue options) :=
  Legible.append (legible_opening options _)
      (legible_banner options (.of_pieces (by repeat constructor) (by rfl)))
    |>.append legible_sidebarStart
    |>.append (.of_pieces (by repeat constructor) (by rfl))
    |>.append (.flatMap legible_typeLine _)
    |>.append (.of_pieces (by repeat constructor) (by rfl))
    |>.append (.flatMap legible_navGroup _)
    |>.append (.of_pieces (by repeat constructor) (by rfl))
    |>.append (legible_totalsGrid _)
    |>.append (.of_pieces (by repeat constructor) (by rfl))
    |>.append legible_closing

/-! ## The places in their order -/

/-- The parts of every page that have names. -/
def framePlaces : List String :=
  ["theme-toggle", "search-input", "search-results"]

/-- The names of the sections that a type's page has. -/
def sectionPlaces (type : TypeEntry) : List String :=
  (if type.fields.isEmpty then [] else ["fields"]) ++
  (if type.properties.isEmpty then [] else ["properties"]) ++
  (if type.methods.isEmpty then [] else ["methods"])

/-- The names of the method cards on a type's page. -/
def cardPlaces (type : TypeEntry) : List String :=
  (sortedMethods type).map fun (_, place) => place

theorem placesIn_opening (options : Options) (title : String) :
    placesIn (opening options title) = [.leadingTo "style.css"] := rfl

theorem placesIn_banner (options : Options) (subtitle : Html) :
    placesIn (banner options subtitle) = placesIn subtitle ++ [.naming "theme-toggle"] := by
  simp [banner, -String.reduceAppend]

theorem placesIn_sidebarStart :
    placesIn sidebarStart = [.naming "search-input", .naming "search-results"] := rfl

theorem placesIn_closing : placesIn closing = [] := rfl

theorem placesIn_typeList (catalogue : Catalogue) (shown : TypeEntry) :
    placesIn (typeList catalogue shown) =
      catalogue.typesByName.map (.leadingTo <| Address.page ·.fullName) := by
  simp [typeList, NavItem.html, NavItem.ofType, List.map_eq_flatMap]

theorem placesIn_typeHeader (type : TypeEntry) :
    placesIn (typeHeader type) = [.leadingTo "index.html"] := by
  simp [typeHeader, breadcrumb, unlessEmpty]

theorem placesIn_badge (count : Nat) (place style label : String) :
    placesIn (badge count place style label) =
      if count = 0 then [] else [.leadingTo ("#" ++ place)] := by
  simp [badge]

theorem placesIn_badges (type : TypeEntry) :
    placesIn (badges type) = (sectionPlaces type).map (.leadingTo <| "#" ++ ·) := by
  simp [badges, sectionPlaces, placesIn_badge, apply_ite (List.map _)]

theorem placesIn_cardSection (place title : String) (members : List ValueEntry) :
    placesIn (cardSection place title members) =
      if members.isEmpty then [] else [.naming place] := by
  have cardsPlaceless :
      ((sortedMembers members).flatMap fun _ => ([] : List Attribute)) = [] := by simp
  simp [cardSection, memberCard, cardsPlaceless]

theorem placesIn_paramTable (params : List Parameter) : placesIn (paramTable params) = [] := by
  simp [paramTable, paramRow, -String.reduceAppend]

theorem placesIn_methodCard (method : MethodEntry) (place : String) :
    placesIn (methodCard method place) = [.naming place, .leadingTo ("#" ++ place)] := by
  simp [methodCard, placesIn_paramTable, unlessEmpty]

theorem placesIn_methodSection (type : TypeEntry) :
    placesIn (methodSection type) = (if type.methods.isEmpty then [] else [.naming "methods"]) ++
      (cardPlaces type).flatMap fun place => [.naming place, .leadingTo ("#" ++ place)] := by
  unfold methodSection
  split
  · rename_i vacant
    simp [cardPlaces, SearchLinks.sortedMethods_nil vacant]
  · simp [placesIn_methodCard, cardPlaces, List.flatMap_map]

theorem placesIn_ofType (catalogue : Catalogue) (type : TypeEntry) (options : Options) :
    placesIn (Page.ofType catalogue type options) =
      [.leadingTo "style.css", .leadingTo "index.html"] ++ framePlaces.map .naming ++
      catalogue.typesByName.map (.leadingTo <| Address.page ·.fullName) ++
      [.leadingTo "index.html"] ++ (sectionPlaces type).map (.leadingTo <| "#" ++ ·) ++
      (sectionPlaces type).map .naming ++
      (cardPlaces type).flatMap fun place => [.naming place, .leadingTo ("#" ++ place)] := by
  have sections : (sectionPlaces type).map Attribute.naming =
      placesIn (cardSection "fields" "Fields" type.fields) ++
      placesIn (cardSection "properties" "Properties" type.properties) ++
      (if type.methods.isEmpty then [] else [.naming "methods"]) := by
    simp [sectionPlaces, placesIn_cardSection, apply_ite (List.map _)]
  simp [Page.ofType, placesIn_opening, placesIn_banner, placesIn_sidebarStart, placesIn_typeList,
    placesIn_typeHeader, placesIn_badges, placesIn_methodSection, placesIn_closing, sections,
    framePlaces]

/-- The names on the page of a type are those of the frame, the sections and the cards. -/
theorem ids_ofType (catalogue : Catalogue) (type : TypeEntry) (options : Options) :
    valuesOf "id" (Page.ofType catalogue type options).render =
      framePlaces ++ sectionPlaces type ++ cardPlaces type := by
  rw [(legible_ofType catalogue type options).valuesOf_place (.inl rfl), placesIn_ofType]
  simp [valuesIn, Attribute.naming, Attribute.leadingTo, List.filterMap_flatMap,
    Function.comp_def, List.filterMap_none]

/-- The page of a type leads to the pages of all types, and then to its own sections and cards. -/
theorem links_ofType (catalogue : Catalogue) (type : TypeEntry) (options : Options) :
    valuesOf "href" (Page.ofType catalogue type options).render =
      ["style.css", "index.html"] ++ catalogue.typesByName.map (Address.page ·.fullName) ++
      ["index.html"] ++ (sectionPlaces type ++ cardPlaces type).map ("#" ++ ·) := by
  rw [(legible_ofType catalogue type options).valuesOf_place (.inr rfl), placesIn_ofType]
  simp [valuesIn, Attribute.naming, Attribute.leadingTo, List.filterMap_flatMap,
    List.filterMap_none, ← List.map_eq_flatMap]

/-- The overview leads to the pages of all types, and once more to those under each heading. -/
theorem links_overview (catalogue : Catalogue) (options : Options) :
    valuesOf "href" (overview catalogue options).render =
      "style.css" :: (catalogue.typesByName.map (Address.page ·.fullName) ++
        (navGroups catalogue).flatMap (·.items.map (·.target))) := by
  have line : ∀ type, placesIn (typeLine type) = [.leadingTo (Address.page type.fullName)] := by
    simp [typeLine, NavItem.html, NavItem.ofType]
  have group : ∀ group, placesIn (NavGroup.html group) =
      group.items.map (.leadingTo <| NavItem.target ·) := by
    simp [NavGroup.html, NavItem.html, List.map_eq_flatMap]
  have totals : placesIn (totalsGrid catalogue.totals) = [] := rfl
  rw [(legible_overview catalogue options).valuesOf_place (.inr rfl)]
  simp [overview, placesIn_opening, placesIn_banner, placesIn_sidebarStart, placesIn_closing, line,
    group, totals, valuesIn, Attribute.naming, Attribute.leadingTo, List.filterMap_flatMap,
    ← List.map_eq_flatMap, -String.reduceAppend]

end DocPages.PagePlaces
