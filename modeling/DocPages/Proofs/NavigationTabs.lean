import DocPages.Proofs.PageLinks

/-! The two tabs of the overview list the same types, each of them once. The first tab goes through
the types themselves; the second goes through the lists of the namespaces and looks every name up,
and then adds the types that no list has. That the lists hold each type in its own namespace and
nothing else is what makes both agree. -/
namespace DocPages.NavigationTabs
open Catalogue CatalogueConsistency CatalogueGrouping NavigationOrder Page PageReading Text

variable {catalogue : Catalogue} {types : List TypeEntry}

/-! ## The tabs as texts -/

/-- The link to a type, which is the same in both tabs. -/
def linkText (type : TypeEntry) : String :=
  "<a href=\"" ++ Html.escape (Address.page type.fullName) ++ "\">" ++
    Html.escape type.simpleName ++ "</a>"

/-- The namespace of a type as the first tab shows it. -/
def labelText (type : TypeEntry) : String :=
  if type.namespaceName = "" then ""
  else "<span class=\"namespace-label\">" ++ Html.escape type.namespaceName ++ "</span>"

/-- The first tab when it lists these types. -/
def typesTab (types : List TypeEntry) : String :=
  "<div id=\"types-tab\" class=\"tab-content active\">\n<ul class=\"type-list\">\n" ++
  String.join (types.map fun type => "  <li>" ++ linkText type ++ labelText type ++ "</li>\n") ++
  "</ul>\n</div>\n"

def groupText (heading : String) (types : List TypeEntry) : String :=
  "<div class=\"namespace-group\">\n<h3>" ++ Html.escape heading ++
  "</h3>\n<ul class=\"type-list\">\n" ++
  String.join (types.map fun type => "  <li>" ++ linkText type ++ "</li>\n") ++
  "</ul>\n</div>\n"

/-- The second tab when it lists types under these headings. -/
def namespacesTab (groups : List (String × List TypeEntry)) : String :=
  "<div id=\"namespaces-tab\" class=\"tab-content\">\n" ++
  String.join (groups.map fun (heading, types) => groupText heading types) ++ "</div>\n"

/-- The types outside of all namespaces have a heading of their own if there are any. -/
def globalGroup (types : List TypeEntry) : List (String × List TypeEntry) :=
  if types = [] then [] else [("Global", types)]

/-- What stands on the overview before the tabs, which is the same for all types. -/
def aboveTabs (options : Options) : String :=
  (opening options options.title).render ++
  (banner options [.markup "<p>Generated from XML documentation comments</p>"]).render ++
  sidebarStart.render ++ "<h2>Navigation</h2>\n<div class=\"nav-tabs\">\n" ++
  "  <button class=\"nav-tab active\" data-tab=\"types\">Types</button>\n" ++
  "  <button class=\"nav-tab\" data-tab=\"namespaces\">Namespaces</button>\n</div>\n"

/-- What stands behind the tabs. Of the types it shows how many there are. -/
def belowTabs (totals : Totals) (options : Options) : String :=
  "</nav>\n<main class=\"main-content\">\n" ++ "<div class=\"welcome-section\">\n<h2>" ++
  Html.escape options.title ++
  "</h2>\n<p>Use the search box or browse by type or namespace.</p>\n</div>\n" ++
  (totalsGrid totals).render ++ "</main>\n</div>\n" ++ closing.render

theorem link_render (type : TypeEntry) : (NavItem.ofType type).html.render = linkText type := by
  have opening : "<a href=\"" = "<a " ++ "href=\"" := rfl
  have behind : "\">" = "\"" ++ ">" := rfl
  simp only [NavItem.html, NavItem.ofType, linkText, opening, behind, Html.render_cons,
    Html.render_nil, Html.Piece.render, String.append_empty, String.append_assoc]

theorem typeLine_render (type : TypeEntry) :
    (typeLine type).render = "  <li>" ++ linkText type ++ labelText type ++ "</li>\n" := by
  simp only [typeLine, Html.render_append, link_render, labelText]
  split <;> simp only [Html.render_cons, Html.render_nil, Html.Piece.render, String.append_empty,
    String.append_assoc]

theorem navGroup_render (heading : String) (types : List TypeEntry) :
    (NavGroup.html ⟨heading, types.map NavItem.ofType⟩).render = groupText heading types := by
  have line (type : TypeEntry) : Html.render ([.markup "  <li>"] ++ (NavItem.ofType type).html ++
      [.markup "</li>\n"]) = "  <li>" ++ linkText type ++ "</li>\n" := by
    simp only [Html.render_append, link_render, Html.render_cons, Html.render_nil,
      Html.Piece.render, String.append_empty]
  unfold NavGroup.html groupText
  rw [Html.render_append, Html.render_append, List.flatMap_map, Html.render_flatMap]
  simp only [line, Html.render_cons, Html.render_nil, Html.Piece.render, String.append_empty,
    String.append_assoc]

/-! ## What the tabs list -/

/-- A list of all types of one sort, in which the full names go up. -/
structure Lists (catalogue : Catalogue) (sort : TypeEntry → Prop) (listed : List TypeEntry) :
    Prop where
  ascending : listed.Pairwise fun a b => Precedes a.fullName.toList b.fullName.toList
  complete : ∀ type, type ∈ listed ↔ type ∈ catalogue.types ∧ sort type

/-- The types of a namespace by name, those of the global one for the empty name. -/
def typesIn (catalogue : Catalogue) (namespaceName : String) : List TypeEntry :=
  catalogue.typesByName.filter (·.namespaceName = namespaceName)

theorem typesByName_lists (consistent : Consistent catalogue) :
    Lists catalogue (fun _ => True) catalogue.typesByName where
  ascending := sortBy_ascending consistent.distinct
  complete := by simp [mem_typesByName]

theorem typesIn_lists (consistent : Consistent catalogue) (namespaceName : String) :
    Lists catalogue (·.namespaceName = namespaceName) (typesIn catalogue namespaceName) where
  ascending := (typesByName_lists consistent).ascending.filter _
  complete := by simp [typesIn, mem_typesByName]

/-- The list of a namespace by name has the names of the namespace's types by name. -/
theorem sorted_namesIn (catalogue : Catalogue) (namespaceName : String) :
    sortBy id (namesIn catalogue namespaceName) =
      (typesIn catalogue namespaceName).map TypeEntry.fullName := by
  have unique : ∀ a ∈ namesIn catalogue namespaceName, ∀ b ∈ namesIn catalogue namespaceName,
      id a = id b → a = b := fun _ _ _ _ same => same
  have perm : (namesIn catalogue namespaceName).Perm
      ((typesIn catalogue namespaceName).map TypeEntry.fullName) :=
    ((sortBy_perm TypeEntry.fullName catalogue.types.toList).symm.filter _).map _
  have ordered : ((typesIn catalogue namespaceName).map TypeEntry.fullName).Pairwise
      fun a b => inOrder (id a) (id b) := by
    rw [List.pairwise_map]
    exact (sortBy_ordered TypeEntry.fullName catalogue.types.toList).filter _
  rw [sortBy_eq_of_perm unique perm, sortBy_of_ordered ordered]

/-- Looking up the name of a type leads to the type, so its item says what the type says. -/
theorem ofOwner_fullName (consistent : Consistent catalogue) (held : type ∈ catalogue.types) :
    NavItem.ofOwner catalogue type.fullName = .ofType type := by
  simp [NavItem.ofOwner, NavItem.ofType, get_of_mem consistent held]

theorem items_of_namespace (consistent : Consistent catalogue) {owners : List String}
    (found : (namespaceName, owners) ∈ catalogue.namespaces.toList) :
    (sortBy id owners).map (NavItem.ofOwner catalogue) =
      (typesIn catalogue namespaceName).map .ofType := by
  rw [Std.ExtTreeMap.mem_toList_iff_getElem?_eq_some, consistent.listed] at found
  obtain ⟨_, _, rfl⟩ := found
  rw [sorted_namesIn, List.map_map]
  apply List.map_congr_left
  intro type held
  exact ofOwner_fullName consistent (((typesIn_lists consistent _).complete type).mp held).1

/-- The types of each namespace. -/
def namespaceTypes (catalogue : Catalogue) : List (String × List TypeEntry) :=
  catalogue.namespaces.keys.map fun namespaceName => (namespaceName, typesIn catalogue namespaceName)

theorem namespaceGroups_eq (consistent : Consistent catalogue) :
    namespaceGroups catalogue = (namespaceTypes catalogue).map fun (heading, types) =>
      ⟨heading, types.map .ofType⟩ := by
  rw [namespaceTypes, ← Std.ExtTreeMap.map_fst_toList_eq_keys, List.map_map, List.map_map,
    namespaceGroups]
  apply List.map_congr_left
  rintro ⟨namespaceName, owners⟩ found
  exact congrArg (NavGroup.mk namespaceName) (items_of_namespace consistent found)

theorem globalGroups_eq (catalogue : Catalogue) :
    globalGroups catalogue = (globalGroup (typesIn catalogue "")).map fun (heading, types) =>
      ⟨heading, types.map .ofType⟩ := by
  have same : catalogue.typesByName.filter (·.namespaceName == "") = typesIn catalogue "" := rfl
  rw [globalGroups, same, globalGroup]
  cases typesIn catalogue "" <;> simp

/-- The groups of the second tab. -/
def tabGroups (catalogue : Catalogue) : List (String × List TypeEntry) :=
  namespaceTypes catalogue ++ globalGroup (typesIn catalogue "")

theorem navGroups_eq (consistent : Consistent catalogue) :
    navGroups catalogue = (tabGroups catalogue).map fun (heading, types) =>
      ⟨heading, types.map .ofType⟩ := by
  rw [navGroups, namespaceGroups_eq consistent, globalGroups_eq, tabGroups, List.map_append]

/-! ## Every type in one group -/

theorem mem_namespaces_iff (consistent : Consistent catalogue) (namespaceName : String) :
    namespaceName ∈ catalogue.namespaces ↔
      namespaceName ≠ "" ∧ ∃ type ∈ catalogue.types, type.namespaceName = namespaceName := by
  have inhabited : namesIn catalogue namespaceName ≠ [] ↔
      ∃ type ∈ catalogue.types, type.namespaceName = namespaceName := by
    simp [namesIn]
  rw [← inhabited, Std.ExtTreeMap.mem_iff_isSome_getElem?, getElem?_namespaces consistent]
  split <;> simp_all

theorem namespaces_ascending (catalogue : Catalogue) :
    catalogue.namespaces.keys.Pairwise fun a b => Precedes a.toList b.toList :=
  Std.ExtTreeMap.ordered_keys.imp compare_eq_lt_iff.mp

theorem tabGroups_perm (consistent : Consistent catalogue) :
    ((tabGroups catalogue).flatMap Prod.snd).Perm catalogue.typesByName := by
  have groups : (tabGroups catalogue).flatMap Prod.snd =
      (catalogue.namespaces.keys ++ [""]).flatMap (typesIn catalogue) := by
    rw [tabGroups, namespaceTypes, globalGroup, List.flatMap_append, List.flatMap_map,
      List.flatMap_append]
    split <;> simp_all
  have listed (namespaceName : String) : namespaceName ∈ catalogue.namespaces.keys ↔
      namespaceName ≠ "" ∧ ∃ type ∈ catalogue.types, type.namespaceName = namespaceName := by
    rw [Std.ExtTreeMap.mem_keys, mem_namespaces_iff consistent]
  have distinct : (catalogue.namespaces.keys ++ [""]).Nodup := by
    have unnamed : "" ∉ catalogue.namespaces.keys := by simp [listed, -Std.ExtTreeMap.mem_keys]
    have apart : catalogue.namespaces.keys.Nodup :=
      Std.ExtTreeMap.distinct_keys.imp fun different => by simpa using different
    simpa using apart.concat unnamed
  have all : catalogue.typesByName.filter (·.namespaceName ∈ catalogue.namespaces.keys ++ [""]) =
      catalogue.typesByName := by
    rw [List.filter_eq_self]
    intro type held
    have there := (mem_typesByName type).mp held
    rw [decide_eq_true_eq, List.mem_append, listed, List.mem_singleton]
    by_cases global : type.namespaceName = ""
    · exact .inr global
    · exact .inl ⟨global, type, there, rfl⟩
  have perm := perm_of_keys TypeEntry.namespaceName catalogue.typesByName distinct
  rw [all] at perm
  rw [groups]
  exact perm

/-! ## The page -/

theorem groups_render (groups : List (String × List TypeEntry)) :
    Html.render ((groups.map fun (heading, types) =>
      NavGroup.mk heading (types.map NavItem.ofType)).flatMap NavGroup.html) =
        String.join (groups.map fun (heading, types) => groupText heading types) := by
  rw [List.flatMap_map, Html.render_flatMap]
  simp only [navGroup_render]

/-- The two tabs stand one behind the other. -/
theorem overview_render (consistent : Consistent catalogue) (options : Options) :
    (overview catalogue options).render = aboveTabs options ++ typesTab catalogue.typesByName ++
      namespacesTab (tabGroups catalogue) ++ belowTabs catalogue.totals options := by
  have lines : Html.render (catalogue.typesByName.flatMap typeLine) =
      String.join (catalogue.typesByName.map fun type =>
        "  <li>" ++ linkText type ++ labelText type ++ "</li>\n") := by
    rw [Html.render_flatMap]
    simp only [typeLine_render]
  have groups := groups_render (tabGroups catalogue)
  rw [← navGroups_eq consistent] at groups
  have typesId : Html.escape "types-tab" = "types-tab" := Escaping.escape_plain rfl
  have namespacesId : Html.escape "namespaces-tab" = "namespaces-tab" := Escaping.escape_plain rfl
  -- The pieces of the page do not end where the tabs do, so they are cut there.
  have buttons :
      "  <button class=\"nav-tab\" data-tab=\"namespaces\">Namespaces</button>\n</div>\n<div " =
        "  <button class=\"nav-tab\" data-tab=\"namespaces\">Namespaces</button>\n</div>\n" ++
          "<div " := rfl
  have typesStart :
      "<div id=\"types-tab\" class=\"tab-content active\">\n<ul class=\"type-list\">\n" =
        "<div " ++ ("id=\"" ++ ("types-tab" ++ ("\"" ++
          " class=\"tab-content active\">\n<ul class=\"type-list\">\n"))) := rfl
  have typesEnd : "</ul>\n</div>\n<div " = "</ul>\n</div>\n" ++ "<div " := rfl
  have namespacesStart : "<div id=\"namespaces-tab\" class=\"tab-content\">\n" =
      "<div " ++ ("id=\"" ++ ("namespaces-tab" ++ ("\"" ++ " class=\"tab-content\">\n"))) := rfl
  have namespacesEnd : "</div>\n</nav>\n<main class=\"main-content\">\n" =
      "</div>\n" ++ "</nav>\n<main class=\"main-content\">\n" := rfl
  unfold overview aboveTabs typesTab namespacesTab belowTabs
  simp only [Html.render_append, Html.render_cons, Html.render_nil, Html.Piece.render, lines, groups,
    typesId, namespacesId, buttons, typesStart, typesEnd, namespacesStart, namespacesEnd,
    String.append_empty, String.append_assoc]

/-- Every link of the overview but that to the stylesheet is one of a tab. -/
theorem overview_links (consistent : Consistent catalogue) (options : Options) :
    valuesOf "href" (overview catalogue options).render = "style.css" ::
      (catalogue.typesByName ++ (tabGroups catalogue).flatMap Prod.snd).map
        (Address.page ·.fullName) := by
  rw [PagePlaces.links_overview, navGroups_eq consistent]
  simp [List.flatMap_map, List.map_flatMap, NavItem.ofType, Function.comp_def]

/-- The first tab of the overview lists all types by full name. The second one lists under each
namespace, and under a last heading if any are in none, exactly the types that are there, again by
full name. So both tabs together list every type once each, with the same link and label, and no
other links are on the page; and every name that a namespace lists is found. -/
theorem tabs_list_every_type_once (records : List Record) (options : Options) :
    let catalogue := ofRecords records
    let page := (overview catalogue options).render
    ∃ (listed outside : List TypeEntry) (groups : List (String × List TypeEntry)),
      page = aboveTabs options ++ typesTab listed ++ namespacesTab (groups ++ globalGroup outside) ++
        belowTabs catalogue.totals options ∧
      Lists catalogue (fun _ => True) listed ∧
      groups.map Prod.fst = catalogue.namespaces.keys ∧
      (groups.map Prod.fst).Pairwise (fun a b => Precedes a.toList b.toList) ∧
      (∀ group ∈ groups, Lists catalogue (·.namespaceName = group.1) group.2) ∧
      Lists catalogue (·.namespaceName = "") outside ∧
      ((groups ++ globalGroup outside).flatMap Prod.snd).Perm listed ∧
      valuesOf "href" page = "style.css" ::
        (listed ++ (groups ++ globalGroup outside).flatMap Prod.snd).map
          (Address.page ·.fullName) ∧
      ∀ (namespaceName : String) (owners : List String),
        catalogue.namespaces[namespaceName]? = some owners →
          ∀ owner ∈ owners, (catalogue.get? owner).isSome := by
  intro catalogue page
  have consistent : Consistent catalogue := ofRecords_consistent records
  have keys : (namespaceTypes catalogue).map Prod.fst = catalogue.namespaces.keys := by
    simp [namespaceTypes, Function.comp_def]
  refine ⟨catalogue.typesByName, typesIn catalogue "", namespaceTypes catalogue,
    overview_render consistent options, typesByName_lists consistent, keys, ?_, ?_,
    typesIn_lists consistent "", tabGroups_perm consistent, overview_links consistent options, ?_⟩
  · rw [keys]
    exact namespaces_ascending catalogue
  · intro group held
    obtain ⟨namespaceName, _, rfl⟩ := List.mem_map.mp held
    exact typesIn_lists consistent namespaceName
  · intro namespaceName owners found owner held
    have listed := Std.ExtTreeMap.mem_toList_iff_getElem?_eq_some.mpr found
    obtain ⟨type, got, _⟩ := known_of_listed consistent listed held
    simp [got]

end DocPages.NavigationTabs
