import DocPages.Proofs.CatalogueGrouping
import DocPages.Proofs.NavigationOrder
import DocPages.Proofs.PagePlaces
import DocPages.Text.Cut
import Mathlib.Data.List.Forall2

/-! Where links lead that are read as URLs, in which a number sign begins the place within a page.
The signs that files cannot have in their names are replaced in links and names alike, but a number
sign is none of them: it ends the name of the file in a link to it, so that no link reaches a type
with a number sign in its name, and all links reach the others. -/
namespace DocPages.PageLinks
open Catalogue CatalogueConsistency CatalogueGrouping NavigationOrder Page PagePlaces PageReading
open SearchIndex SearchLinks

/-! ## Reading a link -/

/-- The file that a link names. -/
def fileOf (link : String) : String :=
  ((Text.cutFirst? '#' link.toList).map fun (file, _) => .ofList file).getD link

/-- The place that a link names within the file. -/
def fragmentOf? (link : String) : Option String :=
  (Text.cutFirst? '#' link.toList).map fun (_, place) => .ofList place

theorem fileOf_eq_iff (link : String) : fileOf link = link ↔ '#' ∉ link.toList := by
  cases cut : Text.cutFirst? '#' link.toList with
  | none => simp [fileOf, cut, Text.cutFirst?_eq_none_iff.mp cut]
  | some sides =>
    obtain ⟨split, unmarked⟩ := Text.eq_of_cutFirst? cut
    have marked : '#' ∈ link.toList := by simp [split]
    simp only [fileOf, cut, Option.map_some, Option.getD_some, marked, not_true, iff_false]
    intro same
    rw [← same, String.toList_ofList] at marked
    exact unmarked marked

/-- A link that was joined from a file and a place is read as both. -/
theorem read_joined (plain : '#' ∉ file.toList) (place : String) :
    fileOf (file ++ "#" ++ place) = file ∧ fragmentOf? (file ++ "#" ++ place) = some place := by
  have cut := Text.cutFirst?_append plain place.toList
  have joined : (file ++ "#" ++ place).toList = file.toList ++ '#' :: place.toList := by simp
  simp [fileOf, fragmentOf?, joined, cut]

/-- Number signs are kept in the names of pages, and no others come in. -/
theorem mem_page_iff (owner : String) :
    '#' ∈ (Address.page owner).toList ↔ '#' ∈ owner.toList := by
  have kept : ∀ c, Address.safeChar c = '#' ↔ c = '#' := by
    intro c
    unfold Address.safeChar
    split
    · rename_i disallowed
      constructor
      · intro impossible
        exact absurd impossible (by decide)
      · rintro rfl
        exact absurd disallowed (by decide)
    · rfl
  simp [Address.page, Address.safe, kept]

/-! ## What the links should do -/

/-- The link names the file that the site has for the type. -/
def LeadsTo (catalogue : Catalogue) (options : Options) (link : String) (type : TypeEntry) : Prop :=
  let file := Site.typeFile catalogue options type
  file ∈ (Site.ofCatalogue catalogue options).files ∧ fileOf link = file.name

/-- The types behind the entries of the overview's second tab. -/
def groupedTypes (catalogue : Catalogue) : List TypeEntry :=
  (catalogue.namespaces.toList.flatMap fun (_, owners) => Text.sortBy id owners).filterMap
    catalogue.get? ++
  catalogue.typesByName.filter (·.namespaceName == "")

/-- All internal links lead to the types that they stand for. -/
structure LinksHold (catalogue : Catalogue) (options : Options) : Prop where
  rows : ∀ type ∈ catalogue.types, ∀ row ∈ SearchIndex.ofType type,
    LeadsTo catalogue options row.url type
  /-- The row of a method names the method's anchor. -/
  anchors : ∀ type ∈ catalogue.types, ∀ pair ∈ type.anchoredMethods,
    fragmentOf? (methodRow type pair.1 pair.2).url = some pair.2
  overview : ∃ links,
    valuesOf "href" (overview catalogue options).render = "style.css" :: links ∧
    List.Forall₂ (LeadsTo catalogue options) links
      (catalogue.typesByName ++ groupedTypes catalogue)
  /-- The links behind the second one to the overview stay on the page. -/
  pages : ∀ shown ∈ catalogue.types, ∃ links places : List String,
    valuesOf "href" (Page.ofType catalogue shown options).render =
      ["style.css", "index.html"] ++ links ++ ["index.html"] ++ places.map ("#" ++ ·) ∧
    List.Forall₂ (LeadsTo catalogue options) links catalogue.typesByName

/-! ## What they do -/

variable {catalogue : Catalogue}

theorem typeFile_mem (held : type ∈ catalogue.types) (options : Options) :
    Site.typeFile catalogue options type ∈ (Site.ofCatalogue catalogue options).files := by
  obtain ⟨place, found⟩ := Array.mem_iff_getElem?.mp held
  exact List.mem_of_getElem? (typeFile_at found options)

theorem leadsTo_page_iff (held : type ∈ catalogue.types) (options : Options) :
    LeadsTo catalogue options (Address.page type.fullName) type ↔ '#' ∉ type.fullName.toList := by
  rw [← mem_page_iff, ← fileOf_eq_iff]
  exact and_iff_right (typeFile_mem held options)

/-- Links made from the names of types lead to them if there are no number signs. -/
theorem all_lead (plain : ∀ owner ∈ names catalogue, '#' ∉ owner.toList) {types : List TypeEntry}
    (held : ∀ type ∈ types, type ∈ catalogue.types) (options : Options) :
    List.Forall₂ (LeadsTo catalogue options) (types.map (Address.page ·.fullName)) types := by
  rw [List.forall₂_map_left_iff, List.forall₂_same]
  intro type listed
  have there := held type listed
  rw [leadsTo_page_iff there]
  exact plain _ (List.mem_map_of_mem (Array.mem_toList_iff.mpr there))

theorem pages_of_known {owners : List String}
    (known : ∀ owner ∈ owners, ∃ type, catalogue.get? owner = some type ∧ type.fullName = owner) :
    (owners.filterMap catalogue.get?).map (Address.page ·.fullName) = owners.map Address.page := by
  induction owners with
  | nil => rfl
  | cons owner owners ih =>
    obtain ⟨type, found, named⟩ := known owner List.mem_cons_self
    rw [List.filterMap_cons_some found, List.map_cons, List.map_cons, named,
      ih fun other held => known other (List.mem_cons_of_mem _ held)]

theorem grouped_links (consistent : Consistent catalogue) :
    (navGroups catalogue).flatMap (·.items.map (·.target)) =
      (groupedTypes catalogue).map (Address.page ·.fullName) := by
  rw [navGroups, List.flatMap_append, groupedTypes, List.map_append]
  congr 1
  · rw [pages_of_known]
    · simp [namespaceGroups, NavItem.ofOwner, List.flatMap_map, List.map_flatMap,
        Function.comp_def]
    · intro owner held
      obtain ⟨⟨namespaceName, list⟩, listed, within⟩ := List.mem_flatMap.mp held
      exact known_of_listed consistent listed ((Text.sortBy_perm _ _).mem_iff.mp within)
  · rw [globalGroups]
    cases catalogue.typesByName.filter (·.namespaceName == "") with
    | nil => rfl
    | cons type types => simp [NavItem.ofType]

theorem groupedTypes_mem (consistent : Consistent catalogue) :
    ∀ type ∈ groupedTypes catalogue, type ∈ catalogue.types := by
  intro type held
  rcases List.mem_append.mp held with found | isGlobal
  · obtain ⟨owner, _, got⟩ := List.mem_filterMap.mp found
    exact ((get_eq_some_iff consistent).mp got).1
  · exact (mem_typesByName type).mp (List.mem_filter.mp isGlobal).1

theorem row_leads (plain : ∀ owner ∈ names catalogue, '#' ∉ owner.toList)
    (held : type ∈ catalogue.types) (options : Options) :
    ∀ row ∈ SearchIndex.ofType type, LeadsTo catalogue options row.url type := by
  have unmarked : '#' ∉ type.fullName.toList :=
    plain _ (List.mem_map_of_mem (Array.mem_toList_iff.mpr held))
  intro row listed
  rcases List.mem_cons.mp listed with rfl | listed
  · exact (leadsTo_page_iff held options).mpr unmarked
  · obtain ⟨pair, anchored, rfl⟩ := List.mem_map.mp listed
    refine ⟨typeFile_mem held options, ?_⟩
    rw [methodRow_url anchored]
    exact (read_joined ((mem_page_iff _).not.mpr unmarked) pair.2).1

theorem linksHold_iff (consistent : Consistent catalogue) (options : Options) :
    LinksHold catalogue options ↔ ∀ owner ∈ names catalogue, '#' ∉ owner.toList := by
  constructor
  · intro links owner named
    obtain ⟨type, held, rfl⟩ := List.mem_map.mp named
    rw [Array.mem_toList_iff] at held
    -- The row of the type itself is enough: its link is the name of the page.
    have leads := links.rows type held (typeRow type) List.mem_cons_self
    exact (leadsTo_page_iff held options).mp leads
  · intro plain
    constructor
    · exact fun type held => row_leads plain held options
    · intro type held pair anchored
      have unmarked : '#' ∉ type.fullName.toList :=
        plain _ (List.mem_map_of_mem (Array.mem_toList_iff.mpr held))
      rw [methodRow_url anchored]
      exact (read_joined ((mem_page_iff _).not.mpr unmarked) pair.2).2
    · refine ⟨_, links_overview catalogue options, ?_⟩
      rw [grouped_links consistent, ← List.map_append]
      refine all_lead plain ?_ options
      intro type held
      rcases List.mem_append.mp held with held | held
      · exact (mem_typesByName type).mp held
      · exact groupedTypes_mem consistent type held
    · intro shown _
      exact ⟨_, _, links_ofType catalogue shown options,
        all_lead plain (fun type => (mem_typesByName type).mp) options⟩

/-- All internal links of a site lead to the types that they stand for just if no type has a number
sign in its name. -/
theorem links_hold_without_number_signs (records : List Record) (options : Options) :
    LinksHold (ofRecords records) options ↔
      ∀ owner ∈ owners records, '#' ∉ owner.toList := by
  rw [linksHold_iff (ofRecords_consistent records), names_ofRecords]

/-- A type with a number sign in its name. -/
def sharpRecords : List Record :=
  [⟨⟨.type, "C#", none, none, ""⟩, "", "", "", "", []⟩]

theorem sharp_type_is_missed :
    let catalogue := ofRecords sharpRecords
    Identifier.parse? "T:C#" = some ⟨.type, "C#", none, none, ""⟩ ∧
      (ofCatalogue catalogue).map Row.url = ["C#.html"] ∧ fileOf "C#.html" = "C" ∧
      (Site.ofCatalogue catalogue {}).files.map (·.name) =
        ["search-index.json", "index.html", "C#.html", "style.css", "script.js"] ∧
      ¬ LinksHold catalogue {} := by
  intro catalogue
  refine ⟨by decide +kernel, by decide +kernel, by decide +kernel, by decide +kernel, ?_⟩
  rw [linksHold_iff (ofRecords_consistent sharpRecords)]
  decide +kernel

end DocPages.PageLinks
