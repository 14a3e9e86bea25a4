import DocPages.Page.Overview
import DocPages.Proofs.CatalogueConsistency
import Mathlib.Data.List.Nodup

/-! The order in which types came into being does not show in navigation. Catalogues that say the
same under every name hold the same types, in some order; names tell the types apart, so sorting by
them undoes the difference, and the lists of the namespaces are sorted before they are shown. Of a
type the overview shows little, so catalogues may even differ in the rest. -/
namespace DocPages.NavigationOrder
open Catalogue CatalogueConsistency Page

/-- Two catalogues show the same under every name, as far as the view of a type goes. -/
def Alike (view : TypeEntry → View) (catalogue catalogue' : Catalogue) : Prop :=
  ∀ owner, (catalogue.get? owner).map view = (catalogue'.get? owner).map view

theorem get_eq_some_iff (consistent : Consistent catalogue) :
    catalogue.get? owner = some type ↔ type ∈ catalogue.types ∧ type.fullName = owner := by
  constructor
  · intro found
    cases known : catalogue.index[owner]? with
    | none => simp [get?, known] at found
    | some place =>
      obtain ⟨other, held, named, got⟩ := get_of_indexed consistent known
      cases got.symm.trans found
      exact ⟨Array.mem_of_getElem? held, named⟩
  · rintro ⟨held, rfl⟩
    exact get_of_mem consistent held

theorem mem_typesByName {catalogue : Catalogue} (type : TypeEntry) :
    type ∈ catalogue.typesByName ↔ type ∈ catalogue.types := by
  rw [typesByName, (Text.sortBy_perm _ _).mem_iff, Array.mem_toList_iff]

/-- Every name in the list of a namespace is that of a type. -/
theorem known_of_listed (consistent : Consistent catalogue) {list : List String}
    (listed : (namespaceName, list) ∈ catalogue.namespaces.toList) (held : owner ∈ list) :
    ∃ type, catalogue.get? owner = some type ∧ type.fullName = owner := by
  rw [Std.ExtTreeMap.mem_toList_iff_getElem?_eq_some, consistent.listed] at listed
  rw [listed.2.2] at held
  obtain ⟨type, there, named⟩ := List.mem_map.mp held
  have among := Array.mem_toList_iff.mp (List.mem_filter.mp there).1
  exact ⟨type, (get_eq_some_iff consistent).mpr ⟨among, named⟩, named⟩

/-! ## Views that keep the names of types -/

section Views

variable {View : Type} {view : TypeEntry → View} {name : View → String}
variable {catalogue catalogue' : Catalogue}

theorem mem_views (named : ∀ type, name (view type) = type.fullName)
    (consistent : Consistent catalogue) (shown : View) :
    shown ∈ catalogue.types.toList.map view ↔
      (catalogue.get? (name shown)).map view = some shown := by
  simp only [List.mem_map, Array.mem_toList_iff, Option.map_eq_some_iff,
    get_eq_some_iff consistent]
  constructor
  · rintro ⟨type, held, rfl⟩
    exact ⟨type, ⟨held, (named type).symm⟩, rfl⟩
  · rintro ⟨type, ⟨held, _⟩, same⟩
    exact ⟨type, held, same⟩

theorem views_distinct (named : ∀ type, name (view type) = type.fullName)
    (consistent : Consistent catalogue) : (catalogue.types.toList.map view).Nodup := by
  have sameNames : (catalogue.types.toList.map view).map name = names catalogue := by
    rw [List.map_map, names]
    exact List.map_congr_left fun type _ => named type
  apply List.Nodup.of_map name
  rw [sameNames]
  exact consistent.distinct

theorem views_perm (named : ∀ type, name (view type) = type.fullName)
    (consistent : Consistent catalogue) (consistent' : Consistent catalogue')
    (alike : Alike view catalogue catalogue') :
    (catalogue.types.toList.map view).Perm (catalogue'.types.toList.map view) := by
  rw [List.perm_ext_iff_of_nodup (views_distinct named consistent)
    (views_distinct named consistent')]
  intro shown
  rw [mem_views named consistent, mem_views named consistent', alike]

/-- Types that have the same name are one type, and so are their views. -/
theorem views_unique (named : ∀ type, name (view type) = type.fullName)
    (consistent : Consistent catalogue) : ∀ shown ∈ catalogue.types.toList.map view,
      ∀ other ∈ catalogue.types.toList.map view, name shown = name other → shown = other := by
  intro shown held other held' same
  rw [mem_views named consistent] at held held'
  rw [same, held'] at held
  exact (Option.some.inj held).symm

theorem views_by_name (named : ∀ type, name (view type) = type.fullName)
    (consistent : Consistent catalogue) (consistent' : Consistent catalogue')
    (alike : Alike view catalogue catalogue') :
    catalogue.typesByName.map view = catalogue'.typesByName.map view := by
  rw [typesByName, typesByName, Text.map_sortBy named, Text.map_sortBy named]
  exact Text.sortBy_eq_of_perm (views_unique named consistent)
    (views_perm named consistent consistent' alike)

end Views

/-! ## What the overview shows -/

/-- What the overview tells of a type. -/
structure Glimpse where
  fullName : String
  simpleName : String
  namespaceName : String
  methods : Nat
  fields : Nat
  properties : Nat
  deriving DecidableEq, Repr

def glimpse (type : TypeEntry) : Glimpse where
  fullName := type.fullName
  simpleName := type.simpleName
  namespaceName := type.namespaceName
  methods := type.methods.length
  fields := type.fields.length
  properties := type.properties.length

theorem glimpse_named (type : TypeEntry) : (glimpse type).fullName = type.fullName := rfl

section Overview

variable {catalogue catalogue' : Catalogue}

theorem alike_glimpse (same : ∀ owner, catalogue.get? owner = catalogue'.get? owner) :
    Alike glimpse catalogue catalogue' := by
  intro owner
  rw [same]

/-- There are as many members of a sort as the glimpses of the types tell. -/
theorem members_alike {members : TypeEntry → List Member} (count : Glimpse → Nat)
    (told : ∀ type, count (glimpse type) = (members type).length)
    (perm : (catalogue.types.toList.map glimpse).Perm (catalogue'.types.toList.map glimpse)) :
    (catalogue.types.toList.flatMap members).length =
      (catalogue'.types.toList.flatMap members).length := by
  have counts : ∀ types : List TypeEntry,
      types.map (fun type => (members type).length) = (types.map glimpse).map count := by
    intro types
    rw [List.map_map]
    exact List.map_congr_left fun type _ => (told type).symm
  rw [List.length_flatMap, List.length_flatMap, counts, counts, (perm.map count).sum_nat]

theorem totals_alike (consistent : Consistent catalogue) (consistent' : Consistent catalogue')
    (alike : Alike glimpse catalogue catalogue') : catalogue.totals = catalogue'.totals := by
  have perm := views_perm glimpse_named consistent consistent' alike
  have types : catalogue.size = catalogue'.size := by simpa [size] using perm.length_eq
  have methods := members_alike Glimpse.methods (fun _ => rfl) perm
  have fields := members_alike Glimpse.fields (fun _ => rfl) perm
  have properties := members_alike Glimpse.properties (fun _ => rfl) perm
  rw [totals, totals, types, methods, fields, properties]

theorem namesIn_eq_glimpsed (catalogue : Catalogue) (namespaceName : String) :
    namesIn catalogue namespaceName = ((catalogue.types.toList.map glimpse).filter
      (·.namespaceName = namespaceName)).map Glimpse.fullName := by
  rw [namesIn, List.filter_map, List.map_map]
  rfl

theorem namesIn_perm (consistent : Consistent catalogue) (consistent' : Consistent catalogue')
    (alike : Alike glimpse catalogue catalogue') (namespaceName : String) :
    (namesIn catalogue namespaceName).Perm (namesIn catalogue' namespaceName) := by
  rw [namesIn_eq_glimpsed, namesIn_eq_glimpsed]
  exact ((views_perm glimpse_named consistent consistent' alike).filter _).map _

/-- The list of a namespace can be told from the types. -/
theorem getElem?_namespaces (consistent : Consistent catalogue) (namespaceName : String) :
    catalogue.namespaces[namespaceName]? =
      if namespaceName ≠ "" ∧ namesIn catalogue namespaceName ≠ [] then
        some (namesIn catalogue namespaceName)
      else none := by
  split
  · rename_i there
    exact (consistent.listed _ _).mpr ⟨there.1, there.2, rfl⟩
  · rename_i missing
    rw [Option.eq_none_iff_forall_ne_some]
    intro list found
    obtain ⟨within, nonempty, rfl⟩ := (consistent.listed _ _).mp found
    exact missing ⟨within, nonempty⟩

/-- The namespaces with their lists in order. -/
def sortedNamespaces (catalogue : Catalogue) : Std.ExtTreeMap String (List String) :=
  catalogue.namespaces.map fun _ owners => Text.sortBy id owners

theorem sortedNamespaces_alike (consistent : Consistent catalogue)
    (consistent' : Consistent catalogue') (alike : Alike glimpse catalogue catalogue') :
    sortedNamespaces catalogue = sortedNamespaces catalogue' := by
  apply Std.ExtTreeMap.ext_getElem?
  intro namespaceName
  have perm := namesIn_perm consistent consistent' alike namespaceName
  have sorted : Text.sortBy id (namesIn catalogue namespaceName) =
      Text.sortBy id (namesIn catalogue' namespaceName) :=
    Text.sortBy_eq_of_perm (fun _ _ _ _ same => same) perm
  have vacant : namesIn catalogue namespaceName = [] ↔ namesIn catalogue' namespaceName = [] := by
    rw [← List.length_eq_zero_iff, ← List.length_eq_zero_iff, perm.length_eq]
  simp only [sortedNamespaces, Std.ExtTreeMap.getElem?_map, getElem?_namespaces consistent,
    getElem?_namespaces consistent', ne_eq, vacant]
  split
  · exact congrArg some sorted
  · rfl

theorem namespaces_alike (consistent : Consistent catalogue) (consistent' : Consistent catalogue')
    (alike : Alike glimpse catalogue catalogue') :
    catalogue.namespaces.keys = catalogue'.namespaces.keys ∧
      ∀ (namespaceName : String) (owners owners' : List String),
        catalogue.namespaces[namespaceName]? = some owners →
          catalogue'.namespaces[namespaceName]? = some owners' → owners.Perm owners' := by
  constructor
  · have keys := congrArg Std.ExtTreeMap.keys (sortedNamespaces_alike consistent consistent' alike)
    simpa only [sortedNamespaces, Std.ExtTreeMap.keys_map] using keys
  · intro namespaceName owners owners' found found'
    obtain ⟨_, _, rfl⟩ := (consistent.listed _ _).mp found
    obtain ⟨_, _, rfl⟩ := (consistent'.listed _ _).mp found'
    exact namesIn_perm consistent consistent' alike namespaceName

/-- The label of an owner depends on a glimpse of its type. -/
theorem ofOwner_alike (alike : Alike glimpse catalogue catalogue') :
    NavItem.ofOwner catalogue = NavItem.ofOwner catalogue' := by
  funext owner
  have label := congrArg (Option.map Glimpse.simpleName) (alike owner)
  rw [Option.map_map, Option.map_map] at label
  exact congrArg (fun known : Option String => NavItem.mk _ (known.getD owner)) label

theorem namespaceGroups_alike (consistent : Consistent catalogue)
    (consistent' : Consistent catalogue') (alike : Alike glimpse catalogue catalogue') :
    namespaceGroups catalogue = namespaceGroups catalogue' := by
  have lists := congrArg Std.ExtTreeMap.toList (sortedNamespaces_alike consistent consistent' alike)
  simp only [sortedNamespaces, Std.ExtTreeMap.toList_map] at lists
  have groups := congrArg (List.map fun (group : String × List String) =>
    NavGroup.mk group.1 (group.2.map (NavItem.ofOwner catalogue'))) lists
  rw [List.map_map, List.map_map] at groups
  rw [namespaceGroups, namespaceGroups, ofOwner_alike alike]
  exact groups

/-- The type of which a glimpse is all that is known. -/
def Glimpse.toType (seen : Glimpse) : TypeEntry where
  fullName := seen.fullName
  simpleName := seen.simpleName
  namespaceName := seen.namespaceName

/-- The entries of the group of the global namespace, as far as glimpses tell. -/
theorem globalGroups_eq_glimpsed (catalogue : Catalogue) :
    globalGroups catalogue =
      match (catalogue.typesByName.map glimpse).filter (·.namespaceName == "") with
      | [] => []
      | seen => [{ heading := "Global", items := seen.map (NavItem.ofType ·.toType) }] := by
  have filtered : (catalogue.typesByName.map glimpse).filter (·.namespaceName == "") =
      (catalogue.typesByName.filter (·.namespaceName == "")).map glimpse := by
    rw [List.filter_map]
    rfl
  rw [globalGroups, filtered]
  cases catalogue.typesByName.filter (·.namespaceName == "") with
  | nil => rfl
  | cons type types =>
    simp only [List.map_cons, List.map_map]
    rfl

theorem typeLines_alike
    (sorted : catalogue.typesByName.map glimpse = catalogue'.typesByName.map glimpse) :
    catalogue.typesByName.flatMap typeLine = catalogue'.typesByName.flatMap typeLine := by
  have lines : ∀ types : List TypeEntry,
      types.flatMap typeLine = (types.map glimpse).flatMap (typeLine ·.toType) := by
    intro types
    rw [List.flatMap_map]
    rfl
  rw [lines, lines, sorted]

/-- The overview shows nothing of a catalogue but glimpses of its types. -/
theorem overview_alike (consistent : Consistent catalogue) (consistent' : Consistent catalogue')
    (alike : Alike glimpse catalogue catalogue') (options : Options) :
    overview catalogue options = overview catalogue' options := by
  have sorted := views_by_name glimpse_named consistent consistent' alike
  simp only [overview, navGroups, typeLines_alike sorted,
    namespaceGroups_alike consistent consistent' alike, globalGroups_eq_glimpsed, sorted,
    totals_alike consistent consistent' alike]

end Overview

end DocPages.NavigationOrder
