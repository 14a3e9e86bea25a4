import DocPages.Page.Type
import DocPages.Proofs.CatalogueGrouping
import DocPages.Proofs.NavigationOrder

/-! How the records of a document may be reordered. What is said of a type depends on its own
records alone, so records of different owners may be mixed in any way. When namespaces are read off
the owners' names, the overview does not even depend on the order of one owner's records: it shows
names, which all of them agree in, and how many members there are. -/
namespace DocPages.RecordOrder
open Catalogue CatalogueConsistency CatalogueGrouping NavigationOrder Page

variable {records records' : List Record}

/-! ## Records of different owners -/

/-- The classified records of the owner, in their order. -/
def recordsOfOwner (owner : String) (records : List Record) : List Record :=
  records.filter fun record => isClassified record ∧ record.identifier.owner = owner

theorem firstOf_eq_head (owner : String) (records : List Record) :
    firstOf? owner records = (recordsOfOwner owner records).head? := by
  rw [recordsOfOwner, List.head?_filter, firstOf?]

/-- The records of one kind are among those of their owner. -/
theorem recordsOf_eq_filter (kind : Kind) (known : kind.isOther = false) (owner : String)
    (records : List Record) : recordsOf kind owner records =
      (recordsOfOwner owner records).filter (·.identifier.kind = kind) := by
  rw [recordsOf, recordsOfOwner, List.filter_filter]
  apply List.filter_congr
  intro record _
  by_cases own : record.identifier.kind = kind
  · simp [own, known, isClassified_eq]
  · simp [own]

theorem described_of_same (same : recordsOfOwner owner records = recordsOfOwner owner records')
    (namespaceName : String) :
    described namespaceName owner records = described namespaceName owner records' := by
  simp only [described, recordsOf_eq_filter .type rfl, recordsOf_eq_filter .method rfl,
    recordsOf_eq_filter .field rfl, recordsOf_eq_filter .property rfl, same]

/-- What is found under a name depends on the records of that owner alone. -/
theorem get_of_same (same : recordsOfOwner owner records = recordsOfOwner owner records') :
    (ofRecords records).get? owner = (ofRecords records').get? owner := by
  rw [get_ofRecords, get_ofRecords, group?, group?, firstOf_eq_head, firstOf_eq_head, same]
  simp only [described_of_same same]

theorem typesByName_alike (consistent : Consistent catalogue) (consistent' : Consistent catalogue')
    (same : ∀ owner, catalogue.get? owner = catalogue'.get? owner) :
    catalogue.typesByName = catalogue'.typesByName := by
  have alike : Alike id catalogue catalogue' := fun owner => congrArg _ (same owner)
  simpa using views_by_name (fun _ => rfl) consistent consistent' alike

theorem types_perm (consistent : Consistent catalogue) (consistent' : Consistent catalogue')
    (same : ∀ owner, catalogue.get? owner = catalogue'.get? owner) :
    catalogue.types.toList.Perm catalogue'.types.toList := by
  have alike : Alike id catalogue catalogue' := fun owner => congrArg _ (same owner)
  simpa using views_perm (fun _ => rfl) consistent consistent' alike

/-- A page shows other types in its navigation only. -/
theorem ofType_alike (sorted : catalogue.typesByName = catalogue'.typesByName) (type : TypeEntry)
    (options : Options) : Page.ofType catalogue type options = Page.ofType catalogue' type options := by
  rw [Page.ofType, Page.ofType, typeList, typeList, sorted]

/-- How the records of different owners are mixed makes no difference but to the order of types:
types, totals, sorted lists and pages are the same, and namespaces and search index hold the same
in another order. -/
theorem mixing_owners_changes_only_the_order (records records' : List Record)
    (same : ∀ owner, recordsOfOwner owner records = recordsOfOwner owner records')
    (options : Options) :
    let catalogue := ofRecords records
    let catalogue' := ofRecords records'
    (∀ owner, catalogue.get? owner = catalogue'.get? owner) ∧
      catalogue.totals = catalogue'.totals ∧
      catalogue.typesByName = catalogue'.typesByName ∧
      catalogue.namespaces.keys = catalogue'.namespaces.keys ∧
      (∀ (namespaceName : String) (owners owners' : List String),
        catalogue.namespaces[namespaceName]? = some owners →
          catalogue'.namespaces[namespaceName]? = some owners' → owners.Perm owners') ∧
      (SearchIndex.ofCatalogue catalogue).Perm (SearchIndex.ofCatalogue catalogue') ∧
      (overview catalogue options).render = (overview catalogue' options).render ∧
      ∀ type, (type ∈ catalogue.types ↔ type ∈ catalogue'.types) ∧
        (Page.ofType catalogue type options).render =
          (Page.ofType catalogue' type options).render := by
  intro catalogue catalogue'
  have consistent : Consistent catalogue := ofRecords_consistent records
  have consistent' : Consistent catalogue' := ofRecords_consistent records'
  have found : ∀ owner, catalogue.get? owner = catalogue'.get? owner := fun owner =>
    get_of_same (same owner)
  have alike : Alike glimpse catalogue catalogue' := alike_glimpse found
  have sorted : catalogue.typesByName = catalogue'.typesByName :=
    typesByName_alike consistent consistent' found
  have perm := types_perm consistent consistent' found
  obtain ⟨keys, lists⟩ := namespaces_alike consistent consistent' alike
  refine ⟨found, totals_alike consistent consistent' alike, sorted, keys, lists,
    perm.flatMap_right _, ?_, ?_⟩
  · rw [overview_alike consistent consistent' alike]
  · intro type
    refine ⟨?_, congrArg Html.render (ofType_alike sorted type options)⟩
    rw [← Array.mem_toList_iff, ← Array.mem_toList_iff]
    exact perm.mem_iff

/-- Two types whose records stand together, with an entry of a kind that documents nothing. The
later records of the first type claim another namespace for it. -/
def apartRecords : List Record :=
  [⟨⟨.method, "Ui.Menu", some "Open", none, "Ui"⟩, "Opens.", "", "", "", []⟩,
   ⟨⟨.type, "Ui.Menu", none, none, "Old"⟩, "A menu.", "", "", "", []⟩,
   ⟨⟨.method, "Ui.Menu", some "Open", some "(System.Int32)", "Old"⟩, "", "Slow.", "", "", []⟩,
   ⟨⟨.other "N", "Ui", none, none, ""⟩, "", "", "", "", []⟩,
   ⟨⟨.field, "Bell", some "tone", none, ""⟩, "The tone.", "", "", "", []⟩,
   ⟨⟨.property, "Ui.Bar", some "Width", none, "Ui"⟩, "", "", "", "", []⟩,
   ⟨⟨.type, "Ui.Menu", none, none, "Ui"⟩, "The menu.", "", "", "", []⟩]

/-- The same records of each type, mixed in another way. -/
def mixedRecords : List Record :=
  [⟨⟨.property, "Ui.Bar", some "Width", none, "Ui"⟩, "", "", "", "", []⟩,
   ⟨⟨.method, "Ui.Menu", some "Open", none, "Ui"⟩, "Opens.", "", "", "", []⟩,
   ⟨⟨.field, "Bell", some "tone", none, ""⟩, "The tone.", "", "", "", []⟩,
   ⟨⟨.type, "Ui.Menu", none, none, "Old"⟩, "A menu.", "", "", "", []⟩,
   ⟨⟨.other "E", "Ui.Menu", some "Opened", none, "Ui"⟩, "", "", "", "", []⟩,
   ⟨⟨.method, "Ui.Menu", some "Open", some "(System.Int32)", "Old"⟩, "", "Slow.", "", "", []⟩,
   ⟨⟨.type, "Ui.Menu", none, none, "Ui"⟩, "The menu.", "", "", "", []⟩]

theorem mixed_owners_agree :
    let apart := ofRecords apartRecords
    let mixed := ofRecords mixedRecords
    (∀ owner, recordsOfOwner owner apartRecords = recordsOfOwner owner mixedRecords) ∧
      names apart = ["Ui.Menu", "Bell", "Ui.Bar"] ∧ names mixed = ["Ui.Bar", "Ui.Menu", "Bell"] ∧
      apart.typesByName = mixed.typesByName ∧
      (SearchIndex.ofCatalogue apart).Perm (SearchIndex.ofCatalogue mixed) ∧
      (overview apart {}).render = (overview mixed {}).render ∧
      ∀ type, (Page.ofType apart type {}).render = (Page.ofType mixed type {}).render := by
  intro apart mixed
  have same : ∀ owner, recordsOfOwner owner apartRecords = recordsOfOwner owner mixedRecords := by
    intro owner
    by_cases named : owner ∈ ["Ui.Menu", "Bell", "Ui.Bar"]
    · revert owner
      decide +kernel
    · simp only [List.mem_cons, List.not_mem_nil, or_false, not_or] at named
      simp [recordsOfOwner, apartRecords, mixedRecords, isClassified_eq, Kind.isOther, named,
        eq_comm (b := owner)]
  obtain ⟨_, _, sorted, _, _, rows, overviews, pages⟩ :=
    mixing_owners_changes_only_the_order apartRecords mixedRecords same {}
  exact ⟨same, by decide +kernel, by decide +kernel, sorted, rows, overviews,
    fun type => (pages type).2⟩

/-! ## Records of one owner -/

/-- The namespace of an identifier that was read is told by its owner. -/
theorem namespaceName_of_parsed {identifier : Identifier}
    (parsed : Identifier.parse? text = some identifier) :
    identifier.namespaceName = enclosingName identifier.owner := by
  unfold Identifier.parse? at parsed
  split at parsed
  · contradiction
  · split at parsed
    · contradiction
    · rename_i code path _ _
      cases parsed
      unfold Identifier.ofPath
      split
      · rfl
      · dsimp only
        split <;> rfl

theorem glimpse_described (namespaceName owner : String) (records : List Record) :
    glimpse (described namespaceName owner records) =
      { fullName := owner, simpleName := simpleName owner, namespaceName
        methods := (recordsOf .method owner records).length
        fields := (recordsOf .field owner records).length
        properties := (recordsOf .property owner records).length } := by
  simp [glimpse, described]

theorem glimpse_described_perm (shuffled : records.Perm records') (namespaceName owner : String) :
    glimpse (described namespaceName owner records) =
      glimpse (described namespaceName owner records') := by
  have counts : ∀ kind, (recordsOf kind owner records).length =
      (recordsOf kind owner records').length := fun kind => (shuffled.filter _).length_eq
  simp only [glimpse_described, counts]

/-- A glimpse of a type does not tell which of its records came first. -/
theorem glimpse_group (derived : ∀ record ∈ records,
      record.identifier.namespaceName = enclosingName record.identifier.owner) (owner : String) :
    (group? records owner).map glimpse = (firstOf? owner records).map fun _ =>
      glimpse (described (enclosingName owner) owner records) := by
  rw [group?, Option.map_map]
  apply Option.map_congr
  intro first found
  have held : first ∈ records := List.mem_of_find?_eq_some found
  have owned : first.identifier.owner = owner := by
    have holds := List.find?_some found
    simp only [decide_eq_true_eq] at holds
    exact holds.2
  rw [Function.comp_apply, derived first held, owned]

theorem alike_of_shuffled (derived : ∀ record ∈ records,
      record.identifier.namespaceName = enclosingName record.identifier.owner)
    (shuffled : records.Perm records') :
    Alike glimpse (ofRecords records) (ofRecords records') := by
  intro owner
  have derived' : ∀ record ∈ records',
      record.identifier.namespaceName = enclosingName record.identifier.owner := fun record held =>
    derived record (shuffled.mem_iff.mpr held)
  have mentioned : (firstOf? owner records).isSome ↔ (firstOf? owner records').isSome := by
    simp only [isSome_firstOf, mem_owners_iff, shuffled.mem_iff]
  rw [get_ofRecords, get_ofRecords, glimpse_group derived, glimpse_group derived',
    glimpse_described_perm shuffled]
  cases first : firstOf? owner records <;> cases first' : firstOf? owner records' <;>
    simp_all

/-- The overview of records whose identifiers were read from texts is the same in whatever order
the records come. -/
theorem overview_ignores_record_order (records records' : List Record)
    (parsed : ∀ record ∈ records, ∃ text, Identifier.parse? text = some record.identifier)
    (shuffled : records.Perm records') (options : Options) :
    (overview (ofRecords records) options).render =
      (overview (ofRecords records') options).render := by
  have derived : ∀ record ∈ records,
      record.identifier.namespaceName = enclosingName record.identifier.owner := by
    intro record held
    obtain ⟨text, read⟩ := parsed record held
    exact namespaceName_of_parsed read
  rw [overview_alike (ofRecords_consistent records) (ofRecords_consistent records')
    (alike_of_shuffled derived shuffled)]

/-- Records of one type whose order shows in the catalogue. -/
def doorRecords : List Record :=
  [⟨⟨.type, "App.Door", none, none, "App"⟩, "A door.", "", "", "", []⟩,
   ⟨⟨.method, "App.Door", some "Open", some "(System.Int32)", "App"⟩, "", "", "", "", []⟩,
   ⟨⟨.field, "Bell", none, none, ""⟩, "", "", "", "", []⟩,
   ⟨⟨.method, "App.Door", some "Open", none, "App"⟩, "", "", "", "", []⟩,
   ⟨⟨.type, "App.Door", none, none, "App"⟩, "The door.", "", "", "", []⟩]

theorem reversed_records_share_overview :
    let forward := ofRecords doorRecords
    let backward := ofRecords doorRecords.reverse
    (∀ record ∈ doorRecords, ∃ text, Identifier.parse? text = some record.identifier) ∧
      forward.get? "App.Door" ≠ backward.get? "App.Door" ∧
      (overview forward {}).render = (overview backward {}).render := by
  intro forward backward
  have parsed : ∀ record ∈ doorRecords,
      ∃ text, Identifier.parse? text = some record.identifier := by
    simp only [doorRecords, List.forall_mem_cons, List.not_mem_nil, false_imp_iff, implies_true,
      and_true]
    exact ⟨⟨"T:App.Door", by decide +kernel⟩, ⟨"M:App.Door.Open(System.Int32)", by decide +kernel⟩,
      ⟨"F:Bell", by decide +kernel⟩, ⟨"M:App.Door.Open", by decide +kernel⟩,
      ⟨"T:App.Door", by decide +kernel⟩⟩
  exact ⟨parsed, by decide +kernel, overview_ignores_record_order doorRecords doorRecords.reverse
    parsed (List.reverse_perm _).symm {}⟩

end DocPages.RecordOrder
