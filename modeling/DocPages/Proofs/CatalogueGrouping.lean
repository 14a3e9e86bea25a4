import DocPages.Proofs.CatalogueConsistency
import Mathlib.Data.List.Induction

/-! A catalogue groups records by their owners. What it says of a type can be told from the list of
records without a catalogue: the namespace comes from the first record of the type, its own texts
from the last description, and its members from all of their records in order. -/
namespace DocPages.CatalogueGrouping
open Catalogue CatalogueConsistency

/-! ## Grouping a list of records -/

/-- The kinds of records that bring a type into being. -/
def documentedKinds : List Kind :=
  [.type, .method, .field, .property]

/-- Whether a record has one of these kinds. -/
def isClassified (record : Record) : Bool :=
  record.identifier.kind ∈ documentedKinds

/-- The owners of the classified records, in the order in which they first occur. -/
def owners (records : List Record) : List String :=
  ((records.filter isClassified).map (·.identifier.owner)).eraseDups

/-- The records of one kind that belong to the owner. -/
def recordsOf (kind : Kind) (owner : String) (records : List Record) : List Record :=
  records.filter fun record => record.identifier.kind = kind ∧ record.identifier.owner = owner

/-- The method that a record documents; a name or a signature that is not given is empty. -/
def methodOf (record : Record) : MethodEntry where
  name := record.identifier.member.getD ""
  signature := record.identifier.signature.getD ""
  summary := record.summary
  params := record.params
  returns := record.returns
  remarks := record.remarks

/-- The field or property that a record documents. -/
def valueOf (record : Record) : ValueEntry where
  name := record.identifier.member.getD ""
  summary := record.summary

/-- What the records say of the owner, as a type in the given namespace. -/
def described (namespaceName owner : String) (records : List Record) : TypeEntry :=
  let last? := (recordsOf .type owner records).getLast?
  { fullName := owner
    simpleName := simpleName owner
    namespaceName
    summary := (last?.map Record.summary).getD ""
    remarks := (last?.map Record.remarks).getD ""
    exampleText := (last?.map Record.exampleText).getD ""
    methods := (recordsOf .method owner records).map methodOf
    fields := (recordsOf .field owner records).map valueOf
    properties := (recordsOf .property owner records).map valueOf }

/-- The first classified record of the owner. -/
def firstOf? (owner : String) (records : List Record) : Option Record :=
  records.find? fun record => isClassified record ∧ record.identifier.owner = owner

/-- The type that the records document under this name. -/
def group? (records : List Record) (owner : String) : Option TypeEntry :=
  (firstOf? owner records).map fun first =>
    described first.identifier.namespaceName owner records

theorem isClassified_eq (record : Record) :
    isClassified record = !record.identifier.kind.isOther := by
  cases kind : record.identifier.kind <;>
    simp [isClassified, Kind.isOther, documentedKinds, kind]

theorem ofRecord_eq_methodOf (record : Record) : MethodEntry.ofRecord record = methodOf record :=
  rfl

theorem ofRecord_eq_valueOf (record : Record) : ValueEntry.ofRecord record = valueOf record :=
  rfl

theorem mem_owners_iff : owner ∈ owners records ↔
    ∃ record ∈ records, isClassified record ∧ record.identifier.owner = owner := by
  simp [owners, and_assoc]

theorem isSome_firstOf (owner : String) (records : List Record) :
    (firstOf? owner records).isSome ↔ owner ∈ owners records := by
  simp [firstOf?, mem_owners_iff]

/-- Taking entries out key by key takes all of them that have one of the keys. -/
theorem perm_of_keys (key : Entry → String) (entries : List Entry) {keys : List String}
    (distinct : keys.Nodup) : (keys.flatMap fun known => entries.filter (key · = known)).Perm
      (entries.filter (key · ∈ keys)) := by
  induction keys with
  | nil => simp
  | cons first keys ih =>
    obtain ⟨fresh, distinct⟩ := List.nodup_cons.mp distinct
    have own : (entries.filter (key · ∈ first :: keys)).filter (key · = first) =
        entries.filter (key · = first) := by
      rw [List.filter_filter]
      apply List.filter_congr
      intro entry _
      by_cases same : key entry = first <;> simp [same]
    have others : (entries.filter (key · ∈ first :: keys)).filter
        (fun entry => !decide (key entry = first)) = entries.filter (key · ∈ keys) := by
      rw [List.filter_filter]
      apply List.filter_congr
      intro entry _
      by_cases same : key entry = first <;> simp [same, fresh]
    have parts := List.filter_append_perm (key · = first)
      (entries.filter (key · ∈ first :: keys))
    rw [own, others] at parts
    rw [List.flatMap_cons]
    exact ((ih distinct).append_left _).trans parts

/-! ## One more record -/

private theorem eraseDups_concat (names : List String) (name : String) :
    (names ++ [name]).eraseDups =
      if name ∈ names then names.eraseDups else names.eraseDups ++ [name] := by
  rw [List.eraseDups_append]
  by_cases known : name ∈ names
  · simp [List.removeAll, known]
  · have single : [name].eraseDups = [name] := rfl
    simp [List.removeAll, known, single]

theorem owners_concat (classified : isClassified record) (records : List Record) :
    owners (records ++ [record]) =
      if record.identifier.owner ∈ owners records then owners records
      else owners records ++ [record.identifier.owner] := by
  rw [owners, List.filter_append, List.map_append, List.filter_cons, if_pos classified,
    List.filter_nil, List.map_singleton, eraseDups_concat]
  simp only [owners, List.mem_eraseDups]

theorem recordsOf_concat (kind : Kind) (owner : String) (records : List Record) (record : Record) :
    recordsOf kind owner (records ++ [record]) = recordsOf kind owner records ++
      if record.identifier.kind = kind ∧ record.identifier.owner = owner then [record] else [] := by
  by_cases own : record.identifier.kind = kind ∧ record.identifier.owner = owner <;>
    simp [recordsOf, own]

/-- A record of the owner is absorbed by what was said before. -/
theorem described_concat (owned : record.identifier.owner = owner) (namespaceName : String)
    (records : List Record) :
    described namespaceName owner (records ++ [record]) =
      (described namespaceName owner records).absorb record := by
  unfold TypeEntry.absorb
  split <;> rename_i kind <;>
    simp [described, recordsOf_concat, owned, kind, ofRecord_eq_methodOf, ofRecord_eq_valueOf]

theorem described_concat_foreign (foreign : record.identifier.owner ≠ owner)
    (namespaceName : String) (records : List Record) :
    described namespaceName owner (records ++ [record]) =
      described namespaceName owner records := by
  simp [described, recordsOf_concat, foreign]

theorem described_unmentioned (unmentioned : firstOf? owner records = none)
    (namespaceName : String) :
    described namespaceName owner records = .new owner namespaceName := by
  have unlisted : ∀ kind, kind.isOther = false → recordsOf kind owner records = [] := by
    intro kind known
    rw [recordsOf, List.filter_eq_nil_iff]
    intro record held own
    have other := List.find?_eq_none.mp unmentioned record held
    simp_all [isClassified_eq]
  simp [described, unlisted .type rfl, unlisted .method rfl, unlisted .field rfl,
    unlisted .property rfl, TypeEntry.new]

theorem firstOf_concat (classified : isClassified record) (owner : String)
    (records : List Record) :
    firstOf? owner (records ++ [record]) = (firstOf? owner records).or
      (if record.identifier.owner = owner then some record else none) := by
  rw [firstOf?, List.find?_append, ← firstOf?]
  by_cases owned : record.identifier.owner = owner <;> simp [classified, owned]

/-- What a classified record adds to the groups. -/
theorem group_concat (classified : isClassified record) (records : List Record) (owner : String) :
    group? (records ++ [record]) owner =
      if record.identifier.owner = owner then
        some (((group? records owner).getD (.new owner record.identifier.namespaceName)).absorb
          record)
      else group? records owner := by
  rw [group?, group?, firstOf_concat classified]
  by_cases owned : record.identifier.owner = owner
  · cases found : firstOf? owner records with
    | some first => simp [owned, described_concat owned]
    | none =>
      have new := described_unmentioned found record.identifier.namespaceName
      simp [owned, described_concat owned, new]
  · simp [owned, described_concat_foreign owned]

/-- A record of an unknown kind adds nothing to the groups. -/
theorem group_concat_unclassified (unclassified : ¬ isClassified record) (records : List Record)
    (owner : String) : group? (records ++ [record]) owner = group? records owner := by
  have foreign : ∀ kind, kind.isOther = false → record.identifier.kind ≠ kind := by
    rintro kind known rfl
    simp [isClassified_eq, known] at unclassified
  have same : ∀ namespaceName, described namespaceName owner (records ++ [record]) =
      described namespaceName owner records := by
    intro namespaceName
    simp [described, recordsOf_concat, foreign .type rfl, foreign .method rfl,
      foreign .field rfl, foreign .property rfl]
  have first : firstOf? owner (records ++ [record]) = firstOf? owner records := by
    simp [firstOf?, unclassified]
  simp only [group?, same, first]

theorem owners_concat_unclassified (unclassified : ¬ isClassified record)
    (records : List Record) : owners (records ++ [record]) = owners records := by
  simp [owners, unclassified]

/-! ## Catalogues -/

/-- What changing a type does to the types that are found. -/
theorem get_update (consistent : Consistent catalogue) (keeps : KeepsNames change)
    (owner namespaceName other : String) :
    (catalogue.update owner namespaceName change).get? other =
      if owner = other then some (change ((catalogue.get? owner).getD (.new owner namespaceName)))
      else catalogue.get? other := by
  rcases update_cases keeps catalogue owner namespaceName with
    ⟨place, known, same⟩ | ⟨unknown, same⟩ <;> rw [same]
  · obtain ⟨type, found, named, got⟩ := get_of_indexed consistent known
    by_cases own : owner = other
    · subst own
      simp [get?, known, Array.getElem?_modify, found]
    · rw [if_neg own]
      cases knownOther : catalogue.index[other]? with
      | none => simp [get?, knownOther]
      | some elsewhere =>
        obtain ⟨otherType, foundOther, namedOther, _⟩ := get_of_indexed consistent knownOther
        have apart : place ≠ elsewhere := by
          rintro rfl
          cases found.symm.trans foundOther
          exact own (named.symm.trans namedOther)
        simp [get?, knownOther, Array.getElem?_modify, apart]
  · by_cases own : owner = other
    · subst own
      simp [get?, extended, unknown]
    · rw [if_neg own]
      cases knownOther : catalogue.index[other]? with
      | none => simp [get?, extended, Std.ExtTreeMap.getElem?_insert, own, knownOther]
      | some elsewhere =>
        obtain ⟨otherType, foundOther, _⟩ := get_of_indexed consistent knownOther
        obtain ⟨within, _⟩ := Array.getElem?_eq_some_iff.mp foundOther
        have before : elsewhere ≠ catalogue.types.size := by omega
        simp [get?, extended, Std.ExtTreeMap.getElem?_insert, own, knownOther,
          Array.getElem?_push, before]

theorem names_update (consistent : Consistent catalogue) (keeps : KeepsNames change)
    (owner namespaceName : String) :
    names (catalogue.update owner namespaceName change) =
      if owner ∈ names catalogue then names catalogue else names catalogue ++ [owner] := by
  rcases update_cases keeps catalogue owner namespaceName with
    ⟨place, known, same⟩ | ⟨unknown, same⟩ <;> rw [same]
  · have listed : owner ∈ names catalogue :=
      List.mem_of_getElem? ((consistent.indexed owner place).mp known)
    rw [names_of_modified keeps, if_pos listed]
  · rw [names_of_extended, if_neg (not_named consistent unknown), keeps.fullName]
    rfl

theorem ofRecords_concat (records : List Record) (record : Record) :
    ofRecords (records ++ [record]) = (ofRecords records).add record := by
  simp [ofRecords]

theorem ofRecords_consistent (records : List Record) : Consistent (ofRecords records) :=
  foldl_add_consistent empty_consistent records

theorem add_classified (classified : isClassified record) (catalogue : Catalogue) :
    catalogue.add record = catalogue.update record.identifier.owner
      record.identifier.namespaceName (·.absorb record) := by
  have known : record.identifier.kind.isOther = false := by simpa [isClassified_eq] using classified
  simp [add, known]

theorem add_unclassified (unclassified : ¬ isClassified record) (catalogue : Catalogue) :
    catalogue.add record = catalogue := by
  have other : record.identifier.kind.isOther = true := by simpa [isClassified_eq] using unclassified
  simp [add, other]

/-- Records of unknown kinds can be left out. -/
theorem ofRecords_filter (records : List Record) :
    ofRecords (records.filter isClassified) = ofRecords records := by
  rw [ofRecords, ofRecords, List.foldl_filter]
  congr 1
  funext catalogue record
  by_cases classified : isClassified record
  · rw [if_pos classified]
  · rw [if_neg classified, add_unclassified classified]

theorem names_ofRecords (records : List Record) : names (ofRecords records) = owners records := by
  induction records using List.reverseRecOn with
  | nil => rfl
  | append_singleton records record ih =>
    rw [ofRecords_concat]
    by_cases classified : isClassified record
    · rw [add_classified classified, owners_concat classified, ← ih]
      exact names_update (ofRecords_consistent records) (absorb_keepsNames record) _ _
    · rw [add_unclassified classified, owners_concat_unclassified classified, ih]

theorem owners_nodup (records : List Record) : (owners records).Nodup := by
  rw [← names_ofRecords]
  exact (ofRecords_consistent records).distinct

theorem isEmpty_ofRecords (records : List Record) :
    (ofRecords records).isEmpty = true ↔ ∀ record ∈ records, ¬ isClassified record := by
  have unnamed : (ofRecords records).isEmpty = true ↔ owners records = [] := by
    rw [← names_ofRecords]
    simp [isEmpty, names]
  rw [unnamed, List.eq_nil_iff_forall_not_mem]
  simp only [mem_owners_iff, not_exists, not_and]
  exact ⟨fun vain record held classified => vain _ record held classified rfl,
    fun vain _ record held classified => absurd classified (vain record held)⟩

theorem get_ofRecords (records : List Record) (owner : String) :
    (ofRecords records).get? owner = group? records owner := by
  induction records using List.reverseRecOn with
  | nil => simp [ofRecords, empty, get?, group?, firstOf?]
  | append_singleton records record ih =>
    rw [ofRecords_concat]
    by_cases classified : isClassified record
    · rw [add_classified classified, group_concat classified,
        get_update (ofRecords_consistent records) (absorb_keepsNames record), ← ih]
      split
      · rename_i own
        rw [own]
      · rfl
    · rw [add_unclassified classified, group_concat_unclassified classified, ih]

/-- Looking up the names in order gives the types in order. -/
theorem types_listed (consistent : Consistent catalogue) :
    (names catalogue).map catalogue.get? = catalogue.types.toList.map some := by
  rw [names, List.map_map]
  apply List.map_congr_left
  intro type held
  exact get_of_mem consistent (Array.mem_toList_iff.mp held)

/-- The types of a catalogue are the groups of its records, one for each owner of a classified
record, in the order in which the owners first occur. Records of unknown kinds make no difference,
wherever they stand. -/
theorem catalogues_group_by_owner (records : List Record) :
    let catalogue := ofRecords records
    names catalogue = owners records ∧
      catalogue.types.toList.map some = (owners records).map (group? records) ∧
      (∀ owner, catalogue.get? owner = group? records owner ∧
        ((catalogue.get? owner).isSome ↔ owner ∈ owners records)) ∧
      ∀ others : List Record, others.filter isClassified = records.filter isClassified →
        ofRecords others = catalogue := by
  intro catalogue
  have consistent : Consistent catalogue := ofRecords_consistent records
  have named : names catalogue = owners records := names_ofRecords records
  have found : catalogue.get? = group? records := funext (get_ofRecords records)
  refine ⟨named, ?_, ?_, ?_⟩
  · rw [← found, ← named, types_listed consistent]
  · intro owner
    refine ⟨get_ofRecords records owner, ?_⟩
    rw [← named, ← mem_index consistent, Std.ExtTreeMap.mem_iff_isSome_getElem?]
    cases known : catalogue.index[owner]? with
    | none => simp [get?, known]
    | some place =>
      obtain ⟨type, _, _, got⟩ := get_of_indexed consistent known
      simp [got]
  · intro others same
    rw [← ofRecords_filter others, same, ofRecords_filter]

/-- Members before and behind the two descriptions of their type, which give it another namespace
than its first member, and an event, which documents nothing. -/
def doorRecords : List Record :=
  [⟨⟨.other "E", "App.Bell", some "Rung", none, "App"⟩, "", "", "", "", []⟩,
   ⟨⟨.method, "App.Door", some "Open", some "(System.Int32)", "App"⟩, "Opens.", "Slowly.", "",
     "Success.", [⟨"angle", "How far."⟩]⟩,
   ⟨⟨.type, "App.Door", none, none, "Old"⟩, "A hole.", "None.", "", "", []⟩,
   ⟨⟨.field, "App.Door", some "Width", none, "App"⟩, "In metres.", "", "", "", []⟩,
   ⟨⟨.property, "Wall", none, none, ""⟩, "Nameless.", "", "", "", []⟩,
   ⟨⟨.type, "App.Door", none, none, "New"⟩, "A door.", "", "Door();", "", []⟩,
   ⟨⟨.method, "App.Door", none, none, "App"⟩, "", "", "", "", []⟩]

theorem door_records_are_grouped :
    let catalogue := ofRecords doorRecords
    names catalogue = ["App.Door", "Wall"] ∧
      catalogue.get? "App.Door" = some
        { fullName := "App.Door", simpleName := "Door", namespaceName := "App"
          summary := "A door.", remarks := "", exampleText := "Door();"
          methods := [⟨"Open", "(System.Int32)", "Opens.", [⟨"angle", "How far."⟩], "Success.",
            "Slowly."⟩, ⟨"", "", "", [], "", ""⟩]
          fields := [⟨"Width", "In metres."⟩], properties := [] } ∧
      catalogue.get? "Wall" = some
        { fullName := "Wall", simpleName := "Wall", namespaceName := ""
          properties := [⟨"", "Nameless."⟩] } ∧
      catalogue.get? "App.Bell" = none ∧ ofRecords doorRecords.tail = catalogue := by
  intro catalogue
  obtain ⟨named, _, found, others⟩ := catalogues_group_by_owner doorRecords
  refine ⟨named.trans rfl, (found _).1.trans rfl, (found _).1.trans rfl,
    (found _).1.trans rfl, others doorRecords.tail rfl⟩

end DocPages.CatalogueGrouping
