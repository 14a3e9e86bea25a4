import DocPages.Proofs.MemberCards
import Mathlib.Algebra.GroupWithZero.Nat

/-! Nothing gets lost between the records and what is counted and found of them. The types divide the
records of each kind among themselves, so counts over all types are counts over the list of records,
however the owners are mixed in it, and the rows of the search index can be told from the records. -/
namespace DocPages.RecordTotals
open Catalogue CatalogueConsistency CatalogueGrouping MemberCards SearchIndex

variable {records : List Record} {owner : String} {kind : Kind}

/-- The namespace that the first record of the owner gives. -/
def namespaceOf (records : List Record) (owner : String) : String :=
  ((firstOf? owner records).map (·.identifier.namespaceName)).getD ""

/-- The type that the records document under this owner. -/
def documented (records : List Record) (owner : String) : TypeEntry :=
  described (namespaceOf records owner) owner records

/-- The rows that the owner's records make: one for the type, with the summary of its last
description, and behind it one for each of its methods. -/
def rowsOf (records : List Record) (owner : String) : List Row :=
  let last? := (recordsOf .type owner records).getLast?
  { name := simpleName owner
    fullName := owner
    namespaceName := namespaceOf records owner
    summary := (last?.map Record.summary).getD ""
    url := Address.page owner
    subject := .type } ::
  (anchored (recordsOf .method owner records)).map fun (record, anchor) =>
    { name := simpleName owner ++ "." ++ memberName record
      fullName := owner ++ "." ++ memberName record
      namespaceName := namespaceOf records owner
      summary := record.summary
      url := Address.page owner ++ "#" ++ anchor
      subject := .method }

/-! ## Types -/

theorem group_of_listed (listed : owner ∈ owners records) :
    group? records owner = some (documented records owner) := by
  obtain ⟨first, found⟩ := Option.isSome_iff_exists.mp ((isSome_firstOf owner records).mpr listed)
  simp [group?, documented, namespaceOf, found]

theorem types_documented (records : List Record) :
    (ofRecords records).types.toList = (owners records).map (documented records) := by
  have listed := types_listed (ofRecords_consistent records)
  rw [names_ofRecords, funext (get_ofRecords records)] at listed
  apply (List.map_inj_right fun _ _ => Option.some.inj).mp
  rw [← listed, List.map_map]
  exact List.map_congr_left fun owner held => group_of_listed held

/-- The owners divide the records of a kind among themselves. -/
theorem recordsOf_perm (known : kind.isOther = false) (records : List Record) :
    ((owners records).flatMap fun owner => recordsOf kind owner records).Perm
      (records.filter (·.identifier.kind = kind)) := by
  have parts := perm_of_keys (·.identifier.owner) (records.filter (·.identifier.kind = kind))
    (owners_nodup records)
  have own (owner : String) : (records.filter (·.identifier.kind = kind)).filter
      (·.identifier.owner = owner) = recordsOf kind owner records := by
    rw [List.filter_filter, recordsOf]
    apply List.filter_congr
    intro record _
    rw [Bool.decide_and, Bool.and_comm]
  have all : (records.filter (·.identifier.kind = kind)).filter
      (·.identifier.owner ∈ owners records) = records.filter (·.identifier.kind = kind) := by
    rw [List.filter_eq_self]
    intro record held
    obtain ⟨held, same⟩ := List.mem_filter.mp held
    rw [decide_eq_true_eq] at same ⊢
    exact mem_owners_iff.mpr ⟨record, held, by simp [isClassified_eq, same, known], rfl⟩
  simpa only [own, all] using parts

/-- Where the members of each type are made from its records of a kind, all types together have as
many as there are records of that kind. -/
theorem length_members {members : TypeEntry → List Member} {ofRecord : Record → Member}
    (known : kind.isOther = false)
    (made : ∀ owner, members (documented records owner) =
      (recordsOf kind owner records).map ofRecord) :
    ((ofRecords records).types.toList.flatMap members).length =
      records.countP (·.identifier.kind = kind) := by
  rw [types_documented, List.flatMap_map]
  simp only [made]
  rw [← List.map_flatMap, List.length_map, (recordsOf_perm known records).length_eq,
    List.countP_eq_length_filter]

theorem size_ofRecords (records : List Record) :
    (ofRecords records).size = (owners records).length := by
  rw [← names_ofRecords, names, List.length_map, Array.length_toList]
  rfl

theorem memberTotals_sum (catalogue : Catalogue) :
    (catalogue.types.toList.map TypeEntry.memberTotal).sum =
      catalogue.totals.methods + catalogue.totals.fields + catalogue.totals.properties := by
  simp only [totals]
  induction catalogue.types.toList with
  | nil => rfl
  | cons type types ih =>
    simp only [List.map_cons, List.sum_cons, List.flatMap_cons, List.length_append, ih,
      TypeEntry.memberTotal]
    omega

/-! ## Rows -/

theorem length_rows (catalogue : Catalogue) :
    (ofCatalogue catalogue).length = catalogue.totals.types + catalogue.totals.methods := by
  have each (type : TypeEntry) : (SearchIndex.ofType type).length = 1 + type.methods.length := by
    simp [SearchIndex.ofType, TypeEntry.anchoredMethods, SafeNames.length_anchors, Nat.add_comm]
  have whole (types : List TypeEntry) : (types.flatMap SearchIndex.ofType).length =
      types.length + (types.flatMap (·.methods)).length := by
    induction types with
    | nil => rfl
    | cons type types ih =>
      simp only [List.flatMap_cons, List.length_append, List.length_cons, ih, each]
      omega
  exact whole catalogue.types.toList

theorem rows_documented (records : List Record) (owner : String) :
    SearchIndex.ofType (documented records owner) = rowsOf records owner := by
  have pairs := anchoredMethods_of_records (documented records owner)
    (recordsOf .method owner records) rfl
  rw [SearchIndex.ofType, pairs, List.map_map, rowsOf]
  refine congrArg₂ List.cons rfl (List.map_congr_left ?_)
  intro pair held
  have link := SafeNames.ofMember_anchor owner (List.of_mem_zip held).2
  simp only [Function.comp_apply, methodRow]
  rw [← link]
  rfl

/-- Every record of a method, field or property is counted once in the totals, and so is every owner
of a classified record; the totals also agree with what is counted type by type, and there is no type
just if there is no classified record. The search index has a row for each type and each method: it
goes through the owners in the order in which they first occur, with one row for the type and the
rows of its methods right behind it, in the order of their records. -/
theorem records_are_conserved (records : List Record) :
    let catalogue := ofRecords records
    let totals := catalogue.totals
    totals.methods = records.countP (·.identifier.kind = .method) ∧
      totals.fields = records.countP (·.identifier.kind = .field) ∧
      totals.properties = records.countP (·.identifier.kind = .property) ∧
      totals.types = (owners records).length ∧ totals.types = catalogue.size ∧
      (catalogue.types.toList.map TypeEntry.memberTotal).sum =
        totals.methods + totals.fields + totals.properties ∧
      (catalogue.isEmpty = true ↔ ∀ record ∈ records, ¬ isClassified record) ∧
      (ofCatalogue catalogue).length = totals.types + totals.methods ∧
      ofCatalogue catalogue = (owners records).flatMap (rowsOf records) := by
  intro catalogue totals
  refine ⟨length_members rfl fun _ => rfl, length_members rfl fun _ => rfl,
    length_members rfl fun _ => rfl, size_ofRecords records, rfl, memberTotals_sum catalogue,
    isEmpty_ofRecords records, length_rows catalogue, ?_⟩
  rw [ofCatalogue, types_documented, List.flatMap_map]
  simp only [rows_documented]

end DocPages.RecordTotals
