import DocPages.Catalogue

/-! The three parts of a catalogue stay in agreement. Adding a record either changes what is said of
a type that is there already or brings one type into being, and the places, the index and the lists
of the namespaces all depend on names that no later record changes. -/
namespace DocPages.CatalogueConsistency
open Catalogue

/-- The full names of the types, in the order in which they were first mentioned. -/
def names (catalogue : Catalogue) : List String :=
  catalogue.types.toList.map TypeEntry.fullName

/-- Those of the types in one namespace. -/
def namesIn (catalogue : Catalogue) (namespaceName : String) : List String :=
  (catalogue.types.toList.filter (·.namespaceName = namespaceName)).map TypeEntry.fullName

structure Consistent (catalogue : Catalogue) : Prop where
  distinct : (names catalogue).Nodup
  /-- The index leads to the place of a type, and it has no other entries. -/
  indexed : ∀ (owner : String) (place : Nat),
    catalogue.index[owner]? = some place ↔ (names catalogue)[place]? = some owner
  simple : ∀ type ∈ catalogue.types, type.simpleName = simpleName type.fullName
  /-- A namespace has a list just if it is not the global one and there are types in it. -/
  listed : ∀ (namespaceName : String) (list : List String),
    catalogue.namespaces[namespaceName]? = some list ↔
      namespaceName ≠ "" ∧ list ≠ [] ∧ list = namesIn catalogue namespaceName

/-- A change of a type that leaves its names alone. -/
structure KeepsNames (change : TypeEntry → TypeEntry) : Prop where
  fullName : ∀ type, (change type).fullName = type.fullName
  simpleName : ∀ type, (change type).simpleName = type.simpleName
  namespaceName : ∀ type, (change type).namespaceName = type.namespaceName

theorem absorb_keepsNames (record : Record) : KeepsNames (·.absorb record) := by
  constructor <;>
  · intro type
    unfold TypeEntry.absorb
    cases record.identifier.kind <;> rfl

theorem empty_consistent : Consistent empty where
  distinct := by simp [names, empty]
  indexed := by simp [names, empty]
  simple := by simp [empty]
  listed := by simp [namesIn, empty]

/-! ## Types that are there already -/

private theorem filter_map_modify {Item Name : Type} {change : Item → Item} {p : Item → Bool}
    {f : Item → Name} (kept : ∀ item, p (change item) = p item ∧ f (change item) = f item)
    (items : List Item) (place : Nat) :
    ((items.modify place change).filter p).map f = (items.filter p).map f := by
  induction items generalizing place with
  | nil => simp
  | cons item items ih =>
    cases place with
    | zero => by_cases holds : p item <;> simp [kept, holds]
    | succ place => by_cases holds : p item <;> simp [ih, holds]

theorem names_of_modified (keeps : KeepsNames change) (catalogue : Catalogue) (place : Nat) :
    names { catalogue with types := catalogue.types.modify place change } = names catalogue := by
  have kept := filter_map_modify (p := fun _ => true) (f := TypeEntry.fullName)
    (fun type => ⟨rfl, keeps.fullName type⟩) catalogue.types.toList place
  have whole : ∀ types : List TypeEntry, types.filter (fun _ => true) = types := fun _ =>
    List.filter_eq_self.mpr (by simp)
  rw [whole, whole] at kept
  simpa [names] using kept

theorem namesIn_of_modified (keeps : KeepsNames change) (catalogue : Catalogue) (place : Nat)
    (namespaceName : String) :
    namesIn { catalogue with types := catalogue.types.modify place change } namespaceName =
      namesIn catalogue namespaceName := by
  have kept := filter_map_modify (p := (·.namespaceName = namespaceName))
    (fun type => ⟨by rw [keeps.namespaceName type], keeps.fullName type⟩)
    catalogue.types.toList place
  simpa [namesIn] using kept

theorem modified_consistent (consistent : Consistent catalogue) (keeps : KeepsNames change)
    (place : Nat) :
    Consistent { catalogue with types := catalogue.types.modify place change } where
  distinct := by
    rw [names_of_modified keeps]
    exact consistent.distinct
  indexed := by
    rw [names_of_modified keeps]
    exact consistent.indexed
  simple := by
    intro type held
    obtain ⟨spot, found⟩ := Array.mem_iff_getElem?.mp held
    rw [Array.getElem?_modify] at found
    split at found
    · obtain ⟨before, was, rfl⟩ := Option.map_eq_some_iff.mp found
      rw [keeps.simpleName, keeps.fullName]
      exact consistent.simple before (Array.mem_of_getElem? was)
    · exact consistent.simple type (Array.mem_of_getElem? found)
  listed := by
    intro namespaceName list
    rw [namesIn_of_modified keeps]
    exact consistent.listed namespaceName list

/-! ## Types that are mentioned for the first time -/

/-- The catalogue with one more type behind all others. -/
def extended (catalogue : Catalogue) (owner : String) (type : TypeEntry) : Catalogue where
  types := catalogue.types.push type
  index := catalogue.index.insert owner catalogue.types.size
  namespaces := register catalogue.namespaces owner type.namespaceName

theorem names_of_extended (catalogue : Catalogue) (owner : String) (type : TypeEntry) :
    names (extended catalogue owner type) = names catalogue ++ [type.fullName] := by
  simp [names, extended]

theorem namesIn_of_extended (catalogue : Catalogue) (owner : String) (type : TypeEntry)
    (namespaceName : String) :
    namesIn (extended catalogue owner type) namespaceName = namesIn catalogue namespaceName ++
      if type.namespaceName = namespaceName then [type.fullName] else [] := by
  by_cases inside : type.namespaceName = namespaceName <;> simp [namesIn, extended, inside]

/-- What the index does not know has no place. -/
theorem not_named (consistent : Consistent catalogue) (unknown : catalogue.index[owner]? = none) :
    owner ∉ names catalogue := by
  intro held
  obtain ⟨place, found⟩ := List.mem_iff_getElem?.mp held
  rw [(consistent.indexed owner place).mpr found] at unknown
  contradiction

theorem namesIn_subset (catalogue : Catalogue) (namespaceName : String) :
    namesIn catalogue namespaceName ⊆ names catalogue := by
  intro name held
  obtain ⟨type, inside, rfl⟩ := List.mem_map.mp held
  exact List.mem_map_of_mem (List.mem_filter.mp inside).1

/-- A namespace other than the global one has the list of its types, or none if there are none. -/
theorem getD_namespaces (consistent : Consistent catalogue) (within : namespaceName ≠ "") :
    catalogue.namespaces.getD namespaceName [] = namesIn catalogue namespaceName := by
  rw [Std.ExtTreeMap.getD_eq_getD_getElem?]
  cases found : catalogue.namespaces[namespaceName]? with
  | some list => exact ((consistent.listed namespaceName list).mp found).2.2
  | none =>
    by_cases vacant : namesIn catalogue namespaceName = []
    · exact vacant.symm
    · rw [(consistent.listed namespaceName _).mpr ⟨within, vacant, rfl⟩] at found
      contradiction

/-- A new type is put into the list of its own namespace alone, behind the others. -/
theorem register_new (consistent : Consistent catalogue) (unknown : owner ∉ names catalogue)
    (namespaceName other : String) :
    (register catalogue.namespaces owner namespaceName)[other]? =
      if namespaceName ≠ "" ∧ namespaceName = other then
        some (namesIn catalogue namespaceName ++ [owner])
      else catalogue.namespaces[other]? := by
  have absent : owner ∉ namesIn catalogue namespaceName := fun held =>
    unknown (namesIn_subset catalogue namespaceName held)
  by_cases within : namespaceName = ""
  · simp [register, within]
  · simp only [register, within, if_false, getD_namespaces consistent within, absent,
      Std.ExtTreeMap.getElem?_insert, Std.LawfulEqCmp.compare_eq_iff_eq]
    simp [within]

/-- Where a list with one more name holds a name. -/
private theorem getElem?_concat_iff {list : List String} (absent : name ∉ list) (place : Nat)
    (other : String) : (list ++ [name])[place]? = some other ↔
      if name = other then place = list.length else list[place]? = some other := by
  by_cases same : name = other
  · subst same
    have elsewhere : list[place]? ≠ some name := fun found => absent (List.mem_of_getElem? found)
    rw [List.getElem?_append, if_pos rfl]
    split
    · simp only [elsewhere, false_iff]
      omega
    · simp only [List.getElem?_singleton]
      split <;> simp <;> omega
  · rw [List.getElem?_append, if_neg same]
    split
    · rfl
    · have past : list[place]? = none := List.getElem?_eq_none (by omega)
      rw [past, List.getElem?_singleton]
      split <;> simp [same]

theorem extended_consistent (consistent : Consistent catalogue) (type : TypeEntry)
    (unknown : catalogue.index[type.fullName]? = none)
    (simple : type.simpleName = simpleName type.fullName) :
    Consistent (extended catalogue type.fullName type) where
  distinct := by
    have absent := not_named consistent unknown
    rw [names_of_extended, List.nodup_append]
    refine ⟨consistent.distinct, by simp, ?_⟩
    intro name held other new same
    exact absent (List.mem_singleton.mp new ▸ same ▸ held)
  indexed := by
    intro owner place
    have absent := not_named consistent unknown
    have size : (names catalogue).length = catalogue.types.size := by simp [names]
    rw [names_of_extended, getElem?_concat_iff absent]
    simp only [extended, Std.ExtTreeMap.getElem?_insert, Std.LawfulEqCmp.compare_eq_iff_eq]
    split
    · simp [size, eq_comm]
    · exact consistent.indexed owner place
  simple := by
    intro other held
    rcases Array.mem_push.mp held with held | rfl
    · exact consistent.simple other held
    · exact simple
  listed := by
    intro namespaceName list
    have absent := not_named consistent unknown
    rw [namesIn_of_extended]
    simp only [extended, register_new consistent absent]
    split
    · rename_i own
      obtain ⟨within, rfl⟩ := own
      constructor
      · rintro ⟨rfl⟩
        exact ⟨within, by simp, by simp⟩
      · rintro ⟨_, _, rfl⟩
        simp
    · rename_i foreign
      rw [consistent.listed]
      constructor
      · rintro ⟨within, nonempty, rfl⟩
        have apart : type.namespaceName ≠ namespaceName := by
          rintro rfl
          exact foreign ⟨within, rfl⟩
        exact ⟨within, nonempty, by simp [apart]⟩
      · rintro ⟨within, nonempty, same⟩
        have apart : type.namespaceName ≠ namespaceName := by
          rintro rfl
          exact foreign ⟨within, rfl⟩
        exact ⟨within, nonempty, by simpa [apart] using same⟩

/-! ## Whole runs -/

/-- What `update` does to a consistent catalogue: it changes a type in its place, or it puts a
changed new one behind the others. -/
theorem update_cases (keeps : KeepsNames change) (catalogue : Catalogue)
    (owner namespaceName : String) :
    (∃ place, catalogue.index[owner]? = some place ∧
      catalogue.update owner namespaceName change =
        { catalogue with types := catalogue.types.modify place change }) ∨
    (catalogue.index[owner]? = none ∧
      catalogue.update owner namespaceName change =
        extended catalogue owner (change (.new owner namespaceName))) := by
  cases found : catalogue.index[owner]? with
  | some place => exact .inl ⟨place, rfl, by simp [update, found]⟩
  | none => exact .inr ⟨rfl, by simp [update, found, extended, keeps.namespaceName, TypeEntry.new]⟩

theorem update_consistent (consistent : Consistent catalogue) (keeps : KeepsNames change)
    (owner namespaceName : String) :
    Consistent (catalogue.update owner namespaceName change) := by
  rcases update_cases keeps catalogue owner namespaceName with
    ⟨place, _, same⟩ | ⟨unknown, same⟩ <;> rw [same]
  · exact modified_consistent consistent keeps place
  · have named : (change (.new owner namespaceName)).fullName = owner := keeps.fullName _
    have grown := extended_consistent consistent (change (.new owner namespaceName))
      (by rw [named]; exact unknown) (by rw [keeps.simpleName, named]; rfl)
    rwa [named] at grown

theorem add_consistent (consistent : Consistent catalogue) (record : Record) :
    Consistent (catalogue.add record) := by
  unfold add
  by_cases other : record.identifier.kind.isOther
  · simpa [other] using consistent
  · simpa [other] using update_consistent consistent (absorb_keepsNames record) _ _

theorem foldl_add_consistent (consistent : Consistent catalogue) (records : List Record) :
    Consistent (records.foldl add catalogue) := by
  induction records generalizing catalogue with
  | nil => exact consistent
  | cons record records ih => exact ih (add_consistent consistent record)

/-- A type keeps its place and its names. -/
def Persists (before after : Catalogue) : Prop :=
  ∀ (place : Nat) (type : TypeEntry), before.types[place]? = some type →
    ∃ later, after.types[place]? = some later ∧ later.fullName = type.fullName ∧
      later.namespaceName = type.namespaceName

theorem update_persists (keeps : KeepsNames change) (catalogue : Catalogue)
    (owner namespaceName : String) :
    Persists catalogue (catalogue.update owner namespaceName change) := by
  intro place type found
  rcases update_cases keeps catalogue owner namespaceName with
    ⟨changed, _, same⟩ | ⟨_, same⟩ <;> rw [same]
  · by_cases here : changed = place
    · refine ⟨change type, ?_, keeps.fullName type, keeps.namespaceName type⟩
      simp [Array.getElem?_modify, here, found]
    · exact ⟨type, by simp [Array.getElem?_modify, here, found], rfl, rfl⟩
  · obtain ⟨within, _⟩ := Array.getElem?_eq_some_iff.mp found
    refine ⟨type, ?_, rfl, rfl⟩
    rw [extended, Array.getElem?_push, if_neg (by omega), found]

theorem persists_unchanged (catalogue : Catalogue) : Persists catalogue catalogue :=
  fun _ type found => ⟨type, found, rfl, rfl⟩

theorem foldl_add_persists (catalogue : Catalogue) (records : List Record) :
    Persists catalogue (records.foldl add catalogue) := by
  induction records generalizing catalogue with
  | nil => exact persists_unchanged catalogue
  | cons record records ih =>
    intro place type found
    have next : Persists catalogue (catalogue.add record) := by
      unfold add
      by_cases other : record.identifier.kind.isOther
      · simpa [other] using persists_unchanged catalogue
      · simpa [other] using update_persists (absorb_keepsNames record) catalogue _ _
    obtain ⟨between, found, sameName, sameNamespace⟩ := next place type found
    obtain ⟨later, found, sameLater, sameNamespaceLater⟩ := ih _ place between found
    exact ⟨later, found, sameLater.trans sameName, sameNamespaceLater.trans sameNamespace⟩

/-! ## What consistency means for the users of a catalogue -/

/-- The index leads to the type of the name that was looked up. -/
theorem get_of_indexed (consistent : Consistent catalogue) {owner : String} {place : Nat}
    (known : catalogue.index[owner]? = some place) :
    ∃ type, catalogue.types[place]? = some type ∧ type.fullName = owner ∧
      catalogue.get? owner = some type := by
  have found := (consistent.indexed owner place).mp known
  rw [names, List.getElem?_map, Option.map_eq_some_iff, Array.getElem?_toList] at found
  obtain ⟨type, held, named⟩ := found
  exact ⟨type, held, named, by simp [get?, known, held]⟩

/-- Every type of a catalogue is found under its own name. -/
theorem get_of_mem (consistent : Consistent catalogue) (held : type ∈ catalogue.types) :
    catalogue.get? type.fullName = some type := by
  obtain ⟨place, found⟩ := Array.mem_iff_getElem?.mp held
  have known : catalogue.index[type.fullName]? = some place := by
    simp [consistent.indexed, names, found]
  simp [get?, known, found]

theorem mem_index (consistent : Consistent catalogue) (owner : String) :
    owner ∈ catalogue.index ↔ owner ∈ names catalogue := by
  rw [Std.ExtTreeMap.mem_iff_isSome_getElem?, Option.isSome_iff_exists, List.mem_iff_getElem?]
  simp only [consistent.indexed]

theorem namesIn_nodup (consistent : Consistent catalogue) (namespaceName : String) :
    (namesIn catalogue namespaceName).Nodup :=
  consistent.distinct.sublist (List.filter_sublist.map _)

/-- A name belongs to the list of the type's own namespace and to no other. -/
theorem mem_namesIn (consistent : Consistent catalogue) (held : type ∈ catalogue.types)
    (namespaceName : String) :
    type.fullName ∈ namesIn catalogue namespaceName ↔ type.namespaceName = namespaceName := by
  constructor
  · intro inside
    obtain ⟨other, found, same⟩ := List.mem_map.mp inside
    obtain ⟨found, own⟩ := List.mem_filter.mp found
    have twice := get_of_mem consistent (Array.mem_toList_iff.mp found)
    rw [same, get_of_mem consistent held] at twice
    cases twice
    simpa using own
  · intro own
    exact List.mem_map.mpr ⟨type, List.mem_filter.mpr ⟨by simpa using held, by simp [own]⟩, rfl⟩

/-- However records are added to an empty catalogue, its types, index and namespaces agree: names
are distinct and lead to their types, and a type is listed exactly once, in its own namespace if
that is not the global one, whatever namespaces later records carry. -/
theorem catalogues_stay_consistent (records : List Record) :
    let catalogue := records.foldl add empty
    Consistent catalogue ∧
      (∀ owner : String, owner ∈ catalogue.index ↔ owner ∈ names catalogue) ∧
      (∀ (owner : String) (place : Nat), catalogue.index[owner]? = some place →
        ∃ type, catalogue.types[place]? = some type ∧ type.fullName = owner ∧
          catalogue.get? owner = some type) ∧
      (∀ (namespaceName : String) (list : List String),
        catalogue.namespaces[namespaceName]? = some list → list.Nodup ∧
          ∀ type ∈ catalogue.types, list.count type.fullName =
            if type.namespaceName = namespaceName then 1 else 0) ∧
      (∀ type ∈ catalogue.types, type.namespaceName = "" →
        ∀ (namespaceName : String) (list : List String),
          catalogue.namespaces[namespaceName]? = some list → type.fullName ∉ list) ∧
      (∀ type ∈ catalogue.types,
        type.namespaceName ∈ catalogue.namespaces ↔ type.namespaceName ≠ "") ∧
      ∀ later : List Record, Persists catalogue (later.foldl add catalogue) := by
  intro catalogue
  have consistent : Consistent catalogue := foldl_add_consistent empty_consistent records
  refine ⟨consistent, mem_index consistent, ?_, ?_, ?_, ?_, foldl_add_persists catalogue⟩
  · exact fun owner place known => get_of_indexed consistent known
  · intro namespaceName list found
    obtain ⟨_, _, rfl⟩ := (consistent.listed namespaceName list).mp found
    refine ⟨namesIn_nodup consistent namespaceName, ?_⟩
    intro type held
    rw [(namesIn_nodup consistent namespaceName).count]
    simp only [mem_namesIn consistent held]
  · intro type held outside namespaceName list found inside
    obtain ⟨within, _, rfl⟩ := (consistent.listed namespaceName list).mp found
    have own := (mem_namesIn consistent held namespaceName).mp inside
    exact within (own.symm.trans outside)
  · intro type held
    rw [Std.ExtTreeMap.mem_iff_isSome_getElem?, Option.isSome_iff_exists]
    constructor
    · rintro ⟨list, found⟩
      exact ((consistent.listed _ list).mp found).1
    · intro within
      have own := (mem_namesIn consistent held type.namespaceName).mpr rfl
      exact ⟨_, (consistent.listed _ _).mpr ⟨within, List.ne_nil_of_mem own, rfl⟩⟩

end DocPages.CatalogueConsistency
