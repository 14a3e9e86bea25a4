import DocPages.Proofs.PagePlaces
import DocPages.Proofs.SafeNames

/-! The names of method cards beside the other names on their page. A card is named like its method,
so it can take the name of a section or of a part of the frame, and only a method with that very
name makes it do so. All other parts stand before the cards, where they are found first. -/
namespace DocPages.CardPlaces
open Address Page PagePlaces PageReading

/-! ## Names that no numbering makes -/

/-- Whether nothing in a name shows that it was made safe or numbered. -/
def isUntouched (name : String) : Bool :=
  name.toList.all (fun c => c ∉ forbidden ∧ c ≠ '_') && name.toList.getLast?.all (!·.isDigit)

theorem isUntouched_iff (name : String) : isUntouched name ↔
    (∀ c ∈ name.toList, c ∉ forbidden ∧ c ≠ '_') ∧
      ∀ c, name.toList.getLast? = some c → c.isDigit = false := by
  simp [isUntouched, Option.all_eq_true]

theorem safe_of_untouched (untouched : isUntouched name) : anchor name = name := by
  have allowed := ((isUntouched_iff name).mp untouched).1
  exact SafeNames.safe_of_allowed fun c held => (allowed c held).1

/-- Only the name itself becomes an untouched name when it is made safe. -/
theorem name_of_anchor (untouched : isUntouched (anchor name)) : anchor name = name := by
  apply SafeNames.safe_of_allowed
  intro c held disallowed
  have replaced : '_' ∈ (anchor name).toList := SafeNames.underscored held disallowed
  exact (((isUntouched_iff _).mp untouched).1 '_' replaced).2 rfl

/-- A number that was put behind a name shows. -/
theorem unnumbered (untouched : isUntouched (numbered plain occurrence)) :
    numbered plain occurrence = plain := by
  by_cases first : occurrence = 1
  · exact if_pos first
  · cases ending : (Nat.toDigits 10 occurrence).getLast? with
    | none => exact absurd (List.getLast?_eq_none_iff.mp ending) Nat.toDigits_ne_nil
    | some c =>
      have last : (numbered plain occurrence).toList.getLast? = some c := by
        simp [numbered, first, Nat.toList_repr, List.getLast?_append, List.getLast?_cons, ending]
      have digit : c.isDigit = true :=
        Nat.isDigit_of_mem_toDigits (by decide) (by decide) (List.mem_of_getLast? ending)
      rw [((isUntouched_iff _).mp untouched).2 c last] at digit
      contradiction

/-- An anchor that shows no change is the name of a method. -/
theorem name_of_mem_anchorsFrom (untouched : isUntouched place) (tally : Std.ExtTreeMap String Nat)
    (names : List String) (held : place ∈ anchorsFrom tally names) : place ∈ names := by
  induction names generalizing tally with
  | nil => cases held
  | cons name names ih =>
    rcases List.mem_cons.mp held with rfl | later
    · have plain := unnumbered untouched
      rw [plain] at untouched ⊢
      rw [name_of_anchor untouched]
      exact List.mem_cons_self
    · exact List.mem_cons_of_mem _ (ih _ later)

/-- The first method of a name that needs no change has the name for its anchor. -/
theorem mem_anchorsFrom_of_name (untouched : isUntouched name) (tally : Std.ExtTreeMap String Nat)
    (fresh : tally.getD name 0 = 0) (names : List String) (held : name ∈ names) :
    name ∈ anchorsFrom tally names := by
  induction names generalizing tally with
  | nil => cases held
  | cons other names ih =>
    by_cases same : anchor other = name
    · have first : numbered (anchor other) (tally.getD (anchor other) 0 + 1) = name := by
        rw [same, fresh]
        rfl
      exact List.mem_cons.mpr (.inl first.symm)
    · have later : name ∈ names := by
        rcases List.mem_cons.mp held with rfl | later
        · exact absurd (safe_of_untouched untouched) same
        · exact later
      -- Only another anchor is counted here, so the name stays fresh.
      refine List.mem_cons_of_mem _ (ih _ ?_ later)
      rw [Std.ExtTreeMap.getD_insert, if_neg (by simpa using same), fresh]

theorem mem_anchors_iff (untouched : isUntouched name) (names : List String) :
    name ∈ anchors names ↔ name ∈ names :=
  ⟨name_of_mem_anchorsFrom untouched ∅ names,
    mem_anchorsFrom_of_name untouched ∅ (by simp) names⟩

/-! ## Cards and other parts -/

/-- The names of the parts of a type's page that are no cards, in its order. -/
def partPlaces (type : TypeEntry) : List String :=
  framePlaces ++ sectionPlaces type

theorem sectionPlaces_sublist (type : TypeEntry) :
    (sectionPlaces type).Sublist ["fields", "properties", "methods"] := by
  have present (vacant : Bool) (place : String) :
      (if vacant then [] else [place]).Sublist [place] := by
    cases vacant <;> simp
  exact ((present _ _).append (present _ _)).append (present _ _)

/-- All names that such a part can have. -/
theorem partPlaces_sublist (type : TypeEntry) : (partPlaces type).Sublist
    (framePlaces ++ ["fields", "properties", "methods"]) :=
  (List.Sublist.refl _).append (sectionPlaces_sublist type)

theorem partPlaces_distinct (type : TypeEntry) : (partPlaces type).Nodup :=
  (partPlaces_sublist type).nodup (by decide +kernel)

theorem partPlaces_untouched (held : place ∈ partPlaces type) : isUntouched place := by
  have all : (framePlaces ++ ["fields", "properties", "methods"]).all isUntouched := by
    decide +kernel
  exact List.all_eq_true.mp all place ((partPlaces_sublist type).subset held)

theorem mem_cardPlaces_iff (type : TypeEntry) (place : String) :
    place ∈ cardPlaces type ↔ place ∈ anchors (type.methods.map (·.name)) := by
  rw [← SearchLinks.anchoredMethods_places]
  exact ((SearchLinks.sortedMethods_perm type).map _).mem_iff

/-- On the page of a type all other parts that have names stand before the method cards. A card has
the name of such a part only if a method is called exactly like it, and even then the part is the
first element of its name, so a badge and whatever else asks for that name finds it. -/
theorem parts_come_before_cards (catalogue : Catalogue) (type : TypeEntry) (options : Options) :
    let page := (Page.ofType catalogue type options).render
    valuesOf "id" page = partPlaces type ++ cardPlaces type ∧ (partPlaces type).Nodup ∧
    (∀ place ∈ partPlaces type,
      place ∈ cardPlaces type ↔ ∃ method ∈ type.methods, method.name = place) ∧
    (∀ place ∈ partPlaces type,
      (valuesOf "id" page).idxOf place = (partPlaces type).idxOf place) ∧
    valuesOf "href" page =
      ["style.css", "index.html"] ++ catalogue.typesByName.map (Address.page ·.fullName) ++
      ["index.html"] ++ (sectionPlaces type ++ cardPlaces type).map ("#" ++ ·) := by
  intro page
  have ids : valuesOf "id" page = partPlaces type ++ cardPlaces type :=
    ids_ofType catalogue type options
  refine ⟨ids, partPlaces_distinct type, ?_, ?_, links_ofType catalogue type options⟩
  · intro place held
    rw [mem_cardPlaces_iff, mem_anchors_iff (partPlaces_untouched held), List.mem_map]
  · intro place held
    rw [ids, List.idxOf_append_of_mem held]

/-- A type whose only method is called like the section in which it is shown. -/
def sectionRecords : List Record :=
  [⟨⟨.method, "A", some "methods", none, ""⟩, "", "", "", "", []⟩]

theorem card_named_like_its_section :
    let catalogue := Catalogue.ofRecords sectionRecords
    let type : TypeEntry :=
      { fullName := "A", simpleName := "A", namespaceName := ""
        methods := [⟨"methods", "", "", [], "", ""⟩] }
    Identifier.parse? "M:A.methods" = some ⟨.method, "A", some "methods", none, ""⟩ ∧
      catalogue.types = #[type] ∧
      valuesOf "id" (Page.ofType catalogue type {}).render =
        ["theme-toggle", "search-input", "search-results", "methods", "methods"] ∧
      ¬ ∀ place ∈ cardPlaces type, place ∉ partPlaces type := by
  intro catalogue type
  refine ⟨by decide +kernel, by decide +kernel, ?_, by decide +kernel⟩
  rw [ids_ofType]
  decide +kernel

end DocPages.CardPlaces
