import DocPages.Proofs.CardPlaces
import Mathlib.Data.List.Nodup

/-! The number of an anchor counts the methods so far that share the plain one. Numbers keep such
methods apart, and a number behind one name can be told from a number behind another, so the one way
for two anchors to be the same is that a method is called like the number of another. -/
namespace DocPages.AnchorNumbers
open Address CardPlaces

variable {names : List String} {name other plain : String} {place earlier occurrence : Nat}

/-- How many methods up to this position have this plain anchor. -/
def tallyAt (names : List String) (plain : String) (place : Nat) : Nat :=
  ((names.take (place + 1)).map anchor).count plain

/-- A method is called like the anchor that a method of another name gets for its number. -/
def TakesNumber (names : List String) : Prop :=
  ∃ name ∈ names, ∃ other ∈ names, ∃ occurrence, 2 ≤ occurrence ∧
    occurrence ≤ (names.map anchor).count (anchor other) ∧
    anchor name = numbered (anchor other) occurrence

/-! ## Counting -/

theorem tallyAt_succ (first : String) (later : List String) (plain : String) (place : Nat) :
    tallyAt (first :: later) plain (place + 1) =
      tallyAt later plain place + if anchor first = plain then 1 else 0 := by
  simp [tallyAt, List.count_cons]

theorem tallyAt_le (names : List String) (plain : String) (place : Nat) :
    tallyAt names plain place ≤ (names.map anchor).count plain :=
  ((List.take_sublist _ _).map anchor).count_le plain

/-- Each method counts when it gets its anchor. -/
theorem tallyAt_of_held (held : names[place]? = some name) :
    tallyAt names (anchor name) place = ((names.take place).map anchor).count (anchor name) + 1 := by
  simp [tallyAt, List.take_add_one, held]

theorem tallyAt_lt (before : earlier < place) (held : names[place]? = some name) :
    tallyAt names (anchor name) earlier < tallyAt names (anchor name) place := by
  have fewer : (names.take (earlier + 1)).Sublist (names.take place) :=
    List.take_sublist_take_left before
  rw [tallyAt_of_held held]
  exact Nat.lt_succ_of_le ((fewer.map anchor).count_le _)

/-- Each count up to the last is reached by a method. -/
theorem exists_tallied (names : List String) (least : 1 ≤ occurrence)
    (most : occurrence ≤ (names.map anchor).count plain) :
    ∃ place name, names[place]? = some name ∧ anchor name = plain ∧
      tallyAt names plain place = occurrence := by
  induction names generalizing occurrence with
  | nil =>
    simp at most
    omega
  | cons first later ih =>
    rw [List.map_cons, List.count_cons] at most
    by_cases here : anchor first = plain
    · cases occurrence with
      | zero => omega
      | succ occurrence =>
        cases occurrence with
        | zero => exact ⟨0, first, rfl, here, by simp [tallyAt, here]⟩
        | succ occurrence =>
          simp only [here, beq_self_eq_true, if_true] at most
          obtain ⟨place, name, held, same, tallied⟩ := @ih (occurrence + 1) (by omega) (by omega)
          refine ⟨place + 1, name, held, same, ?_⟩
          rw [tallyAt_succ, if_pos here, tallied]
    · simp only [here, beq_iff_eq, if_false] at most
      obtain ⟨place, name, held, same, tallied⟩ := ih least most
      refine ⟨place + 1, name, held, same, ?_⟩
      rw [tallyAt_succ, if_neg here, tallied, Nat.add_zero]

theorem getElem?_anchorsFrom (tally : Std.ExtTreeMap String Nat) (names : List String)
    (place : Nat) : (anchorsFrom tally names)[place]? = names[place]?.map fun name =>
      numbered (anchor name) (tally.getD (anchor name) 0 + tallyAt names (anchor name) place) := by
  induction names generalizing tally place with
  | nil => rfl
  | cons first later ih =>
    cases place with
    | zero => simp [anchorsFrom, tallyAt]
    | succ place =>
      rw [anchorsFrom, List.getElem?_cons_succ, List.getElem?_cons_succ, ih]
      refine congrArg (Option.map · _) (funext fun name => congrArg (numbered (anchor name)) ?_)
      rw [Std.ExtTreeMap.getD_insert, tallyAt_succ]
      by_cases same : anchor first = anchor name
      · simp only [same, Std.compare_self, if_true]
        omega
      · simp [same]

/-- The anchor at each position has the count of its plain one for its number. -/
theorem getElem?_anchors (names : List String) (place : Nat) :
    (anchors names)[place]? = names[place]?.map fun name =>
      numbered (anchor name) (tallyAt names (anchor name) place) := by
  rw [anchors, getElem?_anchorsFrom]
  simp

/-! ## Numbers behind names -/

theorem digits_unhyphened (n : Nat) : '-' ∉ Nat.toDigits 10 n := by
  intro held
  have digit := Nat.isDigit_of_mem_toDigits (by decide) (by decide) held
  cases digit

theorem eq_of_last_hyphen {s t u v : List Char} (bare : '-' ∉ u) (bare' : '-' ∉ v)
    (same : s ++ '-' :: u = t ++ '-' :: v) : s = t ∧ u = v := by
  rcases List.append_eq_append_iff.mp same with ⟨rest, rfl, ends⟩ | ⟨rest, rfl, ends⟩
  · cases rest with
    | nil => simpa using ends
    | cons c rest =>
      simp at ends
      exact absurd (by simp [ends]) bare
  · cases rest with
    | nil => simpa [eq_comm] using ends
    | cons c rest =>
      simp at ends
      exact absurd (by simp [ends]) bare'

theorem numbered_later (later : 2 ≤ occurrence) (plain : String) :
    (numbered plain occurrence).toList = plain.toList ++ '-' :: Nat.toDigits 10 occurrence := by
  have number : occurrence ≠ 1 := by omega
  simp [numbered, number, Nat.toList_repr]

theorem numbered_ne (later : 2 ≤ occurrence) (plain : String) :
    numbered plain occurrence ≠ plain := by
  intro same
  have lengths := congrArg (List.length ∘ String.toList) same
  simp only [Function.comp_apply, numbered_later later, List.length_append, List.length_cons] at lengths
  omega

/-- Numbers behind names tell both the names and the numbers. -/
theorem eq_of_numbered {count count' : Nat} (later : 2 ≤ count) (later' : 2 ≤ count')
    (same : numbered plain count = numbered other count') : plain = other ∧ count = count' := by
  have lists := congrArg String.toList same
  rw [numbered_later later, numbered_later later'] at lists
  obtain ⟨names, digits⟩ :=
    eq_of_last_hyphen (digits_unhyphened count) (digits_unhyphened count') lists
  have numbers := congrArg (Nat.ofDigitChars 10 · 0) digits
  simp only [Nat.ofDigitChars_toDigits (by decide : 1 < 10) (by decide : 10 ≤ 10)] at numbers
  exact ⟨String.toList_inj.mp names, numbers⟩

/-- Two numbered names are the same if their parts are, or if one has no number and is written like
the other with its own. -/
theorem numbered_eq_cases {count count' : Nat} (least : 1 ≤ count) (least' : 1 ≤ count')
    (same : numbered plain count = numbered other count') :
    plain = other ∧ count = count' ∨
      2 ≤ count' ∧ plain = numbered other count' ∨ 2 ≤ count ∧ other = numbered plain count := by
  by_cases one : count = 1
  · subst one
    by_cases one' : count' = 1
    · subst one'
      exact .inl ⟨same, rfl⟩
    · exact .inr (.inl ⟨by omega, same⟩)
  · by_cases one' : count' = 1
    · subst one'
      exact .inr (.inr ⟨by omega, same.symm⟩)
    · exact .inl (eq_of_numbered (by omega) (by omega) same)

/-! ## Distinct anchors -/

/-- Of two methods that get one anchor, one is called like the number of the other. -/
theorem called_like_number (before : earlier < place) (first : names[earlier]? = some name)
    (second : names[place]? = some other)
    (same : numbered (anchor name) (tallyAt names (anchor name) earlier) =
      numbered (anchor other) (tallyAt names (anchor other) place)) :
    2 ≤ tallyAt names (anchor other) place ∧
        anchor name = numbered (anchor other) (tallyAt names (anchor other) place) ∨
      2 ≤ tallyAt names (anchor name) earlier ∧
        anchor other = numbered (anchor name) (tallyAt names (anchor name) earlier) := by
  have least := tallyAt_of_held first
  have least' := tallyAt_of_held second
  rcases numbered_eq_cases (by omega) (by omega) same with ⟨plain, count⟩ | called
  · -- Methods that share their plain anchor have different numbers.
    have lt := tallyAt_lt before second
    rw [← plain] at lt count
    omega
  · exact called

theorem takesNumber_of_same (before : earlier < place) (first : names[earlier]? = some name)
    (second : names[place]? = some other)
    (same : numbered (anchor name) (tallyAt names (anchor name) earlier) =
      numbered (anchor other) (tallyAt names (anchor other) place)) : TakesNumber names := by
  have heldName := List.mem_of_getElem? first
  have heldOther := List.mem_of_getElem? second
  rcases called_like_number before first second same with ⟨later, called⟩ | ⟨later, called⟩
  · exact ⟨name, heldName, other, heldOther, _, later, tallyAt_le _ _ _, called⟩
  · exact ⟨other, heldOther, name, heldName, _, later, tallyAt_le _ _ _, called⟩

/-- The anchors of methods are different just if no method is called like the number of another. -/
theorem nodup_anchors_iff (names : List String) : (anchors names).Nodup ↔ ¬TakesNumber names := by
  constructor
  · rintro distinct ⟨name, held, other, _, occurrence, later, most, same⟩
    -- The name has its plain anchor once, and the other name comes to the same with its number.
    have counted : 1 ≤ (names.map anchor).count (anchor name) :=
      List.one_le_count_iff.mpr (List.mem_map_of_mem held)
    obtain ⟨place, named, there, plain, first⟩ := exists_tallied names (Nat.le_refl 1) counted
    obtain ⟨place', named', there', plain', tallied⟩ :=
      exists_tallied names (Nat.le_of_succ_le later) most
    have anchored : (anchors names)[place]? = some (anchor name) := by
      rw [getElem?_anchors, there, Option.map_some, plain, first]
      rfl
    have anchored' : (anchors names)[place']? = some (anchor name) := by
      rw [getElem?_anchors, there', Option.map_some, plain', tallied, same]
    obtain ⟨within, _⟩ := List.getElem?_eq_some_iff.mp anchored
    have one := (List.getElem?_inj within distinct).mp (anchored.trans anchored'.symm)
    rw [← one, there] at there'
    cases there'
    rw [plain] at plain'
    rw [plain'] at same
    exact numbered_ne later _ same.symm
  · intro free
    refine List.pairwise_iff_getElem.mpr fun earlier place here within before same => free ?_
    have found := getElem?_anchors names earlier
    have found' := getElem?_anchors names place
    rw [List.getElem?_eq_getElem here] at found
    rw [List.getElem?_eq_getElem within] at found'
    obtain ⟨name, first, numberedFirst⟩ := Option.map_eq_some_iff.mp found.symm
    obtain ⟨other, second, numberedSecond⟩ := Option.map_eq_some_iff.mp found'.symm
    exact takesNumber_of_same before first second
      (numberedFirst.trans (same.trans numberedSecond.symm))

/-! ## Cards and rows -/

/-- The cards of a type are its methods in another order, so their ids differ just if its anchors
do. -/
theorem nodup_cardPlaces_iff (type : TypeEntry) :
    (PagePlaces.cardPlaces type).Nodup ↔ (anchors (type.methods.map (·.name))).Nodup := by
  rw [← SearchLinks.anchoredMethods_places]
  exact ((SearchLinks.sortedMethods_perm type).map _).nodup_iff

/-- The row of a type leads to no anchor, and those of its methods to theirs on one page. -/
theorem nodup_urls_iff (type : TypeEntry) :
    ((SearchIndex.ofType type).map (·.url)).Nodup ↔
      (anchors (type.methods.map (·.name))).Nodup := by
  have urls : (SearchIndex.ofType type).map (·.url) = page type.fullName ::
      (anchors (type.methods.map (·.name))).map (page type.fullName ++ "#" ++ ·) := by
    rw [← SearchLinks.methodRows_urls, SearchIndex.ofType, List.map_cons, List.map_map]
    rfl
  have injective : Function.Injective (page type.fullName ++ "#" ++ ·) := by
    intro first second same
    have lists := congrArg String.toList same
    simp only [String.toList_append] at lists
    exact String.toList_inj.mp (List.append_cancel_left lists)
  have own : page type.fullName ∉
      (anchors (type.methods.map (·.name))).map (page type.fullName ++ "#" ++ ·) := by
    intro held
    obtain ⟨place, _, same⟩ := List.mem_map.mp held
    have lengths := congrArg (List.length ∘ String.toList) same
    simp at lengths
  rw [urls, List.nodup_cons, List.nodup_map_iff injective]
  exact and_iff_right own

/-- Methods have different anchors just if none is called like the number that another one gets, and
then, and only then, each method card of a type has an id of its own and each row of the search index
for the type a link of its own. -/
theorem anchors_differ_unless_numbers_are_taken (names : List String) :
    ((anchors names).Nodup ↔ ¬TakesNumber names) ∧
    ∀ (catalogue : Catalogue) (type : TypeEntry) (options : Options),
      let named := type.methods.map (·.name)
      PageReading.valuesOf "id" (Page.ofType catalogue type options).render =
        partPlaces type ++ PagePlaces.cardPlaces type ∧
      ((PagePlaces.cardPlaces type).Nodup ↔ ¬TakesNumber named) ∧
      (((SearchIndex.ofType type).map (·.url)).Nodup ↔ ¬TakesNumber named) := by
  refine ⟨nodup_anchors_iff names, fun catalogue type options => ?_⟩
  refine ⟨PagePlaces.ids_ofType catalogue type options, ?_, ?_⟩
  · rw [nodup_cardPlaces_iff, nodup_anchors_iff]
  · rw [nodup_urls_iff, nodup_anchors_iff]

/-- Two overloads, and a method that is called like the number of the second. -/
def takenRecords : List Record :=
  [⟨⟨.method, "A", some "Move", some "(System.Int32)", ""⟩, "", "", "", "", []⟩,
   ⟨⟨.method, "A", some "Move", some "(System.Single)", ""⟩, "", "", "", "", []⟩,
   ⟨⟨.method, "A", some "Move-2", none, ""⟩, "", "", "", "", []⟩]

theorem number_of_overload_is_taken :
    let catalogue := Catalogue.ofRecords takenRecords
    Identifier.parse? "M:A.Move-2" = some ⟨.method, "A", some "Move-2", none, ""⟩ ∧
      anchors ["Move", "Move", "Move-2"] = ["Move", "Move-2", "Move-2"] ∧
      ¬(anchors ["Move", "Move", "Move-2"]).Nodup ∧
      (SearchIndex.ofCatalogue catalogue).map (·.url) =
        ["A.html", "A.html#Move", "A.html#Move-2", "A.html#Move-2"] := by
  intro catalogue
  refine ⟨by decide +kernel, by decide +kernel, by decide +kernel, by decide +kernel⟩

end DocPages.AnchorNumbers
