import DocPages.Address

/-! Safe names hold no forbidden character, and making a name safe that is safe already changes
nothing. Anchors stay safe when they are numbered, so a link may be made from an anchor as if it
were a name. -/
namespace DocPages.SafeNames
open Address

theorem safeChar_allowed (c : Char) : safeChar c ∉ forbidden := by
  unfold safeChar
  split
  · decide
  · assumption

theorem safe_allowed (name : String) : ∀ c ∈ (safe name).toList, c ∉ forbidden := by
  intro c held
  rw [safe, String.toList_ofList] at held
  obtain ⟨d, _, rfl⟩ := List.mem_map.mp held
  exact safeChar_allowed d

theorem safe_of_allowed (allowed : ∀ c ∈ name.toList, c ∉ forbidden) : safe name = name := by
  have kept : ∀ c ∈ name.toList, safeChar c = id c := by
    intro c held
    simp [safeChar, allowed c held]
  rw [safe, List.map_congr_left kept, List.map_id, String.ofList_toList]

/-- Where a character was replaced there is an underscore. -/
theorem underscored (held : c ∈ name.toList) (listed : c ∈ forbidden) : '_' ∈ (safe name).toList := by
  rw [safe, String.toList_ofList]
  exact List.mem_map.mpr ⟨c, held, if_pos listed⟩

theorem digit_allowed (digit : c.isDigit = true) : c ∉ forbidden := by
  intro held
  have letters : forbidden.all fun d => !d.isDigit := by decide
  have other := List.all_eq_true.mp letters c held
  simp [digit] at other

/-- A number behind a safe name leaves it safe. -/
theorem safe_numbered (name : String) (occurrence : Nat) :
    safe (numbered (safe name) occurrence) = numbered (safe name) occurrence := by
  apply safe_of_allowed
  intro c held
  unfold numbered at held
  split at held
  · exact safe_allowed name c held
  · simp only [String.toList_append, List.mem_append, Nat.toList_repr] at held
    rcases held with (inside | hyphen) | digit
    · exact safe_allowed name c inside
    · rw [List.mem_singleton.mp hyphen]
      decide
    · exact digit_allowed (Nat.isDigit_of_mem_toDigits (by decide) (by decide) digit)

theorem length_anchorsFrom (tally : Std.ExtTreeMap String Nat) (names : List String) :
    (anchorsFrom tally names).length = names.length := by
  induction names generalizing tally with
  | nil => rfl
  | cons name names ih => simp [anchorsFrom, ih]

theorem length_anchors (names : List String) : (anchors names).length = names.length :=
  length_anchorsFrom ∅ names

theorem safe_of_mem_anchorsFrom (tally : Std.ExtTreeMap String Nat) (names : List String) :
    ∀ place ∈ anchorsFrom tally names, safe place = place := by
  induction names generalizing tally with
  | nil => simp [anchorsFrom]
  | cons name names ih =>
    intro place held
    rcases List.mem_cons.mp held with rfl | held
    · exact safe_numbered name _
    · exact ih _ place held

/-- The link to a method is its page and its anchor as they are. -/
theorem ofMember_anchor (owner : String) (held : place ∈ anchors names) :
    ofMember owner place = page owner ++ "#" ++ place := by
  rw [ofMember, anchor, safe_of_mem_anchorsFrom ∅ names place held]

/-! ## Names of pages -/

theorem page_allowed (owner : String) : ∀ c ∈ (page owner).toList, c ∉ forbidden := by
  intro c held
  rw [page, String.toList_append, List.mem_append] at held
  rcases held with inside | ending
  · exact safe_allowed owner c inside
  · have all : ".html".toList.all (· ∉ forbidden) := rfl
    simpa using List.all_eq_true.mp all c ending

theorem page_unslashed (owner : String) : '/' ∉ (page owner).toList :=
  fun held => page_allowed owner '/' held (by decide)

/-- No page has the name of a file of another kind. -/
theorem page_last (owner : String) : (page owner).toList.getLast? = some 'l' := by
  simp [page, List.getLast?_append]

/-- The name of a page tells the owner's name made safe. -/
theorem safe_of_page (same : page owner = name ++ ".html") : safe owner = name := by
  have lists := congrArg String.toList same
  rw [page, String.toList_append, String.toList_append] at lists
  exact String.toList_inj.mp (List.append_cancel_right lists)

/-- A name without underscores is that of no other owner's page. -/
theorem owner_of_page (same : page owner = name ++ ".html") (bare : '_' ∉ name.toList) :
    owner = name := by
  have made : safe owner = name := safe_of_page same
  have allowed : ∀ c ∈ owner.toList, c ∉ forbidden := by
    intro c held listed
    apply bare
    rw [← made]
    exact underscored held listed
  rw [← made, safe_of_allowed allowed]

end DocPages.SafeNames
