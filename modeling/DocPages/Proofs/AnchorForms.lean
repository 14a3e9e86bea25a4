import DocPages.Proofs.AnchorNumbers

/-! Anchors told from the names of methods alone, without a tally. An anchor depends on its own name
and on those before it, so methods that come later leave it as it is. Two anchors of one list can be
the same only where a name, made safe, ends in a hyphen and a number by itself. -/
namespace DocPages.AnchorForms
open Address AnchorNumbers

variable {names : List String} {name other plain : String} {place place' occurrence : Nat}

/-- The anchor of the method at this place: its safe name, and behind it how many methods up to here
have the same one, unless it is the first of them. -/
def anchorAt (names : List String) (place : Nat) (name : String) : String :=
  if ∀ former ∈ names.take place, safe former ≠ safe name then safe name
  else safe name ++ "-" ++
    ((names.take (place + 1)).countP fun former => safe former = safe name).repr

/-- The second text is the first with a hyphen and a number, such as a later overload gets. -/
def NumberBehind (plain whole : String) : Prop :=
  ∃ occurrence, 2 ≤ occurrence ∧ whole = plain ++ "-" ++ occurrence.repr

theorem numbered_of_later (later : 2 ≤ occurrence) (plain : String) :
    numbered plain occurrence = plain ++ "-" ++ occurrence.repr :=
  if_neg (by omega)

theorem numberBehind_iff {plain whole : String} :
    NumberBehind plain whole ↔ ∃ occurrence, 2 ≤ occurrence ∧ whole = numbered plain occurrence :=
  exists_congr fun _ => and_congr_right fun later => by rw [numbered_of_later later]

theorem not_numberBehind_self (plain : String) : ¬ NumberBehind plain plain := by
  rw [numberBehind_iff]
  rintro ⟨occurrence, later, same⟩
  exact numbered_ne later plain same.symm

/-! ## One anchor -/

theorem tallyAt_eq_countP (names : List String) (name : String) (place : Nat) :
    tallyAt names (anchor name) place =
      (names.take (place + 1)).countP fun former => safe former = safe name := by
  rw [tallyAt, List.count, List.countP_map]
  rfl

/-- The count is one just for the first method of its safe name. -/
theorem tallyAt_eq_one_iff (held : names[place]? = some name) :
    tallyAt names (anchor name) place = 1 ↔
      ∀ former ∈ names.take place, safe former ≠ safe name := by
  rw [tallyAt_of_held held, Nat.add_eq_right, List.count_eq_zero, List.mem_map, not_exists]
  simp only [not_and]
  rfl

theorem anchorAt_eq (held : names[place]? = some name) :
    anchorAt names place name = numbered (anchor name) (tallyAt names (anchor name) place) := by
  have least := tallyAt_of_held held
  rw [anchorAt, ← tallyAt_eq_countP]
  split
  · rename_i first
    rw [(tallyAt_eq_one_iff held).mpr first]
    rfl
  · rename_i repeated
    have several := (tallyAt_eq_one_iff held).not.mpr repeated
    rw [numbered_of_later (by omega)]
    rfl

theorem anchor_at_place (names : List String) (place : Nat) :
    (anchors names)[place]? = names[place]?.map (anchorAt names place) := by
  rw [getElem?_anchors]
  exact Option.map_congr fun name held => (anchorAt_eq held).symm

/-! ## Longer lists -/

theorem anchorsFrom_prefix (tally : Std.ExtTreeMap String Nat) (names later : List String) :
    anchorsFrom tally names <+: anchorsFrom tally (names ++ later) := by
  induction names generalizing tally with
  | nil => exact List.nil_prefix
  | cons name names ih => exact List.cons_prefix_cons.mpr ⟨rfl, ih _⟩

/-! ## Two anchors -/

theorem numberBehind_of_same (apart : place ≠ place') (held : names[place]? = some name)
    (held' : names[place']? = some other)
    (same : (anchors names)[place]? = (anchors names)[place']?) :
    NumberBehind (safe name) (safe other) ∨ NumberBehind (safe other) (safe name) := by
  wlog before : place < place' generalizing place place' name other
  · exact (this apart.symm held' held same.symm (by omega)).symm
  rw [getElem?_anchors, getElem?_anchors, held, held'] at same
  simp only [Option.map_some, Option.some.injEq] at same
  rcases called_like_number before held held' same with ⟨later, called⟩ | ⟨later, called⟩
  · exact .inr (numberBehind_iff.mpr ⟨_, later, called⟩)
  · exact .inl (numberBehind_iff.mpr ⟨_, later, called⟩)

/-- Each anchor can be told from the names up to its own, and none changes when methods are added
behind them or when it is made safe again. Names that come to the same when they are made safe never
share an anchor, and other names do only if one of them is, when made safe, the other with a number. -/
theorem anchors_are_told_from_names (names : List String) :
    (∀ place, (anchors names)[place]? = names[place]?.map (anchorAt names place)) ∧
      (∀ later, anchors names <+: anchors (names ++ later)) ∧
      (∀ held ∈ anchors names, anchor held = held) ∧
      ∀ (place place' : Nat) (name other : String), place ≠ place' →
        names[place]? = some name → names[place']? = some other →
        (safe name = safe other → (anchors names)[place]? ≠ (anchors names)[place']?) ∧
        ((anchors names)[place]? = (anchors names)[place']? →
          NumberBehind (safe name) (safe other) ∨ NumberBehind (safe other) (safe name)) := by
  refine ⟨anchor_at_place names, anchorsFrom_prefix ∅ names,
    SafeNames.safe_of_mem_anchorsFrom ∅ names, ?_⟩
  intro place place' name other apart held held'
  refine ⟨fun alike same => ?_, numberBehind_of_same apart held held'⟩
  have numbers := numberBehind_of_same apart held held' same
  rw [alike, or_self] at numbers
  exact not_numberBehind_self _ numbers

end DocPages.AnchorForms
