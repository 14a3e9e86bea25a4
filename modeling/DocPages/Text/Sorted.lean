/-!
Sorting by a name. Names are ordered by their characters' code points, and entries with the same
name keep the order they came in.
-/

namespace DocPages.Text

/-- Whether `a` comes before `b` or is equal to it, character by character. -/
def inOrder (a b : String) : Bool :=
  (compare a b).isLE

def sortBy (name : α → String) (entries : List α) : List α :=
  entries.mergeSort fun a b => inOrder (name a) (name b)

theorem sortBy_perm (name : α → String) (entries : List α) : (sortBy name entries).Perm entries :=
  List.mergeSort_perm entries _

@[simp] theorem length_sortBy (name : α → String) (entries : List α) :
    (sortBy name entries).length = entries.length :=
  (sortBy_perm name entries).length_eq

@[simp] theorem sortBy_eq_nil_iff {name : α → String} {entries : List α} :
    sortBy name entries = [] ↔ entries = [] := by
  rw [← List.length_eq_zero_iff, length_sortBy, List.length_eq_zero_iff]

theorem inOrder_trans {a b c : String} (first : inOrder a b) (second : inOrder b c) : inOrder a c :=
  Std.TransCmp.isLE_trans first second

theorem inOrder_total (a b : String) : inOrder a b || inOrder b a := by
  have swapped : compare b a = (compare a b).swap := Std.OrientedOrd.eq_swap
  rw [inOrder, inOrder, swapped]
  cases compare a b <;> rfl

theorem eq_of_inOrder {a b : String} (forward : inOrder a b) (backward : inOrder b a) : a = b :=
  Std.LawfulEqCmp.eq_of_compare (Std.OrientedCmp.isLE_antisymm forward backward)

theorem sortBy_ordered (name : α → String) (entries : List α) :
    (sortBy name entries).Pairwise fun a b => inOrder (name a) (name b) := by
  unfold sortBy
  apply List.pairwise_mergeSort
  · exact fun _ _ _ => inOrder_trans
  · exact fun a b => inOrder_total (name a) (name b)

/-- The order in which entries come shows only in entries that share a name. -/
theorem sortBy_eq_of_perm {name : α → String} {entries entries' : List α}
    (unique : ∀ a ∈ entries, ∀ b ∈ entries, name a = name b → a = b)
    (perm : entries.Perm entries') : sortBy name entries = sortBy name entries' := by
  have sorted : (sortBy name entries).Perm (sortBy name entries') :=
    (sortBy_perm name entries).trans (perm.trans (sortBy_perm name entries').symm)
  refine List.Perm.eq_of_pairwise ?_ (sortBy_ordered name entries) (sortBy_ordered name entries')
    sorted
  intro a b inFirst inSecond forward backward
  have held : b ∈ entries := perm.mem_iff.mpr ((sortBy_perm name entries').mem_iff.mp inSecond)
  exact unique a ((sortBy_perm name entries).mem_iff.mp inFirst) b held
    (eq_of_inOrder forward backward)

/-- Sorting sees nothing of an entry but its name. -/
theorem map_sortBy {view : α → β} {name : α → String} {name' : β → String}
    (named : ∀ a, name' (view a) = name a) (entries : List α) :
    (sortBy name entries).map view = sortBy name' (entries.map view) := by
  apply List.map_mergeSort
  intro a _ b _
  rw [named, named]

theorem sortBy_of_ordered {name : α → String} {entries : List α}
    (ordered : entries.Pairwise fun a b => inOrder (name a) (name b)) :
    sortBy name entries = entries :=
  List.mergeSort_of_pairwise ordered

/-- Whether a text comes before another one: where they first differ it has the character with the
lower code point, or it is over. -/
inductive Precedes : List Char → List Char → Prop
  | shorter (c : Char) (rest : List Char) : Precedes [] (c :: rest)
  | lower {c d : Char} (first second : List Char) (less : c.toNat < d.toNat) :
      Precedes (c :: first) (d :: second)
  | behind {first second : List Char} (c : Char) (later : Precedes first second) :
      Precedes (c :: first) (c :: second)

theorem precedes_iff_lt {first second : List Char} : Precedes first second ↔ first < second := by
  constructor
  · intro precedes
    induction precedes with
    | shorter c rest => exact List.nil_lt_cons c rest
    | lower _ _ less => exact .rel less
    | behind _ _ ih => exact .cons ih
  · intro less
    induction less with
    | nil => exact .shorter _ _
    | rel less => exact .lower _ _ less
    | cons _ ih => exact .behind _ ih

theorem compare_eq_lt_iff {a b : String} :
    compare a b = .lt ↔ Precedes a.toList b.toList := by
  rw [precedes_iff_lt, ← String.lt_iff]
  change compareOfLessAndEq a b = .lt ↔ a < b
  unfold compareOfLessAndEq
  split
  · simp [*]
  · split <;> simp [*]

theorem inOrder_iff {a b : String} : inOrder a b ↔ a = b ∨ Precedes a.toList b.toList := by
  have same : compare a b = .eq ↔ a = b := Std.LawfulEqCmp.compare_eq_iff_eq
  rw [← compare_eq_lt_iff, ← same, inOrder]
  cases compare a b <;> decide

/-- The same entries by name, where those of one name are in the order in which they came. -/
structure SortedBy (name : α → String) (entries sorted : List α) : Prop where
  perm : sorted.Perm entries
  ordered : sorted.Pairwise fun a b =>
    name a = name b ∨ Precedes (name a).toList (name b).toList
  stable : ∀ shared, (sorted.filter fun entry => name entry = shared) =
    entries.filter fun entry => name entry = shared

theorem sortBy_stable (name : α → String) (entries : List α) (shared : String) :
    ((sortBy name entries).filter fun entry => name entry = shared) =
      entries.filter fun entry => name entry = shared := by
  -- Entries of one name are in order already, and sorting keeps what is in order.
  have ordered : (entries.filter fun entry => name entry = shared).Pairwise
      fun a b => inOrder (name a) (name b) := by
    rw [List.pairwise_filter]
    apply List.pairwise_of_forall
    intro a b own own'
    simp only [decide_eq_true_eq] at own own'
    exact inOrder_iff.mpr (.inl (own.trans own'.symm))
  have kept : (entries.filter fun entry => name entry = shared).Sublist (sortBy name entries) := by
    unfold sortBy
    apply List.sublist_mergeSort
    · exact fun _ _ _ => inOrder_trans
    · exact fun a b => inOrder_total (name a) (name b)
    · exact ordered
    · exact List.filter_sublist
  have among : (entries.filter fun entry => name entry = shared).Sublist
      ((sortBy name entries).filter fun entry => name entry = shared) := by
    simpa [List.filter_filter] using kept.filter fun entry => name entry = shared
  have size : ((sortBy name entries).filter fun entry => name entry = shared).length =
      (entries.filter fun entry => name entry = shared).length :=
    ((sortBy_perm name entries).filter _).length_eq
  exact (among.eq_of_length size.symm).symm

theorem sortBy_sortedBy (name : α → String) (entries : List α) :
    SortedBy name entries (sortBy name entries) where
  perm := sortBy_perm name entries
  ordered := (sortBy_ordered name entries).imp inOrder_iff.mp
  stable := sortBy_stable name entries

private theorem mem_iff_of_alike {name : α → String} {first second : List α}
    (alike : ∀ shared, (first.filter fun entry => name entry = shared) =
      second.filter fun entry => name entry = shared) (entry : α) :
    entry ∈ first ↔ entry ∈ second := by
  have own := congrArg (entry ∈ ·) (alike (name entry))
  simpa using own

/-- Lists by name that have the same entries of each name, in the same order, are the same. -/
theorem eq_of_alike {name : α → String} {first second : List α}
    (ordered : first.Pairwise fun a b => inOrder (name a) (name b))
    (ordered' : second.Pairwise fun a b => inOrder (name a) (name b))
    (alike : ∀ shared, (first.filter fun entry => name entry = shared) =
      second.filter fun entry => name entry = shared) : first = second := by
  have held := mem_iff_of_alike alike
  induction first generalizing second with
  | nil =>
    cases second with
    | nil => rfl
    | cons b second => simpa using (held b).mpr List.mem_cons_self
  | cons a first ih =>
    cases second with
    | nil => simpa using (held a).mp List.mem_cons_self
    | cons b second =>
      have forward : inOrder (name a) (name b) := by
        rcases List.mem_cons.mp ((held b).mpr List.mem_cons_self) with rfl | later
        · exact inOrder_iff.mpr (.inl rfl)
        · exact List.rel_of_pairwise_cons ordered later
      have backward : inOrder (name b) (name a) := by
        rcases List.mem_cons.mp ((held a).mp List.mem_cons_self) with rfl | later
        · exact inOrder_iff.mpr (.inl rfl)
        · exact List.rel_of_pairwise_cons ordered' later
      have named : name a = name b := eq_of_inOrder forward backward
      obtain ⟨rfl, _⟩ : a = b ∧ _ := by simpa [named] using alike (name a)
      have tails (shared : String) : (first.filter fun entry => name entry = shared) =
          second.filter fun entry => name entry = shared := by
        by_cases own : name a = shared <;> simpa [own] using alike shared
      rw [ih ordered.of_cons ordered'.of_cons tails (mem_iff_of_alike tails)]

/-- Where an entry stands is settled by its name and by the order in which the entries came. -/
theorem SortedBy.unique {name : α → String} {entries first second : List α}
    (sorted : SortedBy name entries first) (sorted' : SortedBy name entries second) :
    first = second :=
  eq_of_alike (sorted.ordered.imp inOrder_iff.mpr) (sorted'.ordered.imp inOrder_iff.mpr)
    fun shared => (sorted.stable shared).trans (sorted'.stable shared).symm

/-- Entries that all have different names go up by name. -/
theorem sortBy_ascending {name : α → String} {entries : List α}
    (distinct : (entries.map name).Nodup) : (sortBy name entries).Pairwise fun a b =>
      Precedes (name a).toList (name b).toList := by
  have apart : ((sortBy name entries).map name).Nodup :=
    ((sortBy_perm name entries).map name).nodup_iff.mpr distinct
  rw [List.Nodup, List.pairwise_map] at apart
  apply ((sortBy_sortedBy name entries).ordered.and apart).imp
  rintro a b ⟨same | precedes, different⟩
  · exact absurd same different
  · exact precedes

end DocPages.Text
