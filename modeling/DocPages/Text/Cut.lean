/-!
Cutting a text at a separator, or behind a number of bytes. A separator goes to no side, so writing
it between the sides gives the text back.
-/

namespace DocPages.Text

/-- What stands before and after the first `mark`, if there is one. -/
def cutFirst? (mark : Char) : List Char → Option (List Char × List Char)
  | [] => none
  | c :: rest =>
    if c = mark then some ([], rest)
    else (cutFirst? mark rest).map fun (before, after) => (c :: before, after)

/-- What stands before and after the last `mark`, if there is one. -/
def cutLast? (mark : Char) : List Char → Option (List Char × List Char)
  | [] => none
  | c :: rest =>
    match cutLast? mark rest with
    | some (before, after) => some (c :: before, after)
    | none => if c = mark then some ([], rest) else none

/-- The texts between the marks, one more than there are marks. -/
def splitAll (mark : Char) : List Char → List (List Char)
  | [] => [[]]
  | c :: rest =>
    if c = mark then [] :: splitAll mark rest
    else
      match splitAll mark rest with
      | [] => [[c]]
      | first :: later => (c :: first) :: later

/-- What stands behind the first bytes of a text, which end with a whole character. -/
def dropBytes : Nat → List Char → List Char
  | _, [] => []
  | bytes, c :: rest => if bytes = 0 then c :: rest else dropBytes (bytes - c.utf8Size) rest

theorem dropBytes_append (before after : List Char) :
    dropBytes (String.ofList before).utf8ByteSize (before ++ after) = after := by
  induction before with
  | nil => cases after <;> simp [dropBytes]
  | cons c rest ih =>
    have size : (String.ofList (c :: rest)).utf8ByteSize =
        c.utf8Size + (String.ofList rest).utf8ByteSize := by simp
    have positive : c.utf8Size + (String.ofList rest).utf8ByteSize ≠ 0 := by
      have := c.utf8Size_pos
      omega
    rw [size, List.cons_append, dropBytes, if_neg positive, Nat.add_sub_cancel_left, ih]

theorem eq_of_cutFirst? {mark : Char} {s before after : List Char}
    (cut : cutFirst? mark s = some (before, after)) :
    s = before ++ mark :: after ∧ mark ∉ before := by
  induction s generalizing before with
  | nil => simp [cutFirst?] at cut
  | cons c rest ih =>
    by_cases h : c = mark
    · simp only [cutFirst?, h, if_true, Option.some.injEq, Prod.mk.injEq] at cut
      obtain ⟨rfl, rfl⟩ := cut
      simp [h]
    · simp only [cutFirst?, h, if_false, Option.map_eq_some_iff] at cut
      obtain ⟨⟨inner, tail⟩, found, same⟩ := cut
      simp only [Prod.mk.injEq] at same
      obtain ⟨rfl, rfl⟩ := same
      obtain ⟨rfl, absent⟩ := ih found
      exact ⟨rfl, by simp [absent, Ne.symm h]⟩

/-- A mark behind a text without marks is the first one. -/
theorem cutFirst?_append {mark : Char} {before : List Char} (absent : mark ∉ before)
    (after : List Char) : cutFirst? mark (before ++ mark :: after) = some (before, after) := by
  induction before with
  | nil => simp [cutFirst?]
  | cons c rest ih =>
    simp only [List.mem_cons, not_or] at absent
    simp [cutFirst?, Ne.symm absent.1, ih absent.2]

theorem cutFirst?_eq_none_iff {mark : Char} {s : List Char} :
    cutFirst? mark s = none ↔ mark ∉ s := by
  induction s with
  | nil => simp [cutFirst?]
  | cons c rest ih =>
    by_cases h : c = mark
    · simp [cutFirst?, h]
    · simp [cutFirst?, h, ih, Ne.symm h]

theorem cutLast?_eq_none_iff {mark : Char} {s : List Char} :
    cutLast? mark s = none ↔ mark ∉ s := by
  induction s with
  | nil => simp [cutLast?]
  | cons c rest ih =>
    cases found : cutLast? mark rest with
    | some sides =>
      have marked : mark ∈ rest := by simpa [found] using ih
      simp [cutLast?, found, marked]
    | none => simp [cutLast?, found, ih.mp found, eq_comm]

theorem eq_of_cutLast? {mark : Char} {s before after : List Char}
    (cut : cutLast? mark s = some (before, after)) :
    s = before ++ mark :: after ∧ mark ∉ after := by
  induction s generalizing before with
  | nil => simp [cutLast?] at cut
  | cons c rest ih =>
    cases found : cutLast? mark rest with
    | some sides =>
      obtain ⟨inner, tail⟩ := sides
      simp only [cutLast?, found, Option.some.injEq, Prod.mk.injEq] at cut
      obtain ⟨rfl, rfl⟩ := cut
      obtain ⟨rfl, absent⟩ := ih found
      exact ⟨rfl, absent⟩
    | none =>
      simp only [cutLast?, found, Option.ite_none_right_eq_some, Option.some.injEq,
        Prod.mk.injEq] at cut
      obtain ⟨rfl, rfl, rfl⟩ := cut
      exact ⟨rfl, cutLast?_eq_none_iff.mp found⟩

/-- A mark in front of a text without marks is the last one. -/
theorem cutLast?_append {mark : Char} (before : List Char) {after : List Char}
    (absent : mark ∉ after) : cutLast? mark (before ++ mark :: after) = some (before, after) := by
  induction before with
  | nil => simp [cutLast?, cutLast?_eq_none_iff.mpr absent]
  | cons c rest ih => simp [cutLast?, ih]

theorem splitAll_ne_nil (mark : Char) (s : List Char) : splitAll mark s ≠ [] := by
  cases s with
  | nil => simp [splitAll]
  | cons c rest =>
    rw [splitAll]
    split
    · simp
    · split <;> simp

theorem splitAll_of_unmarked {mark : Char} {s : List Char} (unmarked : mark ∉ s) :
    splitAll mark s = [s] := by
  induction s with
  | nil => rfl
  | cons c rest ih =>
    simp only [List.mem_cons, not_or] at unmarked
    rw [splitAll, if_neg (Ne.symm unmarked.1), ih unmarked.2]

theorem splitAll_append (mark : Char) (before after : List Char) :
    splitAll mark (before ++ mark :: after) = splitAll mark before ++ splitAll mark after := by
  induction before with
  | nil => simp [splitAll]
  | cons c rest ih =>
    rw [List.cons_append, splitAll, splitAll, ih]
    split
    · rfl
    · cases found : splitAll mark rest with
      | nil => exact absurd found (splitAll_ne_nil mark rest)
      | cons first later => rfl

end DocPages.Text
