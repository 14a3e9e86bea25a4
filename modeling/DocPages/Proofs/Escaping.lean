import DocPages.Html
import DocPages.Xml.Reference

/-! Escaping a text for markup replaces one character after the other, and undoing its references
gives the text back. That the replacements do not disturb each other is a matter of the table alone:
no reference holds a character that is still to be replaced. -/
namespace DocPages.Escaping
open Xml

/-- How a character stands in a text when all characters of the table are replaced at once. -/
def spelledBy (table : List (Char × String)) (c : Char) : List Char :=
  ((table.lookup c).map String.toList).getD [c]

theorem lookup_of_unlisted {table : List (Char × String)}
    (unlisted : ∀ entry ∈ table, entry.1 ≠ c) : table.lookup c = none :=
  List.lookup_eq_none_iff.mpr fun entry listed => bne_iff_ne.mpr (unlisted entry listed).symm

private theorem flatMap_untouched (table : List (Char × String)) (s : List Char)
    (apart : ∀ entry ∈ table, entry.1 ∉ s) : s.flatMap (spelledBy table) = s := by
  induction s with
  | nil => rfl
  | cons c later ih =>
    have unlisted : table.lookup c = none :=
      lookup_of_unlisted fun entry member same => apart entry member (by simp [same])
    have tail : ∀ entry ∈ table, entry.1 ∉ later := fun entry member held =>
      apart entry member (List.mem_cons_of_mem _ held)
    rw [List.flatMap_cons, ih tail]
    simp [spelledBy, unlisted]

/-- Replacing the characters of a table in turn replaces them all at once, provided that no
reference holds a character that comes later in the table. -/
theorem replace_in_turn (table : List (Char × String))
    (apart : table.Pairwise fun earlier later => later.1 ∉ earlier.2.toList) (s : List Char) :
    table.foldl (fun s (c, reference) => Html.replaceChar s c reference) s =
      s.flatMap (spelledBy table) := by
  induction table generalizing s with
  | nil => exact (flatMap_untouched [] s (by simp)).symm
  | cons entry table ih =>
    obtain ⟨c, reference⟩ := entry
    obtain ⟨first, rest⟩ := List.pairwise_cons.mp apart
    rw [List.foldl_cons, ih rest]
    simp only [Html.replaceChar, List.flatMap_assoc]
    congr 1
    funext d
    by_cases same : d = c
    · simp [same, flatMap_untouched table reference.toList first, spelledBy]
    · simp [same, spelledBy, List.lookup_cons, beq_eq_false_iff_ne.mpr same]

/-- How a character is written in markup. -/
def spelled (c : Char) : List Char :=
  spelledBy Html.references c

theorem escapeChars_eq_flatMap (s : List Char) : Html.escapeChars s = s.flatMap spelled :=
  replace_in_turn Html.references (by decide) s

theorem escape_append (first second : String) :
    Html.escape (first ++ second) = Html.escape first ++ Html.escape second := by
  simp [Html.escape, escapeChars_eq_flatMap, String.ofList_append]

/-- The name of the reference that is written for a character, if there is one. -/
def nameOf? (c : Char) : Option (List Char) :=
  (Html.references.lookup c).map fun reference => reference.toList.tail.dropLast

/-- Whether a character is written as it is. -/
def isKept (c : Char) : Bool :=
  (nameOf? c).isNone

/-- A character that is not written as it is stands as the reference that means it. -/
theorem spelled_of_named (named : nameOf? c = some name) :
    spelled c = '&' :: name ++ [';'] ∧ referent? name = some c ∧
      ∀ d ∈ name, d ≠ ';' ∧ d ≠ '&' ∧ d ≠ '<' := by
  obtain ⟨reference, found, rfl⟩ := Option.map_eq_some_iff.mp named
  have table : ∀ entry ∈ Html.references,
      entry.2.toList = '&' :: entry.2.toList.tail.dropLast ++ [';'] ∧
      referent? entry.2.toList.tail.dropLast = some entry.1 ∧
      entry.2.toList.tail.dropLast.all fun d => d ≠ ';' ∧ d ≠ '&' ∧ d ≠ '<' := by decide
  have listed : (c, reference) ∈ Html.references := by
    obtain ⟨before, after, split, _⟩ := List.lookup_eq_some_iff.mp found
    simp [split]
  have written : spelled c = reference.toList := by simp [spelled, spelledBy, found]
  obtain ⟨shape, known, inside⟩ := table _ listed
  rw [written]
  exact ⟨shape, known, by simpa using inside⟩

theorem spelled_of_kept (kept : isKept c) :
    spelled c = [c] ∧ c ≠ '<' ∧ c ≠ '>' ∧ c ≠ '&' ∧ c ≠ '"' ∧ c ≠ '\'' := by
  have absent := Option.map_eq_none_iff.mp (Option.isNone_iff_eq_none.mp kept)
  refine ⟨by simp [spelled, spelledBy, absent], ?_⟩
  have listed := List.lookup_eq_none_iff.mp absent
  simp only [Html.references, List.mem_cons, forall_eq_or_imp] at listed
  simp_all

/-- A text without characters that have references is written as it is. -/
theorem escape_of_kept {s : String} (kept : ∀ c ∈ s.toList, isKept c) : Html.escape s = s := by
  have same : s.toList.map spelled = s.toList.map fun c => [c] :=
    List.map_congr_left fun c held => (spelled_of_kept (kept c held)).1
  rw [Html.escape, escapeChars_eq_flatMap, List.flatMap_def, same, ← List.flatMap_def,
    List.flatMap_singleton', String.ofList_toList]

/-- A known text without such characters is written as it is. -/
theorem escape_plain {s : List Char} (kept : s.all isKept) :
    Html.escape (.ofList s) = .ofList s :=
  escape_of_kept (by simpa using kept)

/-- The mark that leads to a place on a page is written as it is. -/
theorem escape_place (place : String) : Html.escape ("#" ++ place) = "#" ++ Html.escape place := by
  have mark : Html.escape "#" = "#" := escape_plain rfl
  rw [escape_append, mark]

theorem digit_kept (digit : c.isDigit = true) : isKept c := by
  have marks : Html.references.all fun entry => !entry.1.isDigit := by decide
  have unlisted : Html.references.lookup c = none := by
    apply lookup_of_unlisted
    rintro entry listed rfl
    have other := List.all_eq_true.mp marks entry listed
    simp [digit] at other
  simp [isKept, nameOf?, unlisted]

/-- Numbers are written as they are. -/
theorem escape_number (n : Nat) : Html.escape n.repr = n.repr := by
  apply escape_of_kept
  intro c held
  have digits : c ∈ Nat.toDigits 10 n := by simpa [Nat.repr] using held
  exact digit_kept (Nat.isDigit_of_mem_toDigits (by decide) (by decide) digits)

/-- An escaped text holds no character that could end a tag, a value or the text itself. -/
theorem escapeChars_unmarked (s : List Char) :
    ∀ c ∈ Html.escapeChars s, c ≠ '<' ∧ c ≠ '>' ∧ c ≠ '"' ∧ c ≠ '\'' := by
  have table : ∀ entry ∈ Html.references, entry.2.toList.all fun c =>
      c ≠ '<' ∧ c ≠ '>' ∧ c ≠ '"' ∧ c ≠ '\'' := by decide
  intro c held
  rw [escapeChars_eq_flatMap] at held
  obtain ⟨d, _, inside⟩ := List.mem_flatMap.mp held
  cases found : Html.references.lookup d with
  | none =>
    obtain ⟨written, unopened, unclosed, _, unquoted⟩ :=
      spelled_of_kept (c := d) (by simp [isKept, nameOf?, found])
    rw [written] at inside
    cases List.mem_singleton.mp inside
    exact ⟨unopened, unclosed, unquoted⟩
  | some reference =>
    obtain ⟨before, after, split, _⟩ := List.lookup_eq_some_iff.mp found
    have unmarked := List.all_eq_true.mp (table (d, reference) (by simp [split])) c
      (by simpa [spelled, spelledBy, found] using inside)
    simpa using unmarked

/-! ## Undoing the references -/

private theorem go_name (inside : ∀ d ∈ name, d ≠ ';' ∧ d ≠ '&') (taken rest : List Char) :
    unescape?.go (name ++ ';' :: rest) (some taken) =
      (referent? (taken.reverse ++ name)).bind fun value =>
        (unescape?.go rest none).map (value :: ·) := by
  induction name generalizing taken with
  | nil => simp [unescape?.go]
  | cons d name ih =>
    obtain ⟨unclosed, unopened⟩ := inside d (by simp)
    have later := ih (fun e held => inside e (List.mem_cons_of_mem _ held)) (d :: taken)
    simpa [unescape?.go, unclosed, unopened] using later

private theorem go_spelled (c : Char) (rest : List Char) :
    unescape?.go (spelled c ++ rest) none = (unescape?.go rest none).map (c :: ·) := by
  cases found : nameOf? c with
  | none =>
    obtain ⟨written, _, _, unopened, _⟩ := spelled_of_kept (c := c) (by simp [isKept, found])
    simp [written, unescape?.go, unopened]
  | some name =>
    obtain ⟨written, known, inside⟩ := spelled_of_named found
    have closed := go_name (fun d held => ⟨(inside d held).1, (inside d held).2.1⟩) [] rest
    simp only [List.reverse_nil, List.nil_append, known, Option.bind_some] at closed
    simp [written, unescape?.go, closed]

/-- Undoing the references of an escaped text once gives the text back. -/
theorem unescape?_escapeChars (s : List Char) : unescape? (Html.escapeChars s) = some s := by
  rw [escapeChars_eq_flatMap, unescape?]
  induction s with
  | nil => rfl
  | cons c later ih => rw [List.flatMap_cons, go_spelled, ih, Option.map_some]

theorem unescape_escape (s : String) : unescape (Html.escape s) = s := by
  simp [unescape, Html.escape, unescape?_escapeChars]

/-- A text without an ampersand has no references to undo. -/
theorem unescape_of_no_reference (plain : '&' ∉ s.toList) : unescape s = s := by
  have whole (t : List Char) (plain : '&' ∉ t) : unescape?.go t none = some t := by
    induction t with
    | nil => rfl
    | cons c later ih =>
      simp only [List.mem_cons, not_or] at plain
      simp [unescape?.go, Ne.symm plain.1, ih plain.2]
  simp [unescape, unescape?, whole s.toList plain]

end DocPages.Escaping
