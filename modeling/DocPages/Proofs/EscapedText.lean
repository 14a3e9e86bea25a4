import DocPages.Proofs.Escaping
import Mathlib.Logic.Function.Basic

/-! Escaped text read back. The five characters are replaced one after the other, over the whole text
each time, yet this comes to one pass in which every character is written on its own: what has been
written for one is never taken up again. Every ampersand of the result opens one of five references,
and a reader that knows no more than these five finds the text again. -/
namespace DocPages.EscapedText
open Escaping

/-- How each character is written on its own. -/
def written : Char → String
  | '&' => "&amp;"
  | '<' => "&lt;"
  | '>' => "&gt;"
  | '"' => "&quot;"
  | '\'' => "&#x27;"
  | c => .singleton c

/-- The text with each of the five references resolved once, from the front. -/
def resolved : List Char → List Char
  | '&' :: 'a' :: 'm' :: 'p' :: ';' :: rest => '&' :: resolved rest
  | '&' :: 'l' :: 't' :: ';' :: rest => '<' :: resolved rest
  | '&' :: 'g' :: 't' :: ';' :: rest => '>' :: resolved rest
  | '&' :: 'q' :: 'u' :: 'o' :: 't' :: ';' :: rest => '"' :: resolved rest
  | '&' :: '#' :: 'x' :: '2' :: '7' :: ';' :: rest => '\'' :: resolved rest
  | c :: rest => c :: resolved rest
  | [] => []

/-- The text opens with one of the five references. -/
def OpensReference (text : List Char) : Prop :=
  ∃ reference ∈ ["&amp;", "&lt;", "&gt;", "&quot;", "&#x27;"], reference.toList <+: text

/-- A character has a reference in the table, or it is written as it is. -/
theorem written_cases (c : Char) :
    (c, written c) ∈ Html.references ∨ isKept c ∧ written c = .singleton c := by
  unfold written
  split
  · exact .inl (by decide)
  · exact .inl (by decide)
  · exact .inl (by decide)
  · exact .inl (by decide)
  · exact .inl (by decide)
  · have unlisted : Html.references.lookup c = none := by
      apply lookup_of_unlisted
      simp_all [Html.references, eq_comm]
    exact .inr ⟨by simp [isKept, nameOf?, unlisted], rfl⟩

theorem spelled_eq_written (c : Char) : spelled c = (written c).toList := by
  rcases written_cases c with listed | ⟨kept, alone⟩
  · have table : ∀ entry ∈ Html.references, spelled entry.1 = entry.2.toList := by decide
    exact table _ listed
  · rw [alone, String.toList_singleton]
    exact (spelled_of_kept kept).1

theorem toList_escape (s : String) :
    (Html.escape s).toList = s.toList.flatMap fun c => (written c).toList := by
  rw [Html.escape, String.toList_ofList, escapeChars_eq_flatMap, funext spelled_eq_written]

/-- One pass over the text writes what the five replacements do. -/
theorem escape_eq_join (s : String) : Html.escape s = String.join (s.toList.map written) := by
  rw [← String.toList_inj, toList_escape, String.toList_join, List.flatMap_map]

/-! ## Ampersands -/

theorem OpensReference.append (opens : OpensReference text) (rest : List Char) :
    OpensReference (text ++ rest) := by
  obtain ⟨reference, listed, start⟩ := opens
  exact ⟨reference, listed, start.trans (List.prefix_append text rest)⟩

/-- Where an ampersand is written it stands in front, and what is written is a reference. -/
theorem ampersand_of_written (split : (written c).toList = before ++ '&' :: after) :
    before = [] ∧ OpensReference (written c).toList := by
  rcases written_cases c with listed | ⟨kept, alone⟩
  · have table : ∀ entry ∈ Html.references, '&' ∉ entry.2.toList.tail ∧
        entry.2 ∈ ["&amp;", "&lt;", "&gt;", "&quot;", "&#x27;"] := by decide
    obtain ⟨inside, known⟩ := table _ listed
    refine ⟨?_, written c, known, List.prefix_rfl⟩
    cases before with
    | nil => rfl
    | cons d before => exact absurd (by simp [split]) inside
  · obtain ⟨_, _, _, unopened, _⟩ := spelled_of_kept kept
    rw [alone, String.toList_singleton] at split
    have inside : '&' ∈ [c] := by simp [split]
    exact absurd (List.mem_singleton.mp inside).symm unopened

theorem ampersand_opens (s : List Char)
    (split : (s.flatMap fun c => (written c).toList) = before ++ '&' :: after) :
    OpensReference ('&' :: after) := by
  induction s generalizing before with
  | nil => simp at split
  | cons c later ih =>
    rw [List.flatMap_cons] at split
    rcases List.append_eq_append_iff.mp split with ⟨rest, _, ends⟩ | ⟨rest, whole, ends⟩
    · exact ih ends
    · cases rest with
      | nil => exact @ih [] ends.symm
      | cons d rest =>
        obtain ⟨rfl, rfl⟩ := List.cons.inj ends
        -- The ampersand stands in what is written for the first character.
        obtain ⟨rfl, opens⟩ := ampersand_of_written whole
        rw [whole] at opens
        exact opens.append _

/-! ## Resolving -/

theorem resolved_cons (unopened : c ≠ '&') (rest : List Char) :
    resolved (c :: rest) = c :: resolved rest := by
  rw [resolved] <;> simp [unopened]

theorem resolved_written (c : Char) (rest : List Char) :
    resolved ((written c).toList ++ rest) = c :: resolved rest := by
  rcases written_cases c with listed | ⟨kept, alone⟩
  · have table : ∀ entry ∈ Html.references,
        resolved (entry.2.toList ++ rest) = entry.1 :: resolved rest := by
      simp [Html.references, resolved]
    exact table (c, written c) listed
  · obtain ⟨_, _, _, unopened, _⟩ := spelled_of_kept kept
    rw [alone, String.toList_singleton]
    exact resolved_cons unopened rest

theorem resolved_escape (s : String) : resolved (Html.escape s).toList = s.toList := by
  rw [toList_escape]
  induction s.toList with
  | nil => rfl
  | cons c later ih => rw [List.flatMap_cons, resolved_written, ih]

theorem escape_injective : Function.Injective Html.escape := by
  intro s t same
  rw [← String.toList_inj, ← resolved_escape s, same, resolved_escape t]

/-- The five replacements write a text as one pass over its characters does. What they write holds no
character that means something in markup but ampersands that open one of the five references, and
resolving these once gives the text back, so no two texts are written alike. -/
theorem escaping_is_one_pass_and_undone :
    (∀ s : String, Html.escape s = String.join (s.toList.map written) ∧
      (∀ c ∈ (Html.escape s).toList, c ≠ '<' ∧ c ≠ '>' ∧ c ≠ '"' ∧ c ≠ '\'') ∧
      (∀ before after, (Html.escape s).toList = before ++ '&' :: after →
        OpensReference ('&' :: after)) ∧
      resolved (Html.escape s).toList = s.toList) ∧
    Function.Injective Html.escape := by
  refine ⟨fun s => ⟨escape_eq_join s, ?_, ?_, resolved_escape s⟩, escape_injective⟩
  · rw [Html.escape, String.toList_ofList]
    exact escapeChars_unmarked s.toList
  · intro before after split
    rw [toList_escape] at split
    exact ampersand_opens s.toList split

/-- A text that looks escaped is escaped all the same. -/
example : Html.escape "a<b &lt;" = "a&lt;b &amp;lt;" := by cbv

end DocPages.EscapedText
