import DocPages.Proofs.SafeNames
import Mathlib.Data.List.Forall2

/-! When two names become one. Names are made safe one character at a time, and the ending that all
pages share takes nothing away, so two owners share a page just if their names differ in nothing but
which of the replaced characters, or of their replacement, stands at a place. -/
namespace DocPages.SharedNames
open Address SafeNames

variable {c d : Char} {name other : String}

/-- The characters that no safe name holds, spelled out apart from the list that names are made
safe with. -/
def reserved : List Char :=
  ['<', '>', ':', '"', '/', '\\', '|', '?', '*']

/-- Two characters that are the same in a safe name. -/
def Merges (c d : Char) : Prop :=
  c = d ∨ c ∈ '_' :: reserved ∧ d ∈ '_' :: reserved

theorem mem_forbidden_iff : c ∈ forbidden ↔ c ∈ reserved :=
  Iff.rfl

theorem safeChar_reserved (listed : c ∈ reserved) : safeChar c = '_' :=
  if_pos (mem_forbidden_iff.mpr listed)

theorem safeChar_unreserved (unlisted : c ∉ reserved) : safeChar c = c :=
  if_neg (mem_forbidden_iff.not.mpr unlisted)

theorem safeChar_eq_iff : safeChar c = safeChar d ↔ Merges c d := by
  unfold Merges
  by_cases listed : c ∈ reserved <;> by_cases listed' : d ∈ reserved
  · simp [safeChar_reserved, listed, listed']
  · have apart : c ≠ d := fun same => listed' (same ▸ listed)
    simp [safeChar_reserved listed, safeChar_unreserved listed', listed, listed', apart, eq_comm]
  · have apart : c ≠ d := fun same => listed (same ▸ listed')
    simp [safeChar_unreserved listed, safeChar_reserved listed', listed, listed', apart]
  · rw [safeChar_unreserved listed, safeChar_unreserved listed']
    simp only [List.mem_cons, listed, listed', or_false]
    refine ⟨.inl, ?_⟩
    rintro (same | ⟨rfl, rfl⟩)
    · exact same
    · rfl

theorem length_safe (name : String) : (safe name).length = name.length := by
  rw [safe, String.length_ofList, List.length_map, String.length_toList]

theorem safe_append (name other : String) : safe (name ++ other) = safe name ++ safe other := by
  rw [safe, String.toList_append, List.map_append, String.ofList_append]
  rfl

/-- A name is left as it is just if there is nothing in it to replace. -/
theorem safe_eq_self_iff : safe name = name ↔ ∀ c ∈ name.toList, c ∉ reserved := by
  refine ⟨fun unchanged c held => ?_, safe_of_allowed⟩
  rw [← unchanged] at held
  exact safe_allowed name c held

/-- Names become one just if their characters do at every place. -/
theorem safe_eq_iff :
    safe name = safe other ↔ List.Forall₂ Merges name.toList other.toList := by
  have characters : safe name = safe other ↔
      name.toList.map safeChar = other.toList.map safeChar := String.ofList_inj
  rw [characters, ← List.forall₂_eq_eq_eq, List.forall₂_map_left_iff, List.forall₂_map_right_iff]
  simp only [safeChar_eq_iff]

theorem page_eq_iff : page name = page other ↔ safe name = safe other :=
  ⟨safe_of_page, congrArg (· ++ ".html")⟩

/-- Lists are related item by item just if they are of one length and related at every place. -/
theorem forall₂_iff_places {Item : Type} {R : Item → Item → Prop} {first second : List Item} :
    List.Forall₂ R first second ↔ first.length = second.length ∧
      ∀ (place : Nat) (a b : Item), first[place]? = some a → second[place]? = some b → R a b := by
  rw [List.forall₂_iff_get]
  refine and_congr_right fun _ => ⟨?_, ?_⟩
  · intro related place a b there there'
    obtain ⟨within, rfl⟩ := List.getElem?_eq_some_iff.mp there
    obtain ⟨within', rfl⟩ := List.getElem?_eq_some_iff.mp there'
    exact related place within within'
  · intro related place within within'
    exact related place _ _ (List.getElem?_eq_getElem within) (List.getElem?_eq_getElem within')

/-- Making a name safe a second time changes nothing, no character is lost, parts of a name can be
made safe one by one, and a name without reserved characters stays. Two owners share a page just if
their names are of one length and have, at every place, the same character or two of those that are
written as an underscore, with the underscore itself. -/
theorem owners_share_pages_by_reserved_characters (name other : String) :
    safe (safe name) = safe name ∧
      (safe name).length = name.length ∧
      safe (name ++ other) = safe name ++ safe other ∧
      (safe name = name ↔ ∀ c ∈ name.toList, c ∉ reserved) ∧
      (page name = page other ↔ name.length = other.length ∧
        ∀ (place : Nat) (c d : Char), name.toList[place]? = some c →
          other.toList[place]? = some d → Merges c d) := by
  refine ⟨safe_of_allowed (safe_allowed name), length_safe name, safe_append name other,
    safe_eq_self_iff, ?_⟩
  rw [page_eq_iff, safe_eq_iff, forall₂_iff_places, String.length_toList, String.length_toList]

example : page "List<T>" = page "List_T?" := by cbv

end DocPages.SharedNames
