import DocPages.Xml.Reference

/-! The references that need no declaration, and what they mean: five names stand for a character
each, and a number in decimal or hexadecimal digits stands for the character with that number. No
other reference stands for anything. -/
namespace DocPages.KnownReferences
open Xml

variable {base n : Nat} {name written : List Char} {c : Char}

/-- A way to write numbers in references: what stands in front of the digits, the base, and the value
of each digit. -/
structure Numerals where
  mark : List Char
  base : Nat
  digits : List (Char × Nat)

def decimal : Numerals where
  mark := ['#']
  base := 10
  digits := [('0', 0), ('1', 1), ('2', 2), ('3', 3), ('4', 4), ('5', 5), ('6', 6), ('7', 7),
    ('8', 8), ('9', 9)]

/-- The letters of these digits may be small or capital, but not that of the mark. -/
def hexadecimal : Numerals where
  mark := ['#', 'x']
  base := 16
  digits := [('0', 0), ('1', 1), ('2', 2), ('3', 3), ('4', 4), ('5', 5), ('6', 6), ('7', 7),
    ('8', 8), ('9', 9), ('a', 10), ('b', 11), ('c', 12), ('d', 13), ('e', 14), ('f', 15),
    ('A', 10), ('B', 11), ('C', 12), ('D', 13), ('E', 14), ('F', 15)]

/-- The number that the digits write. -/
def Numerals.value (numerals : Numerals) (written : List Char) : Nat :=
  written.foldl (fun value d => value * numerals.base + (numerals.digits.lookup d).getD 0) 0

/-- The reference of this name means the character. -/
inductive Means : List Char → Char → Prop
  | predefined {name : String} {c : Char}
      (listed : (name, c) ∈ [("lt", '<'), ("gt", '>'), ("amp", '&'), ("apos", '\''), ("quot", '"')]) :
      Means name.toList c
  | numbered {numerals : Numerals} {written : List Char} {c : Char}
      (known : numerals ∈ [decimal, hexadecimal]) (nonempty : written ≠ [])
      (all : ∀ d ∈ written, d ∈ numerals.digits.map Prod.fst)
      (number : numerals.value written = c.toNat) (nonzero : c.toNat ≠ 0) :
      Means (numerals.mark ++ written) c

/-! ## Numbers -/

/-- A character has a value as a digit just if one is listed. -/
theorem digitValue?_eq_lookup (known : numerals ∈ [decimal, hexadecimal]) (c : Char) :
    digitValue? numerals.base c = numerals.digits.lookup c := by
  by_cases ascii : c.toNat < 128
  · have table : ∀ n < 128, ∀ numerals ∈ [decimal, hexadecimal],
        digitValue? numerals.base (.ofNat n) = numerals.digits.lookup (.ofNat n) := by decide
    have own := table c.toNat ascii numerals known
    rwa [Char.ofNat_toNat] at own
  · have beyond (d : Char) (small : d.toNat < 128) : ¬ c ≤ d := fun le =>
      ascii (Nat.lt_of_le_of_lt le small)
    have listed : ∀ numerals ∈ [decimal, hexadecimal], ∀ digit ∈ numerals.digits,
        digit.1.toNat < 128 := by decide
    have unlisted : numerals.digits.lookup c = none := by
      rw [List.lookup_eq_none_iff]
      intro digit held
      rw [bne_iff_ne]
      rintro rfl
      exact ascii (listed numerals known digit held)
    rw [unlisted]
    simp [digitValue?, beyond '9' (by decide), beyond 'f' (by decide), beyond 'F' (by decide)]

theorem isSome_digitValue (known : numerals ∈ [decimal, hexadecimal]) (c : Char) :
    (digitValue? numerals.base c).isSome ↔ c ∈ numerals.digits.map Prod.fst := by
  rw [digitValue?_eq_lookup known, List.lookup_isSome_iff, List.mem_map]
  simp only [beq_iff_eq, @eq_comm _ c]

theorem readNumber?_eq_some_iff (known : numerals ∈ [decimal, hexadecimal]) :
    readNumber? numerals.base written = some n ↔ written ≠ [] ∧
      (∀ d ∈ written, d ∈ numerals.digits.map Prod.fst) ∧ numerals.value written = n := by
  have read (start : Nat) : written.foldlM
      (fun value c => (digitValue? numerals.base c).map (value * numerals.base + ·)) start = some n ↔
        (∀ d ∈ written, d ∈ numerals.digits.map Prod.fst) ∧ written.foldl (fun value d =>
          value * numerals.base + (numerals.digits.lookup d).getD 0) start = n := by
    induction written generalizing start with
    | nil => simp
    | cons d later ih =>
      rw [List.foldlM_cons, List.forall_mem_cons, ← isSome_digitValue known d, List.foldl_cons,
        ← digitValue?_eq_lookup known d]
      cases value : digitValue? numerals.base d with
      | none => simp
      | some digit => simpa using ih (start * numerals.base + digit)
  cases written with
  | nil => simp [readNumber?]
  | cons d later => simpa [readNumber?, Numerals.value] using read 0

theorem charOfNumber?_eq_some_iff : charOfNumber? n = some c ↔ c.toNat = n ∧ n ≠ 0 := by
  unfold charOfNumber?
  constructor
  · intro found
    split at found
    · rename_i valid
      cases found
      refine ⟨?_, valid.1⟩
      rw [Char.ofNat, dif_pos valid.2]
      rfl
    · cases found
  · rintro ⟨rfl, nonzero⟩
    rw [if_pos ⟨nonzero, c.valid⟩, Char.ofNat_toNat]

theorem numbered_eq_some_iff (known : numerals ∈ [decimal, hexadecimal]) :
    (readNumber? numerals.base written).bind charOfNumber? = some c ↔ written ≠ [] ∧
      (∀ d ∈ written, d ∈ numerals.digits.map Prod.fst) ∧ numerals.value written = c.toNat ∧
        c.toNat ≠ 0 := by
  simp only [Option.bind_eq_some_iff, readNumber?_eq_some_iff known, charOfNumber?_eq_some_iff]
  constructor
  · rintro ⟨n, ⟨nonempty, all, number⟩, rfl, nonzero⟩
    exact ⟨nonempty, all, number, nonzero⟩
  · rintro ⟨nonempty, all, number, nonzero⟩
    exact ⟨_, ⟨nonempty, all, number⟩, rfl, nonzero⟩

/-! ## References -/

theorem means_of_number (known : numerals ∈ [decimal, hexadecimal])
    (read : (readNumber? numerals.base written).bind charOfNumber? = some c) :
    Means (numerals.mark ++ written) c := by
  obtain ⟨nonempty, all, number, nonzero⟩ := (numbered_eq_some_iff known).mp read
  exact .numbered known nonempty all number nonzero

theorem referent?_eq_some_iff : referent? name = some c ↔ Means name c := by
  constructor
  · intro found
    unfold referent? at found
    split at found
    · have known : hexadecimal ∈ [decimal, hexadecimal] := by simp
      exact means_of_number known found
    · have known : decimal ∈ [decimal, hexadecimal] := by simp
      exact means_of_number known found
    · obtain ⟨⟨known, value⟩, first, rfl⟩ := Option.map_eq_some_iff.mp found
      have same := List.find?_some first
      rw [← beq_iff_eq.mp same]
      exact .predefined (List.mem_of_find?_eq_some first)
  · intro means
    cases means with
    | predefined listed =>
      have table : ∀ entry ∈ [("lt", '<'), ("gt", '>'), ("amp", '&'), ("apos", '\''), ("quot", '"')],
          referent? entry.1.toList = some entry.2 := by decide
      exact table _ listed
    | @numbered numerals written c known nonempty all number nonzero =>
      have read := (numbered_eq_some_iff known).mpr ⟨nonempty, all, number, nonzero⟩
      simp only [List.mem_cons, List.not_mem_nil, or_false] at known
      rcases known with rfl | rfl
      · -- An `x` would be no decimal digit.
        have unmarked : written.head? ≠ some 'x' := fun marked =>
          absurd (all 'x' (List.mem_of_head? marked)) (by decide)
        unfold referent?
        split
        · rename_i marked
          cases marked
          exact absurd rfl unmarked
        · rename_i same
          cases same
          exact read
        · rename_i other
          exact absurd rfl (other written)
      · exact read

theorem referent?_eq_none_iff : referent? name = none ↔ ∀ c, ¬ Means name c := by
  simp only [Option.eq_none_iff_forall_ne_some, ne_eq, referent?_eq_some_iff]

/-- Whether a reference means anything can be found out. -/
instance (name : List Char) : Decidable (∃ c, Means name c) :=
  decidable_of_iff ((referent? name).isSome = true) <| by
    simp only [Option.isSome_iff_exists, referent?_eq_some_iff]

end DocPages.KnownReferences
