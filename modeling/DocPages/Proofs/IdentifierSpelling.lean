import DocPages.Identifier

/-! Identifiers are spelled in exactly one way. An identifier that was read is well formed and its
parts put together again give the text that it was read from; and every well-formed identifier is
read from its spelling. Only what stands before the first parenthesis decides about owner and
member, so a parameter list may hold any dots and parentheses. -/
namespace DocPages.IdentifierSpelling
open Identifier Text

/-! ## What is compared -/

/-- What stands behind the colon: the owner, the member behind a dot, and the signature. -/
def pathText (id : Identifier) : String :=
  id.owner ++ (id.member.map ("." ++ ·)).getD "" ++ id.signature.getD ""

def spelling (id : Identifier) : String :=
  id.kind.code ++ ":" ++ pathText id

/-- A dotted name is its last segment behind a dot and what stands before; a name without a dot is
one segment, and nothing stands before. -/
inductive Segmented : String → String → String → Prop
  | dotted (enclosing simple : String) (last : '.' ∉ simple.toList) :
      Segmented (enclosing ++ "." ++ simple) enclosing simple
  | single (name : String) (undotted : '.' ∉ name.toList) : Segmented name "" name

def OpensList (signature : String) : Prop :=
  signature.toList.head? = some '('

/-- The shape that every identifier has that was read. The path of a type is all owner; any other
path is cut at its first parenthesis, and what stands before that at its last dot. -/
structure WellFormed (id : Identifier) : Prop where
  whole : id.kind = .type → id.member = none ∧ id.signature = none
  bareOwner : id.kind ≠ .type → '(' ∉ id.owner.toList
  undotted : id.kind ≠ .type → id.member = none → '.' ∉ id.owner.toList
  bareMember : ∀ member, id.member = some member → '(' ∉ member.toList ∧ '.' ∉ member.toList
  opensList : ∀ signature, id.signature = some signature → OpensList signature
  segmented : Segmented id.owner id.namespaceName id.simpleName

/-- The kind is the one that its code is read as. -/
def IsCanonical (kind : Kind) : Prop :=
  .ofCode kind.code = kind

/-- No part of the identifier holds a colon. -/
structure ColonFree (id : Identifier) : Prop where
  code : ':' ∉ id.kind.code.toList
  owner : ':' ∉ id.owner.toList
  member : ∀ member, id.member = some member → ':' ∉ member.toList
  signature : ∀ signature, id.signature = some signature → ':' ∉ signature.toList

/-- What stands between the first colon of a text and the first parenthesis behind it. -/
def memberPath (raw : String) : List Char :=
  (raw.toList.dropWhile (· ≠ ':')).tail.takeWhile (· ≠ '(')

variable {id : Identifier} {kind : Kind} {path base owner member : List Char}
  {signature : Option (List Char)} {name enclosing simple raw : String}

/-! ## Dotted names -/

theorem segmented_parts (name : String) :
    Segmented name (enclosingName name) (simpleName name) := by
  cases cut : cutLast? '.' name.toList with
  | none =>
    simp only [enclosingName, DocPages.simpleName, cut]
    exact .single name (cutLast?_eq_none_iff.mp cut)
  | some sides =>
    obtain ⟨before, last⟩ := sides
    obtain ⟨whole, absent⟩ := eq_of_cutLast? cut
    have joined : name = .ofList before ++ "." ++ .ofList last := by
      rw [← String.toList_inj]
      simp [whole]
    simp only [enclosingName, DocPages.simpleName, cut]
    rw [joined]
    exact .dotted _ _ (by simpa using absent)

/-- A name has its segments in one way only. -/
theorem enclosing_of_segmented (segmented : Segmented name enclosing simple) :
    enclosing = enclosingName name := by
  cases segmented with
  | dotted _ _ last =>
    have cut := cutLast?_append enclosing.toList last
    simp [enclosingName, cut]
  | single _ undotted => simp [enclosingName, cutLast?_eq_none_iff.mpr undotted]

/-! ## Paths -/

/-- A signature, as it stands behind the rest of a path. -/
def Opens (signature : Option (List Char)) : Prop :=
  ∀ list, signature = some list → list.head? = some '('

theorem cutParameters_append (bare : '(' ∉ base) (opens : Opens signature) :
    cutParameters (base ++ signature.getD []) = (base, signature) := by
  cases signature with
  | none => simp [cutParameters, cutFirst?_eq_none_iff.mpr bare]
  | some list =>
    obtain ⟨rest, rfl⟩ : ∃ rest, list = '(' :: rest := List.head?_eq_some_iff.mp (opens list rfl)
    simp [cutParameters, cutFirst?_append bare]

theorem eq_of_cutParameters (cut : cutParameters path = (base, signature)) :
    path = base ++ signature.getD [] ∧ '(' ∉ base ∧ Opens signature := by
  unfold cutParameters at cut
  split at cut
  · rename_i before list found
    obtain ⟨rfl, rfl⟩ := Prod.mk.injEq .. ▸ cut
    obtain ⟨whole, absent⟩ := eq_of_cutFirst? found
    exact ⟨whole, absent, by rintro _ ⟨⟩; rfl⟩
  · rename_i missing
    obtain ⟨rfl, rfl⟩ := Prod.mk.injEq .. ▸ cut
    exact ⟨by simp, cutFirst?_eq_none_iff.mp missing, by simp [Opens]⟩

theorem ofPath_type (path : List Char) : ofPath .type path =
    ⟨.type, .ofList path, none, none, enclosingName (.ofList path)⟩ := by
  simp [ofPath]

theorem ofPath_undotted (other : kind ≠ .type) (bare : '(' ∉ owner) (undotted : '.' ∉ owner)
    (opens : Opens signature) : ofPath kind (owner ++ signature.getD []) =
      ⟨kind, .ofList owner, none, signature.map .ofList, enclosingName (.ofList owner)⟩ := by
  simp only [ofPath, if_neg other, cutParameters_append bare opens,
    cutLast?_eq_none_iff.mpr undotted, Option.map_none]

theorem ofPath_dotted (other : kind ≠ .type) (bare : '(' ∉ owner ++ '.' :: member)
    (last : '.' ∉ member) (opens : Opens signature) :
    ofPath kind ((owner ++ '.' :: member) ++ signature.getD []) =
      ⟨kind, .ofList owner, some (.ofList member), signature.map .ofList,
        enclosingName (.ofList owner)⟩ := by
  simp only [ofPath, if_neg other, cutParameters_append bare opens, cutLast?_append owner last,
    Option.map_some]

/-- How a path is made up that is not a type's. -/
inductive PathShape : List Char → Prop
  | undotted {owner : List Char} {signature : Option (List Char)} (bare : '(' ∉ owner)
      (undotted : '.' ∉ owner) (opens : Opens signature) : PathShape (owner ++ signature.getD [])
  | dotted {owner member : List Char} {signature : Option (List Char)}
      (bare : '(' ∉ owner ++ '.' :: member) (last : '.' ∉ member) (opens : Opens signature) :
      PathShape ((owner ++ '.' :: member) ++ signature.getD [])

theorem pathShape (path : List Char) : PathShape path := by
  cases cut : cutParameters path with | mk base signature =>
  obtain ⟨rfl, bare, opens⟩ := eq_of_cutParameters cut
  cases last : cutLast? '.' base with
  | none => exact .undotted bare (cutLast?_eq_none_iff.mp last) opens
  | some sides =>
    obtain ⟨rfl, absent⟩ := eq_of_cutLast? last
    exact .dotted bare absent opens

/-! ## What is read -/

theorem pathText_ofPath (kind : Kind) (path : List Char) :
    (pathText (ofPath kind path)).toList = path := by
  by_cases type : kind = .type
  · subst type
    simp [ofPath_type, pathText]
  · cases pathShape path with
    | @undotted owner signature bare undotted opens =>
      rw [ofPath_undotted type bare undotted opens]
      cases signature <;> simp [pathText]
    | @dotted owner member signature bare last opens =>
      rw [ofPath_dotted type bare last opens]
      cases signature <;> simp [pathText]

private theorem opensList_of_opens (opens : Opens signature) :
    ∀ written, signature.map String.ofList = some written → OpensList written := by
  intro written given
  obtain ⟨list, held, rfl⟩ := Option.map_eq_some_iff.mp given
  simpa [OpensList] using opens list held

theorem ofPath_wellFormed (kind : Kind) (path : List Char) : WellFormed (ofPath kind path) := by
  by_cases type : kind = .type
  · subst type
    rw [ofPath_type]
    exact ⟨by simp, by simp, by simp, by simp, by simp, segmented_parts _⟩
  · cases pathShape path with
    | undotted bare undotted opens =>
      rw [ofPath_undotted type bare undotted opens]
      exact ⟨by simp [type], by simpa using fun _ => bare, by simpa using fun _ => undotted,
        by simp, opensList_of_opens opens, segmented_parts _⟩
    | dotted bare last opens =>
      rw [ofPath_dotted type bare last opens]
      simp only [List.mem_append, List.mem_cons, not_or] at bare
      exact ⟨by simp [type], by simpa using fun _ => bare.1, by simp,
        by simpa using ⟨bare.2.2, last⟩, opensList_of_opens opens, segmented_parts _⟩

/-- What stands in front of the signature is what stands in front of the first parenthesis. -/
theorem takeWhile_unopened (bare : '(' ∉ base) (opens : Opens signature) :
    (base ++ signature.getD []).takeWhile (· ≠ '(') = base := by
  have passed : ∀ c ∈ base, decide (c ≠ '(') = true := by
    intro c held
    exact decide_eq_true fun same => bare (same ▸ held)
  rw [List.takeWhile_append_of_pos passed]
  cases signature with
  | none => simp
  | some list =>
    obtain ⟨rest, rfl⟩ := List.head?_eq_some_iff.mp (opens list rfl)
    simp

/-- The member is missing just if the path has no dot in front of its first parenthesis. -/
theorem member_ofPath_eq_none_iff (other : kind ≠ .type) (path : List Char) :
    (ofPath kind path).member = none ↔ '.' ∉ path.takeWhile (· ≠ '(') := by
  cases pathShape path with
  | undotted bare undotted opens =>
    rw [ofPath_undotted other bare undotted opens, takeWhile_unopened bare opens]
    simpa using undotted
  | dotted bare last opens =>
    rw [ofPath_dotted other bare last opens, takeWhile_unopened bare opens]
    simp

/-! ## What is written -/

/-- A well-formed identifier is the one that its kind and its path give. -/
theorem ofPath_pathText (formed : WellFormed id) : ofPath id.kind (pathText id).toList = id := by
  obtain ⟨kind, owner, member, signature, namespaceName⟩ := id
  have enclosing := enclosing_of_segmented formed.segmented
  have opens : Opens (signature.map String.toList) := by
    intro list given
    obtain ⟨written, held, rfl⟩ := Option.map_eq_some_iff.mp given
    exact formed.opensList written held
  have written : (signature.map String.toList).map String.ofList = signature := by
    cases signature <;> simp
  have tail : (signature.getD "").toList = (signature.map String.toList).getD [] := by
    cases signature <;> simp
  simp only at enclosing
  subst enclosing
  by_cases type : kind = .type
  · subst type
    obtain ⟨rfl, rfl⟩ := formed.whole rfl
    simp [pathText, ofPath_type]
  · cases member with
    | none =>
      have read := ofPath_undotted type (formed.bareOwner type) (formed.undotted type rfl) opens
      rw [written] at read
      simpa [pathText, tail] using read
    | some member =>
      obtain ⟨bare, last⟩ := formed.bareMember member rfl
      have bareBase : '(' ∉ owner.toList ++ '.' :: member.toList := by
        simpa [bare] using formed.bareOwner type
      have read := ofPath_dotted type bareBase last opens
      rw [written] at read
      simpa [pathText, tail] using read

theorem parse_eq_some_iff : parse? raw = some id ↔ ∃ code path,
    raw.toList = code ++ ':' :: path ∧ ':' ∉ code ∧ ':' ∉ path ∧
      id = ofPath (.ofCode (.ofList code)) path := by
  constructor
  · intro parsed
    unfold parse? at parsed
    split at parsed
    · cases parsed
    · rename_i code path cut
      obtain ⟨whole, absent⟩ := eq_of_cutFirst? cut
      simp only [List.contains_eq_mem, Option.ite_none_left_eq_some,
        decide_eq_true_eq, Option.some.injEq] at parsed
      exact ⟨code, path, whole, absent, parsed.1, parsed.2.symm⟩
  · rintro ⟨code, path, whole, absent, alone, rfl⟩
    simp [parse?, whole, cutFirst?_append absent, alone]

/-! ## Reading against writing -/

theorem code_ofCode (code : String) : (Kind.ofCode code).code = code := by
  unfold Kind.ofCode
  split <;> rfl

theorem ofPath_kind (kind : Kind) (path : List Char) : (ofPath kind path).kind = kind := by
  by_cases type : kind = .type
  · subst type
    rw [ofPath_type]
  · cases pathShape path with
    | undotted bare undotted opens => rw [ofPath_undotted type bare undotted opens]
    | dotted bare last opens => rw [ofPath_dotted type bare last opens]

theorem colonFree_iff (id : Identifier) :
    ColonFree id ↔ ':' ∉ id.kind.code.toList ∧ ':' ∉ (pathText id).toList := by
  obtain ⟨kind, owner, member, signature, namespaceName⟩ := id
  have parts : ':' ∉ (pathText ⟨kind, owner, member, signature, namespaceName⟩).toList ↔
      ':' ∉ owner.toList ∧ (∀ text, member = some text → ':' ∉ text.toList) ∧
        ∀ list, signature = some list → ':' ∉ list.toList := by
    cases member <;> cases signature <;> simp [pathText, not_or]
  rw [parts]
  exact ⟨fun free => ⟨free.code, free.owner, free.member, free.signature⟩,
    fun ⟨code, owner, member, signature⟩ => ⟨code, owner, member, signature⟩⟩

theorem toList_spelling (id : Identifier) :
    (spelling id).toList = id.kind.code.toList ++ ':' :: (pathText id).toList := by
  simp [spelling]

/-- An identifier is read from its spelling and from nothing else. -/
theorem parse_eq_some_iff_spelling : parse? raw = some id ↔
    WellFormed id ∧ IsCanonical id.kind ∧ ColonFree id ∧ spelling id = raw := by
  rw [parse_eq_some_iff]
  constructor
  · rintro ⟨code, path, whole, absent, alone, rfl⟩
    have kind := ofPath_kind (.ofCode (.ofList code)) path
    refine ⟨ofPath_wellFormed _ _, ?_, ?_, ?_⟩
    · rw [IsCanonical, kind, code_ofCode]
    · rw [colonFree_iff, kind, code_ofCode, pathText_ofPath, String.toList_ofList]
      exact ⟨absent, alone⟩
    · rw [← String.toList_inj, toList_spelling, kind, code_ofCode, pathText_ofPath,
        String.toList_ofList, whole]
  · rintro ⟨formed, canonical, free, rfl⟩
    obtain ⟨absent, alone⟩ := (colonFree_iff id).mp free
    refine ⟨_, _, toList_spelling id, absent, alone, ?_⟩
    rw [String.ofList_toList, canonical, ofPath_pathText formed]

theorem isSome_parse_iff (raw : String) : (parse? raw).isSome ↔ raw.toList.count ':' = 1 := by
  rw [Option.isSome_iff_exists]
  simp only [parse_eq_some_iff]
  constructor
  · rintro ⟨_, code, path, whole, absent, alone, _⟩
    rw [whole, List.count_append, List.count_cons_self, List.count_eq_zero.mpr absent,
      List.count_eq_zero.mpr alone]
  · intro one
    have held : ':' ∈ raw.toList := List.count_pos_iff.mp (by omega)
    obtain ⟨code, path, whole, absent⟩ := List.eq_append_cons_of_mem held
    rw [whole, List.count_append, List.count_cons_self, List.count_eq_zero.mpr absent] at one
    have alone : ':' ∉ path := List.count_eq_zero.mp (by omega)
    exact ⟨_, code, path, whole, absent, alone, rfl⟩

/-- A member is missing just if there is no dot between the colon and the first parenthesis. -/
theorem member_eq_none_iff (parsed : parse? raw = some id) (other : id.kind ≠ .type) :
    id.member = none ↔ '.' ∉ memberPath raw := by
  obtain ⟨code, path, whole, absent, _, rfl⟩ := parse_eq_some_iff.mp parsed
  have passed : ∀ c ∈ code, decide (c ≠ ':') = true := by
    intro c held
    exact decide_eq_true fun same => absent (same ▸ held)
  have behind : memberPath raw = path.takeWhile (· ≠ '(') := by
    rw [memberPath, whole, List.dropWhile_append_of_pos passed]
    simp
  rw [ofPath_kind] at other
  rw [behind, member_ofPath_eq_none_iff other]

/-- With another signature in its place, the same is read of all that stands before it. -/
theorem parse_with_signature (parsed : parse? raw = some id) (other : id.kind ≠ .type)
    {signature : Option String}
    (opens : ∀ list, signature = some list → OpensList list ∧ ':' ∉ list.toList) :
    parse? (spelling { id with signature }) = some { id with signature } := by
  obtain ⟨formed, canonical, free, _⟩ := parse_eq_some_iff_spelling.mp parsed
  apply parse_eq_some_iff_spelling.mpr
  refine ⟨?_, canonical, ?_, rfl⟩
  · exact ⟨fun type => absurd type other, formed.bareOwner, formed.undotted, formed.bareMember,
      fun list given => (opens list given).1, formed.segmented⟩
  · exact ⟨free.code, free.owner, free.member, fun list given => (opens list given).2⟩

/-- Texts with exactly one colon are read, and reading and writing are inverse to each other between
them and the well-formed identifiers. Whether there is a member is decided in front of the first
parenthesis, and nothing depends on the signature but itself. -/
theorem identifiers_match_their_spelling (raw : String) :
    ((parse? raw).isSome ↔ raw.toList.count ':' = 1) ∧
    (∀ id, parse? raw = some id ↔
      WellFormed id ∧ IsCanonical id.kind ∧ ColonFree id ∧ spelling id = raw) ∧
    ∀ id, parse? raw = some id → id.kind ≠ .type →
      (id.member = none ↔ '.' ∉ memberPath raw) ∧
      ∀ signature : Option String,
        (∀ list, signature = some list → OpensList list ∧ ':' ∉ list.toList) →
        parse? (spelling { id with signature }) = some { id with signature } :=
  ⟨isSome_parse_iff raw, fun _ => parse_eq_some_iff_spelling, fun _ parsed other =>
    ⟨member_eq_none_iff parsed other, fun _ opens => parse_with_signature parsed other opens⟩⟩

/-- A conversion, whose signature has dots and a second type behind its list, read with another
signature that has a list inside the list. -/
theorem conversion_is_read_apart_from_its_signature :
    let raw := "M:N.Money.op_Implicit(N.Money)~System.Int32"
    let id : Identifier :=
      ⟨.method, "N.Money", some "op_Implicit", some "(N.Money)~System.Int32", "N"⟩
    parse? raw = some id ∧ id.kind ≠ .type ∧ id.member ≠ none ∧ '.' ∈ memberPath raw ∧
      parse? "M:N.Money.op_Implicit(N.F(.()" = some { id with signature := some "(N.F(.()" } := by
  intro raw id
  have parsed : parse? raw = some id := by decide +kernel
  have other : id.kind ≠ .type := by decide
  obtain ⟨_, _, parts⟩ := identifiers_match_their_spelling raw
  obtain ⟨missing, respelled⟩ := parts id parsed other
  have member : id.member ≠ none := by simp [id]
  refine ⟨parsed, other, member, ?_, ?_⟩
  · exact Decidable.not_not.mp fun undotted => member (missing.mpr undotted)
  · refine respelled (some "(N.F(.()") fun list given => ?_
    cases given
    exact ⟨rfl, by decide⟩

end DocPages.IdentifierSpelling
