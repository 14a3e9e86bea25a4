import DocPages.Members.Label
import DocPages.Proofs.IdentifierSpelling

/-! The label of a cross-reference is the name of what its target identifies. The label is cut out
of the target without reading it as an identifier, at the first colon, the first parenthesis and the
last dot, and the two ways of cutting agree on every target that is an identifier at all. -/
namespace DocPages.ReferenceLabels
open Identifier IdentifierSpelling Members Text

variable {target raw : String} {id : Identifier} {kind : Kind} {code path base member : List Char}

/-- The part of the path of a target that its label is taken from. -/
theorem targetLabel_of_path (whole : target.toList = code ++ ':' :: path) (absent : ':' ∉ code) :
    targetLabel target = simpleName (.ofList (cutParameters path).1) := by
  simp [targetLabel, whole, cutFirst?_append absent]

/-- A parameter list is cut off at the first parenthesis. -/
theorem base_of_path (path : List Char) : (cutParameters path).1 = path.takeWhile (· ≠ '(') := by
  cases cut : cutParameters path with | mk base signature =>
  obtain ⟨rfl, bare, opens⟩ := eq_of_cutParameters cut
  exact (takeWhile_unopened bare opens).symm

theorem simpleName_undotted (undotted : '.' ∉ base) : simpleName (.ofList base) = .ofList base := by
  simp [simpleName, cutLast?_eq_none_iff.mpr undotted]

theorem simpleName_dotted (base : List Char) (last : '.' ∉ member) :
    simpleName (.ofList (base ++ '.' :: member)) = .ofList member := by
  simp [simpleName, cutLast?_append base last]

/-- The last segment of a path that is not a type's is its member, or all of its owner. -/
theorem simpleName_of_path (other : kind ≠ .type) (path : List Char) :
    simpleName (.ofList (cutParameters path).1) =
      (ofPath kind path).member.getD (ofPath kind path).owner := by
  cases pathShape path with
  | undotted bare undotted opens =>
    rw [cutParameters_append bare opens, ofPath_undotted other bare undotted opens,
      simpleName_undotted undotted]
    rfl
  | dotted bare last opens =>
    rw [cutParameters_append bare opens, ofPath_dotted other bare last opens,
      simpleName_dotted _ last]
    rfl

/-- The name of what an identifier names: a member's own one, or its owner's when the path has no
dot, and of a type the last segment before any parenthesis. -/
def displayName (id : Identifier) : String :=
  if id.kind = .type then simpleName (.ofList (id.owner.toList.takeWhile (· ≠ '(')))
  else id.member.getD id.owner

theorem targetLabel_of_parsed (parsed : parse? target = some id) :
    targetLabel target = displayName id := by
  obtain ⟨code, path, whole, absent, _, rfl⟩ := parse_eq_some_iff.mp parsed
  rw [targetLabel_of_path whole absent, displayName, ofPath_kind]
  split
  · rename_i type
    rw [type, ofPath_type, base_of_path, String.toList_ofList]
  · rename_i other
    exact simpleName_of_path other path

theorem displayName_of_bare_type (type : id.kind = .type) (bare : '(' ∉ id.owner.toList) :
    displayName id = id.simpleName := by
  have unsigned : Opens none := by simp [Opens]
  have whole : id.owner.toList.takeWhile (· ≠ '(') = id.owner.toList := by
    simpa using takeWhile_unopened bare unsigned
  rw [displayName, if_pos type, whole, String.ofList_toList, Identifier.simpleName]

theorem label_of_target {tag : Xml.Tag}
    (refers : tag.localName ∈ ["see", "seealso", "paramref", "typeparamref"])
    (given : tag.attribute? "cref" = some target) : label? tag = some (targetLabel target) := by
  have listed : tag.localName ∈ referringElements := refers
  simp [label?, listed, given]

/-- A referring element whose target is an identifier is labelled with the name of what that
identifies, and no signature behind the name makes a difference to the label. -/
theorem labels_name_their_targets (tag : Xml.Tag) (target : String)
    (refers : tag.localName ∈ ["see", "seealso", "paramref", "typeparamref"])
    (given : tag.attribute? "cref" = some target) (one : target.toList.count ':' = 1) :
    ∃ id, parse? target = some id ∧ label? tag = some (displayName id) ∧
      (id.kind ≠ .type → label? tag = some (id.member.getD id.owner) ∧
        ∀ (other : Xml.Tag) (signature : Option String),
          (∀ list, signature = some list → OpensList list ∧ ':' ∉ list.toList) →
          other.localName ∈ ["see", "seealso", "paramref", "typeparamref"] →
          other.attribute? "cref" = some (spelling { id with signature }) →
          label? other = label? tag) ∧
      (id.kind = .type → '(' ∉ id.owner.toList → label? tag = some id.simpleName) := by
  obtain ⟨id, parsed⟩ := Option.isSome_iff_exists.mp ((isSome_parse_iff target).mpr one)
  have labelled : label? tag = some (displayName id) := by
    rw [label_of_target refers given, targetLabel_of_parsed parsed]
  refine ⟨id, parsed, labelled, ?_, ?_⟩
  · intro member
    have named : displayName id = id.member.getD id.owner := if_neg member
    refine ⟨named ▸ labelled, ?_⟩
    intro other signature opens otherRefers otherGiven
    have respelled := parse_with_signature parsed member opens
    rw [label_of_target otherRefers otherGiven, targetLabel_of_parsed respelled, labelled]
    rfl
  · intro type bare
    rw [labelled, displayName_of_bare_type type bare]

/-- References to a conversion and to a type in its namespace, of which the first has dots behind
its last parenthesis. -/
theorem money_references_are_labelled :
    let conversion : Xml.Tag :=
      ⟨"see", [⟨"cref", "M:N.Money.op_Implicit(N.Money)~System.Int32"⟩]⟩
    let type : Xml.Tag := ⟨"x:seealso", [⟨"langword", "null"⟩, ⟨"cref", "T:N.Money"⟩]⟩
    label? conversion = some "op_Implicit" ∧ label? type = some "Money" := by
  intro conversion type
  obtain ⟨id, parsed, _, ofMember, _⟩ := labels_name_their_targets conversion
    "M:N.Money.op_Implicit(N.Money)~System.Int32" (by decide +kernel) (by decide +kernel)
    (by decide +kernel)
  have read : parse? "M:N.Money.op_Implicit(N.Money)~System.Int32" =
      some ⟨.method, "N.Money", some "op_Implicit", some "(N.Money)~System.Int32", "N"⟩ := by
    decide +kernel
  cases read.symm.trans parsed
  obtain ⟨owner, parsedOwner, _, _, ofType⟩ := labels_name_their_targets type "T:N.Money"
    (by decide +kernel) (by decide +kernel) (by decide +kernel)
  have readOwner : parse? "T:N.Money" = some ⟨.type, "N.Money", none, none, "N"⟩ := by
    decide +kernel
  cases readOwner.symm.trans parsedOwner
  refine ⟨(ofMember (by decide)).1, ?_⟩
  rw [ofType rfl (by decide)]
  decide +kernel

end DocPages.ReferenceLabels
