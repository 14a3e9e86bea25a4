import DocPages.Xml.Event

/-!
The attributes of a tag. What is not an attribute is passed over without complaint, and reading
goes on where the next one may start; only a value whose closing quote is missing ends it. A name
counts once: when it comes again, everything up to the next space is passed over, even if that
space stands between quotes.
-/

namespace DocPages.Xml

/-- What a single attempt to read an attribute leaves behind. -/
structure AttributeScan where
  /-- The names that may not be used again. -/
  used : List (List Char)
  found : Option Attribute
  rest : List Char

def skipSpaces (s : List Char) : List Char :=
  s.dropWhile isSpace

def skipToSpace (s : List Char) : List Char :=
  s.dropWhile fun c => !isSpace c

/-- Whether `c` can stand in an attribute's name behind its first character, which is any. -/
def continuesName (c : Char) : Bool :=
  c != '=' && !isSpace c

/-- Reads what stands behind the `=` of the name: a quoted value makes an attribute of it. -/
def scanValue (used : List (List Char)) (name : List Char) (s : List Char) :
    Option AttributeScan :=
  match skipSpaces s with
  | [] => none
  | quote :: body =>
    if quote = '"' ∨ quote = '\'' then
      (Text.cutFirst? quote body).map fun (value, rest) =>
        { used := name :: used, found := some ⟨.ofList name, .ofList value⟩, rest }
    else some { used := name :: used, found := none, rest := skipToSpace body }

/-- One attempt to read an attribute; there is no result when nothing is left to read. -/
def scanAttribute (used : List (List Char)) (s : List Char) : Option AttributeScan :=
  match skipSpaces s with
  | [] => none
  | first :: more =>
    let name := first :: more.takeWhile continuesName
    match skipSpaces (more.dropWhile continuesName) with
    | [] => none
    | next :: rest =>
      if next ≠ '=' then some { used, found := none, rest := next :: rest }
      else if used.contains name then some { used, found := none, rest := skipToSpace rest }
      else scanValue used name rest

private theorem length_dropWhile_le (p : Char → Bool) (s : List Char) :
    (s.dropWhile p).length ≤ s.length :=
  (List.dropWhile_suffix p).length_le

private theorem length_skipSpaces_of_eq {s rest : List Char} {c : Char}
    (skipped : skipSpaces s = c :: rest) : rest.length < s.length := by
  have bound := length_dropWhile_le isSpace s
  unfold skipSpaces at skipped
  rw [skipped, List.length_cons] at bound
  omega

private theorem length_of_scanValue {used : List (List Char)} {name s : List Char}
    {scan : AttributeScan} (scanned : scanValue used name s = some scan) :
    scan.rest.length < s.length := by
  unfold scanValue at scanned
  split at scanned
  · simp at scanned
  · rename_i quote body skipped
    have shorter := length_skipSpaces_of_eq skipped
    split at scanned
    · obtain ⟨⟨value, rest⟩, cut, rfl⟩ := Option.map_eq_some_iff.1 scanned
      have parts := congrArg List.length (Text.eq_of_cutFirst? cut).1
      simp only [List.length_append, List.length_cons] at parts
      simp only
      omega
    · have passed := length_dropWhile_le (fun c => !isSpace c) body
      simp only [Option.some.injEq] at scanned
      subst scanned
      simp only [skipToSpace]
      omega

/-- Every attempt gets on. -/
theorem length_of_scanAttribute {used : List (List Char)} {s : List Char} {scan : AttributeScan}
    (scanned : scanAttribute used s = some scan) : scan.rest.length < s.length := by
  unfold scanAttribute at scanned
  split at scanned
  · simp at scanned
  · rename_i first more skipped
    have shorter := length_skipSpaces_of_eq skipped
    have named := length_dropWhile_le continuesName more
    simp only at scanned
    split at scanned
    · simp at scanned
    · rename_i next rest reached
      have further := length_skipSpaces_of_eq reached
      split at scanned
      · simp only [Option.some.injEq] at scanned
        subst scanned
        simp only [List.length_cons]
        omega
      · split at scanned
        · have passed := length_dropWhile_le (fun c => !isSpace c) rest
          simp only [Option.some.injEq] at scanned
          subst scanned
          simp only [skipToSpace]
          omega
        · have := length_of_scanValue scanned
          omega

/-- The attributes written in `s`, apart from those whose names have been used before. -/
def attributesFrom (used : List (List Char)) (s : List Char) : List Attribute :=
  match scanned : scanAttribute used s with
  | none => []
  | some scan =>
    have := length_of_scanAttribute scanned
    scan.found.toList ++ attributesFrom scan.used scan.rest
termination_by s.length

/-- The tag with this content: a name up to the first space, and attributes. -/
def Tag.ofContent (content : List Char) : Tag where
  name := .ofList (content.takeWhile fun c => !isSpace c)
  attributes := attributesFrom [] (skipToSpace content)

end DocPages.Xml
