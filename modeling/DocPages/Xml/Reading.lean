import DocPages.Xml.Piece

/-!
Reading a whole document. The text is cut into pieces one after the other; then the closing tags
are held against the elements that are open, and the reading ends at the first that does not fit.
The reader keeps to the nesting of tags alone: how many elements stand side by side at the top, and
whether all of them are closed in the end, is for its users to judge.
-/

namespace DocPages.Xml

/-- The number of bytes of the UTF-8 form. -/
def byteLength (s : List Char) : Nat :=
  (String.ofList s).utf8ByteSize

namespace Reading

/-- The pieces of `s`, which begins `position` bytes into the document. -/
def ofChars (position : Nat) (s : List Char) : Reading :=
  match scanned : Piece.scan s with
  | .done => ⟨[], .complete position⟩
  | .broken fault lexeme => ⟨[], .broken fault (position + byteLength lexeme)⟩
  | .found event lexeme rest =>
    have := length_of_scan scanned
    (ofChars (position + byteLength lexeme) rest).cons event (position + byteLength lexeme)
termination_by s.length

theorem ofChars_of_found {position : Nat} {s lexeme rest : List Char} {event : Event}
    (scanned : Piece.scan s = .found event lexeme rest) :
    ofChars position s =
      (ofChars (position + byteLength lexeme) rest).cons event (position + byteLength lexeme) := by
  rw [ofChars]
  split <;> simp_all

theorem ofChars_nil (position : Nat) : ofChars position [] = ⟨[], .complete position⟩ := by
  have scanned : Piece.scan [] = .done := rfl
  rw [ofChars]
  split <;> simp_all

end Reading

/-- The names of the open elements behind an event, the innermost first. -/
def nest (opened : List String) : Event → Except Fault (List String)
  | .start tag => .ok (tag.name :: opened)
  | .close name =>
    match opened with
    | [] => .error (.strayClose name)
    | innermost :: outer =>
      if innermost = name then .ok outer else .error (.mismatchedClose innermost name)
  | _ => .ok opened

namespace Reading

/-- The reading up to the first closing tag that does not fit the elements open there. -/
def nested (ending : Ending) : List String → List (Event × Nat) → Reading
  | _, [] => ⟨[], ending⟩
  | opened, (event, position) :: later =>
    match nest opened event with
    | .error fault => ⟨[], .broken fault position⟩
    | .ok opened => (nested ending opened later).cons event position

/-- The text without the byte order mark in front, which belongs to the encoding. -/
def dropByteOrderMark : List Char → List Char
  | '\ufeff' :: rest => rest
  | s => s

def ofText (s : String) : Reading :=
  let pieces := ofChars 0 (dropByteOrderMark s.toList)
  nested pieces.ending [] pieces.events

theorem nested_nests (ending : Ending) (opened : List String) (events : List (Event × Nat)) :
    ∃ names, ((nested ending opened events).events.map Prod.fst).foldlM nest opened = .ok names := by
  induction events generalizing opened with
  | nil => exact ⟨opened, rfl⟩
  | cons event later ih =>
    rw [nested]
    cases fits : nest opened event.1 with
    | error fault => exact ⟨opened, rfl⟩
    | ok next =>
      obtain ⟨names, nests⟩ := ih next
      refine ⟨names, ?_⟩
      simp only [cons, List.map_cons, List.foldlM_cons, fits]
      exact nests

/-- What is read of a text has no closing tag that does not fit the innermost open element. -/
theorem ofText_nests (s : String) :
    ∃ names, ((ofText s).events.map Prod.fst).foldlM nest [] = .ok names :=
  nested_nests _ _ _

end Reading

end DocPages.Xml
