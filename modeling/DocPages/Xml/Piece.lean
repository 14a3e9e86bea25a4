import DocPages.Xml.Attributes

/-!
Cutting a text into the pieces of a document. A piece is a run of plain text, a reference, or
markup from `<` to the `>` that ends it, and which `>` that is depends on the kind of markup. The
cut loses nothing: a piece and what follows it make up the text.
-/

namespace DocPages.Xml

/-- What the beginning of a text holds. -/
inductive Piece where
  | done
  | found (event : Event) (lexeme rest : List Char)
  /-- Reading ends with a fault behind `lexeme`. -/
  | broken (fault : Fault) (lexeme : List Char)

/-- The text before the first `>` at which `ends` holds of the state, and the text behind it. The
state takes in every character that is passed. -/
def cutAtEnd? {State : Type} (take : State → Char → State) (ends : State → Bool) :
    State → List Char → Option (List Char × List Char)
  | _, [] => none
  | state, c :: rest =>
    if c == '>' && ends state then some ([], rest)
    else (cutAtEnd? take ends (take state c) rest).map fun (content, rest) => (c :: content, rest)

theorem eq_of_cutAtEnd? {State : Type} {take : State → Char → State} {ends : State → Bool}
    {state : State} {s content rest : List Char}
    (cut : cutAtEnd? take ends state s = some (content, rest)) : s = content ++ '>' :: rest := by
  induction s generalizing state content with
  | nil => simp [cutAtEnd?] at cut
  | cons c tail ih =>
    unfold cutAtEnd? at cut
    split at cut
    · simp_all
    · obtain ⟨⟨inner, after⟩, found, same⟩ := Option.map_eq_some_iff.1 cut
      simp only [Prod.mk.injEq] at same
      obtain ⟨rfl, rfl⟩ := same
      simp [ih found]

/-- A tag ends at a `>` outside quotes. The state is the quote that is open. -/
def cutTag? (s : List Char) : Option (List Char × List Char) :=
  let take (quote? : Option Char) (c : Char) : Option Char :=
    match quote? with
    | none => if c = '"' ∨ c = '\'' then some c else none
    | some quote => if c = quote then none else some quote
  cutAtEnd? take Option.isNone none s

/-- Character data ends at a `>` behind two closing brackets, which the state counts. -/
def cutCData? (s : List Char) : Option (List Char × List Char) :=
  let take (brackets : Nat) (c : Char) : Nat := if c = ']' then brackets + 1 else 0
  cutAtEnd? take (2 ≤ ·) 0 s

/-- A comment ends at a `>` behind two hyphens, none of which opens the comment: five characters
at least stand between its `<` and that `>`. The state counts hyphens and characters. -/
def cutComment? (s : List Char) : Option (List Char × List Char) :=
  let take (state : Nat × Nat) (c : Char) : Nat × Nat :=
    (if c = '-' then state.1 + 1 else 0, state.2 + 1)
  cutAtEnd? take (fun (hyphens, passed) => 2 ≤ hyphens && 5 ≤ passed) (0, 1) s

/-- A document type ends at the `>` that no inner `<` claims. The state counts the claims. -/
def cutDoctype? (s : List Char) : Option (List Char × List Char) :=
  let take (claims : Nat) (c : Char) : Nat :=
    if c = '<' then claims + 1 else if c = '>' then claims - 1 else claims
  cutAtEnd? take (· == 0) 0 s

/-- An instruction ends at a `>` behind a question mark, for which the opening one will do. -/
def cutInstruction? (s : List Char) : Option (List Char × List Char) :=
  let take (_ : Bool) (c : Char) : Bool := c == '?'
  cutAtEnd? take (fun asked => asked) true s

def cdataEvent (content : List Char) : Except Fault Event :=
  if "[CDATA[".toList.isPrefixOf content then
    .ok (.cdata (.ofList ((content.drop 7).take (content.length - 9))))
  else .error .unclosedCData

def commentEvent (content : List Char) : Except Fault Event :=
  if "--".toList.isPrefixOf content then .ok .aside else .error .unclosedComment

def doctypeEvent (content : List Char) : Except Fault Event :=
  if (content.take 7).map Char.toUpper ≠ "DOCTYPE".toList then .error .unclosedDoctype
  else if (content.drop 7).all isSpace then .error .namelessDoctype
  else .ok .aside

def instructionEvent (content : List Char) : Except Fault Event :=
  if content.isEmpty then .error .unclosedInstruction else .ok .aside

/-- Space behind the name of a closing tag is no part of it, but a tag that holds nothing but space
has that for its name. -/
def closeEvent (content : List Char) : Event :=
  if content.all isSpace then .close (.ofList content)
  else .close (.ofList (content.reverse.dropWhile isSpace).reverse)

/-- A tag whose content ends with a slash is an element of its own. -/
def openEvent (content : List Char) : Event :=
  if content.getLast? = some '/' then .empty (.ofContent content.dropLast)
  else .start (.ofContent content)

/-- Markup that begins with `opening`: `cut` finds its end in what follows, and `meaning` says what
stands in between. -/
def scanMarkup (opening after : List Char) (cut : List Char → Option (List Char × List Char))
    (unclosed : Fault) (meaning : List Char → Except Fault Event) : Piece :=
  match cut after with
  | none => .broken unclosed (opening ++ after)
  | some (content, rest) =>
    let lexeme := opening ++ content ++ ['>']
    match meaning content with
    | .error fault => .broken fault lexeme
    | .ok event => .found event lexeme rest

/-- Markup that begins with `<!`. -/
def scanDeclaration (after : List Char) : Piece :=
  match after.head? with
  | some '[' => scanMarkup ['<', '!'] after cutCData? .unclosedCData cdataEvent
  | some '-' => scanMarkup ['<', '!'] after cutComment? .unclosedComment commentEvent
  | some 'D' | some 'd' => scanMarkup ['<', '!'] after cutDoctype? .unclosedDoctype doctypeEvent
  | _ => .broken .unknownMarkup ['<']

/-- A reference ends at a `;` that comes before the next `&` or `<`. -/
def scanReference (after : List Char) : Piece :=
  let name := after.takeWhile fun c => c != ';' && c != '&' && c != '<'
  match after.dropWhile fun c => c != ';' && c != '&' && c != '<' with
  | ';' :: rest => .found (.reference (.ofList name)) ('&' :: name ++ [';']) rest
  | _ => .broken .unclosedReference ('&' :: name)

def isPlain (c : Char) : Bool :=
  c != '<' && c != '&'

def Piece.scan (s : List Char) : Piece :=
  match s with
  | [] => .done
  | '<' :: [] => .broken .unclosedTag ['<']
  | '<' :: '!' :: after => scanDeclaration after
  | '<' :: '?' :: after =>
    scanMarkup ['<', '?'] after cutInstruction? .unclosedInstruction instructionEvent
  | '<' :: '/' :: after => scanMarkup ['<', '/'] after cutTag? .unclosedTag (.ok ∘ closeEvent)
  | '<' :: after => scanMarkup ['<'] after cutTag? .unclosedTag (.ok ∘ openEvent)
  | '&' :: after => scanReference after
  | c :: after =>
    .found (.text (.ofList (c :: after.takeWhile isPlain))) (c :: after.takeWhile isPlain)
      (after.dropWhile isPlain)

private theorem eq_of_scanMarkup {opening after lexeme rest : List Char}
    {cut : List Char → Option (List Char × List Char)} {unclosed : Fault}
    {meaning : List Char → Except Fault Event} {event : Event}
    (exact : ∀ content rest, cut after = some (content, rest) → after = content ++ '>' :: rest)
    (scanned : scanMarkup opening after cut unclosed meaning = .found event lexeme rest) :
    opening ++ after = lexeme ++ rest := by
  unfold scanMarkup at scanned
  split at scanned
  · simp at scanned
  · rename_i content behind found
    simp only at scanned
    split at scanned
    · simp at scanned
    · simp only [Piece.found.injEq] at scanned
      obtain ⟨rfl, rfl, rfl⟩ := scanned
      simp [exact _ _ found]

private theorem eq_of_scanDeclaration {after lexeme rest : List Char} {event : Event}
    (scanned : scanDeclaration after = .found event lexeme rest) :
    '<' :: '!' :: after = lexeme ++ rest := by
  unfold scanDeclaration at scanned
  split at scanned
  · exact eq_of_scanMarkup (fun _ _ => eq_of_cutAtEnd?) scanned
  · exact eq_of_scanMarkup (fun _ _ => eq_of_cutAtEnd?) scanned
  · exact eq_of_scanMarkup (fun _ _ => eq_of_cutAtEnd?) scanned
  · exact eq_of_scanMarkup (fun _ _ => eq_of_cutAtEnd?) scanned
  · simp at scanned

private theorem eq_of_scanReference {after lexeme rest : List Char} {event : Event}
    (scanned : scanReference after = .found event lexeme rest) :
    '&' :: after = lexeme ++ rest := by
  unfold scanReference at scanned
  simp only at scanned
  split at scanned
  · rename_i behind reached
    simp only [Piece.found.injEq] at scanned
    obtain ⟨_, rfl, rfl⟩ := scanned
    have whole := List.takeWhile_append_dropWhile
      (p := fun c : Char => c != ';' && c != '&' && c != '<') (l := after)
    rw [reached] at whole
    simp [whole]
  · simp at scanned

/-- A piece and what follows it make up the text. -/
theorem eq_of_scan {s lexeme rest : List Char} {event : Event}
    (scanned : Piece.scan s = .found event lexeme rest) : s = lexeme ++ rest := by
  unfold Piece.scan at scanned
  split at scanned
  · simp at scanned
  · simp at scanned
  · exact eq_of_scanDeclaration scanned
  · exact eq_of_scanMarkup (fun _ _ => eq_of_cutAtEnd?) scanned
  · exact eq_of_scanMarkup (fun _ _ => eq_of_cutAtEnd?) scanned
  · exact eq_of_scanMarkup (fun _ _ => eq_of_cutAtEnd?) scanned
  · exact eq_of_scanReference scanned
  · simp only [Piece.found.injEq] at scanned
    obtain ⟨_, rfl, rfl⟩ := scanned
    simp [List.takeWhile_append_dropWhile]

private theorem lexeme_ne_nil_of_scanMarkup {opening after lexeme rest : List Char}
    {cut : List Char → Option (List Char × List Char)} {unclosed : Fault}
    {meaning : List Char → Except Fault Event} {event : Event}
    (scanned : scanMarkup opening after cut unclosed meaning = .found event lexeme rest) :
    lexeme ≠ [] := by
  unfold scanMarkup at scanned
  split at scanned
  · simp at scanned
  · simp only at scanned
    split at scanned
    · simp at scanned
    · simp only [Piece.found.injEq] at scanned
      obtain ⟨_, rfl, _⟩ := scanned
      simp

theorem lexeme_ne_nil_of_scan {s lexeme rest : List Char} {event : Event}
    (scanned : Piece.scan s = .found event lexeme rest) : lexeme ≠ [] := by
  unfold Piece.scan at scanned
  split at scanned
  · simp at scanned
  · simp at scanned
  · unfold scanDeclaration at scanned
    split at scanned
    · exact lexeme_ne_nil_of_scanMarkup scanned
    · exact lexeme_ne_nil_of_scanMarkup scanned
    · exact lexeme_ne_nil_of_scanMarkup scanned
    · exact lexeme_ne_nil_of_scanMarkup scanned
    · simp at scanned
  · exact lexeme_ne_nil_of_scanMarkup scanned
  · exact lexeme_ne_nil_of_scanMarkup scanned
  · exact lexeme_ne_nil_of_scanMarkup scanned
  · unfold scanReference at scanned
    simp only at scanned
    split at scanned
    · simp only [Piece.found.injEq] at scanned
      obtain ⟨_, rfl, _⟩ := scanned
      simp
    · simp at scanned
  · simp only [Piece.found.injEq] at scanned
    obtain ⟨_, rfl, _⟩ := scanned
    simp

theorem length_of_scan {s lexeme rest : List Char} {event : Event}
    (scanned : Piece.scan s = .found event lexeme rest) : rest.length < s.length := by
  have nonempty := List.length_pos_iff.2 (lexeme_ne_nil_of_scan scanned)
  have parts := congrArg List.length (eq_of_scan scanned)
  rw [List.length_append] at parts
  omega

end DocPages.Xml
