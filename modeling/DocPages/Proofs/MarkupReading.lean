import DocPages.Proofs.Escaping
import DocPages.Proofs.TreeReading

/-! Reading written markup. A text that is made of tags and escaped texts is cut back into the
events that it was made of, whatever follows it, and a text whose tags are nested is read to its
end. Escaped texts come in several pieces, one for each character that is not written as it is. -/
namespace DocPages.MarkupReading
open Xml TreeReading Escaping

/-- Cutting `s` yields the events, and then `rest` is left. -/
inductive Cuts : List Char → List Event → List Char → Prop
  | done (s : List Char) : Cuts s [] s
  | piece (scanned : Piece.scan s = .found event lexeme middle) (cuts : Cuts middle later rest) :
      Cuts s (event :: later) rest

theorem cuts_append (first : Cuts s before middle) (second : Cuts middle after rest) :
    Cuts s (before ++ after) rest := by
  induction first with
  | done s => exact second
  | piece scanned _ ih => exact .piece scanned (ih second)

/-- The written markup is cut into the events, whatever comes behind it. -/
def Reads (written : List Char) (events : List Event) : Prop :=
  ∀ rest, Cuts (written ++ rest) events rest

theorem reads_append (first : Reads s before) (second : Reads t after) :
    Reads (s ++ t) (before ++ after) := by
  intro rest
  rw [List.append_assoc]
  exact cuts_append (first _) (second _)

theorem reads_nothing : Reads [] [] :=
  fun rest => .done rest

/-! ## Tags -/

/-- A name of the kind that documents are written with. -/
structure Word (name : List Char) : Prop where
  nonempty : name ≠ []
  allLower : name.all Char.isLower

instance (name : List Char) : Decidable (Word name) :=
  decidable_of_iff (name ≠ [] ∧ name.all Char.isLower)
    ⟨fun ⟨nonempty, allLower⟩ => ⟨nonempty, allLower⟩, fun word => ⟨word.nonempty, word.allLower⟩⟩

theorem Word.lower (word : Word name) (c : Char) (held : c ∈ name) : c.isLower :=
  List.all_eq_true.mp word.allLower c held

/-- The characters that shape a tag. -/
def shaping : List Char :=
  ['<', '>', '/', '!', '?', '=', '"', '\'', ' ', '\t', '\r', '\n']

private theorem lower_ne (lower : c.isLower) (d : Char) (shapes : d ∈ shaping) : c ≠ d := by
  have upper : shaping.all (!·.isLower) := by decide
  have unlike := List.all_eq_true.mp upper d shapes
  intro same
  simp [← same, lower] at unlike

private theorem lower_not_space (lower : c.isLower) : isSpace c = false := by
  have other := lower_ne lower
  simp [isSpace, other ' ' (by decide), other '\t' (by decide), other '\r' (by decide),
    other '\n' (by decide)]

private theorem lower_continues (lower : c.isLower) : continuesName c = true := by
  simp [continuesName, lower_ne lower '=' (by decide), lower_not_space lower]

/-- Such a name has no prefix. -/
theorem localPart_of_word (word : Word name.toList) : localPart name = name := by
  have absent : ':' ∉ name.toList := by
    intro held
    exact absurd (word.lower _ held) (by decide)
  simp [localPart, Text.cutFirst?_eq_none_iff.mpr absent]

/-- What holds no `>` is passed to the first `>` that the state lets end it. -/
theorem cutAtEnd?_of_absent {State : Type} {take : State → Char → State} {ends : State → Bool}
    (absent : '>' ∉ content) (state : State) (ended : ends (content.foldl take state)) :
    cutAtEnd? take ends state (content ++ '>' :: rest) = some (content, rest) := by
  induction content generalizing state with
  | nil => simpa [cutAtEnd?] using ended
  | cons c later ih =>
    simp only [List.mem_cons, not_or] at absent
    have passed := ih absent.2 (take state c) ended
    simp [cutAtEnd?, Ne.symm absent.1, passed]

private theorem foldl_unmoved {State : Type} {take : State → Char → State} {state : State}
    {s : List Char} (unmoved : ∀ c ∈ s, take state c = state) : s.foldl take state = state := by
  induction s with
  | nil => rfl
  | cons c later ih =>
    rw [List.foldl_cons, unmoved c (by simp)]
    exact ih fun d held => unmoved d (List.mem_cons_of_mem _ held)

theorem cutTag?_word (word : Word name) (rest : List Char) :
    cutTag? (name ++ '>' :: rest) = some (name, rest) := by
  have absent : '>' ∉ name := fun held => lower_ne (word.lower _ held) '>' (by decide) rfl
  apply cutAtEnd?_of_absent absent
  rw [foldl_unmoved]
  · rfl
  · intro c held
    have other := lower_ne (word.lower c held)
    simp [other '"' (by decide), other '\'' (by decide)]

/-- The content of a start tag with one attribute. -/
def withAttribute (name key value : List Char) : List Char :=
  name ++ ' ' :: key ++ '=' :: '"' :: value ++ ['"']

theorem cutTag?_withAttribute (word : Word name) (key : Word keyName)
    (inside : ∀ c ∈ value, c ≠ '>' ∧ c ≠ '"') (rest : List Char) :
    cutTag? (withAttribute name keyName value ++ '>' :: rest) =
      some (withAttribute name keyName value, rest) := by
  have absent : '>' ∉ withAttribute name keyName value := by
    have inName : '>' ∉ name := fun held => lower_ne (word.lower _ held) '>' (by decide) rfl
    have inKey : '>' ∉ keyName := fun held => lower_ne (key.lower _ held) '>' (by decide) rfl
    have inValue : '>' ∉ value := fun held => (inside _ held).1 rfl
    simp [withAttribute, inName, inKey, inValue]
  apply cutAtEnd?_of_absent absent
  unfold withAttribute
  simp only [List.foldl_append, List.foldl_cons, List.foldl_nil]
  rw [foldl_unmoved (s := name), foldl_unmoved (s := keyName), foldl_unmoved (s := value)]
  · simp
  · intro c held
    simp [(inside c held).2]
  · intro c held
    have other := lower_ne (key.lower c held)
    simp [other '"' (by decide), other '\'' (by decide)]
  · intro c held
    have other := lower_ne (word.lower c held)
    simp [other '"' (by decide), other '\'' (by decide)]

theorem scan_start (opening : c ≠ '!' ∧ c ≠ '?' ∧ c ≠ '/')
    (cut : cutTag? (c :: content ++ '>' :: rest) = some (c :: content, rest)) :
    Piece.scan ('<' :: c :: content ++ '>' :: rest) =
      .found (openEvent (c :: content)) ('<' :: c :: content ++ ['>']) rest := by
  simp only [List.cons_append] at cut
  simp [Piece.scan, scanMarkup, opening, cut]

theorem scan_close (cut : cutTag? (content ++ '>' :: rest) = some (content, rest)) :
    Piece.scan ('<' :: '/' :: content ++ '>' :: rest) =
      .found (closeEvent content) ('<' :: '/' :: content ++ ['>']) rest := by
  simp [Piece.scan, scanMarkup, cut]

private theorem takeWhile_until {p : Char → Bool} {s : List Char} (inside : ∀ c ∈ s, p c)
    (rest : List Char) (stop : ∀ c, rest.head? = some c → p c = false) :
    (s ++ rest).takeWhile p = s ∧ (s ++ rest).dropWhile p = rest := by
  rw [List.takeWhile_append_of_pos inside, List.dropWhile_append_of_pos inside]
  cases rest with
  | nil => simp
  | cons c later => simp [stop c rfl]

theorem attributesFrom_nothing (used : List (List Char)) : attributesFrom used [] = [] := by
  rw [attributesFrom]
  split
  · rfl
  · rename_i scanned
    simp [scanAttribute, skipSpaces] at scanned

theorem ofContent_word (word : Word name) : Tag.ofContent name = ⟨.ofList name, []⟩ := by
  have inside : ∀ c ∈ name, (!isSpace c) = true := by
    intro c held
    simp [lower_not_space (word.lower c held)]
  obtain ⟨taken, left⟩ := takeWhile_until inside [] (by simp)
  rw [List.append_nil] at taken left
  simp [Tag.ofContent, skipToSpace, taken, left, attributesFrom_nothing]

theorem scanAttribute_one (key : Word keyName) (inside : '"' ∉ value) :
    scanAttribute [] (' ' :: keyName ++ '=' :: '"' :: value ++ ['"']) =
      some { used := [keyName], found := some ⟨.ofList keyName, .ofList value⟩, rest := [] } := by
  obtain ⟨first, more, rfl⟩ := List.exists_cons_of_ne_nil key.nonempty
  have continues : ∀ c ∈ more, continuesName c := fun c held =>
    lower_continues (key.lower c (List.mem_cons_of_mem _ held))
  obtain ⟨taken, left⟩ := takeWhile_until continues ('=' :: '"' :: (value ++ ['"']))
    (by simp [continuesName])
  have unspaced := lower_not_space (key.lower first (by simp))
  have begun : skipSpaces (' ' :: first :: (more ++ '=' :: '"' :: (value ++ ['"']))) =
      first :: (more ++ '=' :: '"' :: (value ++ ['"'])) := by
    simp [skipSpaces, unspaced, show isSpace ' ' = true from rfl]
  have equals : skipSpaces ('=' :: '"' :: (value ++ ['"'])) = '=' :: '"' :: (value ++ ['"']) := by
    simp [skipSpaces, isSpace]
  have quote : skipSpaces ('"' :: (value ++ ['"'])) = '"' :: (value ++ ['"']) := by
    simp [skipSpaces, isSpace]
  have closed := Text.cutFirst?_append inside []
  simp [scanAttribute, scanValue, begun, taken, left, equals, quote, closed]

theorem ofContent_withAttribute (word : Word name) (key : Word keyName) (inside : '"' ∉ value) :
    Tag.ofContent (withAttribute name keyName value) =
      ⟨.ofList name, [⟨.ofList keyName, .ofList value⟩]⟩ := by
  have unspaced : ∀ c ∈ name, (!isSpace c) = true := by
    intro c held
    simp [lower_not_space (word.lower c held)]
  obtain ⟨taken, left⟩ := takeWhile_until unspaced
    (' ' :: keyName ++ '=' :: '"' :: value ++ ['"']) (by simp [isSpace])
  have shape : withAttribute name keyName value =
      name ++ (' ' :: keyName ++ '=' :: '"' :: value ++ ['"']) := by
    simp [withAttribute]
  rw [shape, Tag.ofContent, taken, skipToSpace, left, attributesFrom]
  split
  · rename_i scanned
    rw [scanAttribute_one key inside] at scanned
    cases scanned
  · rename_i scan scanned
    rw [scanAttribute_one key inside] at scanned
    cases scanned
    simp [attributesFrom_nothing]

private theorem closeEvent_word (word : Word name) :
    closeEvent name = .close (.ofList name) := by
  have last := List.dropLast_concat_getLast word.nonempty
  have unspaced := lower_not_space (word.lower _ (List.getLast_mem word.nonempty))
  rw [← last]
  simp [closeEvent, unspaced]

private theorem reads_markup
    (scanned : ∀ rest, Piece.scan (body ++ '>' :: rest) = .found event (body ++ ['>']) rest) :
    Reads (body ++ ['>']) [event] := by
  intro rest
  rw [List.append_assoc]
  exact .piece (scanned rest) (.done rest)

theorem reads_close (word : Word name) :
    Reads ('<' :: '/' :: name ++ ['>']) [.close (.ofList name)] := by
  apply reads_markup
  intro rest
  rw [scan_close (cutTag?_word word rest), closeEvent_word word]

/-- A start tag opens an element unless it ends with a slash. -/
private theorem reads_opening (word : Word name) (begins : content.head? = name.head?)
    (cut : ∀ rest, cutTag? (content ++ '>' :: rest) = some (content, rest))
    (ended : content.getLast? ≠ some '/') :
    Reads ('<' :: content ++ ['>']) [.start (.ofContent content)] := by
  obtain ⟨first, more, rfl⟩ := List.exists_cons_of_ne_nil word.nonempty
  obtain ⟨later, rfl⟩ : ∃ later, content = first :: later := by
    cases content <;> simp_all
  have other := lower_ne (word.lower first (by simp))
  apply reads_markup
  intro rest
  rw [scan_start ⟨other '!' (by decide), other '?' (by decide), other '/' (by decide)⟩ (cut rest)]
  simp only [openEvent, ended, if_false]

theorem reads_start (word : Word name) :
    Reads ('<' :: name ++ ['>']) [.start ⟨.ofList name, []⟩] := by
  have ended : name.getLast? ≠ some '/' := fun last =>
    lower_ne (word.lower '/' (List.mem_of_getLast? last)) '/' (by decide) rfl
  rw [← ofContent_word word]
  exact reads_opening word rfl (cutTag?_word word) ended

theorem reads_start_withAttribute (word : Word name) (key : Word keyName)
    (inside : ∀ c ∈ value, c ≠ '>' ∧ c ≠ '"') :
    Reads ('<' :: withAttribute name keyName value ++ ['>'])
      [.start ⟨.ofList name, [⟨.ofList keyName, .ofList value⟩]⟩] := by
  have unquoted : '"' ∉ value := fun held => (inside _ held).2 rfl
  have begins : (withAttribute name keyName value).head? = name.head? := by
    obtain ⟨first, more, rfl⟩ := List.exists_cons_of_ne_nil word.nonempty
    rfl
  have ended : (withAttribute name keyName value).getLast? ≠ some '/' := by
    rw [withAttribute, List.getLast?_concat]
    decide
  rw [← ofContent_withAttribute word key unquoted]
  exact reads_opening word begins (cutTag?_withAttribute word key inside) ended

/-! ## Escaped texts -/

/-- As what an escaped text is read: a run of characters that are written as they are is one piece
of text, and every other character is a reference. -/
def escapedContent (s : List Char) : Content :=
  match s with
  | [] => .nothing
  | c :: later =>
    match nameOf? c with
    | some name => .reference (.ofList name) (escapedContent later)
    | none =>
      .text (.ofList (c :: later.takeWhile isKept)) (escapedContent (later.dropWhile isKept))
termination_by s.length
decreasing_by
  · simp
  · exact Nat.lt_succ_of_le (List.dropWhile_suffix isKept).length_le

private theorem scan_reference (inside : ∀ d ∈ name, d ≠ ';' ∧ d ≠ '&' ∧ d ≠ '<')
    (rest : List Char) :
    Piece.scan ('&' :: name ++ ';' :: rest) =
      .found (.reference (.ofList name)) ('&' :: name ++ [';']) rest := by
  have continues : ∀ d ∈ name, (d != ';' && d != '&' && d != '<') = true := by
    simpa [and_assoc] using inside
  obtain ⟨taken, left⟩ := takeWhile_until continues (';' :: rest) (by simp)
  simp [Piece.scan, scanReference, taken, left]

private theorem scan_plain (plain : ∀ d ∈ c :: run, isPlain d)
    (stop : ∀ d, rest.head? = some d → isPlain d = false) :
    Piece.scan (c :: run ++ rest) = .found (.text (.ofList (c :: run))) (c :: run) rest := by
  obtain ⟨first, later⟩ := List.forall_mem_cons.mp plain
  obtain ⟨taken, left⟩ := takeWhile_until later rest stop
  simp only [isPlain, Bool.and_eq_true, bne_iff_ne] at first
  simp [Piece.scan, first, taken, left]

private theorem isPlain_of_kept (kept : isKept c) : isPlain c := by
  obtain ⟨_, unopened, _, unreferring, _⟩ := spelled_of_kept kept
  simp [isPlain, unopened, unreferring]

private theorem kept_takeWhile (s : List Char) : ∀ c ∈ s.takeWhile isKept, isKept c :=
  List.all_eq_true.mp List.all_takeWhile

/-- What is written as it is up to the next reference is a run of its own. -/
private theorem escapeChars_run (s : List Char) :
    Html.escapeChars s = s.takeWhile isKept ++ Html.escapeChars (s.dropWhile isKept) := by
  simp only [escapeChars_eq_flatMap]
  induction s with
  | nil => rfl
  | cons c later ih =>
    cases kept : isKept c with
    | true => simp [kept, (spelled_of_kept kept).1, ← ih]
    | false => simp [kept]

/-- Such a run ends at a reference, or at the tag that ends the text. -/
private theorem escapeChars_stops (s rest : List Char) :
    ∀ d, (Html.escapeChars (s.dropWhile isKept) ++ '<' :: rest).head? = some d →
      isPlain d = false := by
  intro d first
  have stop := List.head?_dropWhile_not isKept s
  rw [escapeChars_eq_flatMap] at first
  cases left : s.dropWhile isKept with
  | nil =>
    simp only [left, List.flatMap_nil, List.nil_append, List.head?_cons, Option.some.injEq] at first
    subst first
    rfl
  | cons c later =>
    simp only [left, List.head?_cons, isKept, Option.isNone_eq_false_iff] at stop
    obtain ⟨name, named⟩ := Option.isSome_iff_exists.mp stop
    simp only [left, List.flatMap_cons, (spelled_of_named named).1, List.cons_append,
      List.head?_cons, Option.some.injEq] at first
    subst first
    rfl

theorem cuts_escaped (s rest : List Char) :
    Cuts (Html.escapeChars s ++ '<' :: rest) (escapedContent s).events ('<' :: rest) := by
  fun_induction escapedContent s with
  | case1 => exact .done _
  | case2 c later name named ih =>
    obtain ⟨written, _, inside⟩ := spelled_of_named named
    have whole : Html.escapeChars (c :: later) ++ '<' :: rest =
        '&' :: name ++ ';' :: (Html.escapeChars later ++ '<' :: rest) := by
      simp [escapeChars_eq_flatMap, written]
    rw [whole]
    exact .piece (scan_reference inside _) ih
  | case3 c later unnamed ih =>
    have kept : isKept c := by simp [isKept, unnamed]
    have run := escapeChars_run (c :: later)
    simp only [List.takeWhile_cons, List.dropWhile_cons, kept, if_true] at run
    rw [run, List.append_assoc]
    refine .piece (scan_plain ?_ (escapeChars_stops later rest)) ih
    rw [List.forall_mem_cons]
    exact ⟨isPlain_of_kept kept, fun d held => isPlain_of_kept (kept_takeWhile later d held)⟩

/-- Taken together, the pieces of an escaped text say the text. -/
theorem escapedContent_means (s : List Char) :
    (escapedContent s).wording = .ofList s ∧ (escapedContent s).Resolvable ∧
      (escapedContent s).elements = [] := by
  fun_induction escapedContent s with
  | case1 => exact ⟨rfl, trivial, rfl⟩
  | case2 c later name named ih =>
    obtain ⟨said, resolvable, elementless⟩ := ih
    obtain ⟨_, known, _⟩ := spelled_of_named named
    have means := KnownReferences.referent?_eq_some_iff.mp known
    refine ⟨?_, ⟨⟨c, by rwa [String.toList_ofList]⟩, resolvable⟩, elementless⟩
    rw [Content.wording, String.toList_ofList, known, said]
    simp [String.ofList_cons]
  | case3 c later unnamed ih =>
    obtain ⟨said, resolvable, elementless⟩ := ih
    refine ⟨?_, resolvable, elementless⟩
    have kept : ∀ d ∈ c :: later.takeWhile isKept, isKept d := by
      rw [List.forall_mem_cons]
      exact ⟨by simp [isKept, unnamed], kept_takeWhile later⟩
    have plain : '&' ∉ (String.ofList (c :: later.takeWhile isKept)).toList := by
      rw [String.toList_ofList]
      intro held
      exact (spelled_of_kept (kept _ held)).2.2.2.1 rfl
    rw [Content.wording, unescape_of_no_reference plain, said, ← String.ofList_append,
      List.cons_append, List.takeWhile_append_dropWhile]

/-! ## Whole documents -/

theorem reading_of_cuts (cuts : Cuts s events rest) (ended : rest = []) (position : Nat) :
    (Reading.ofChars position s).events.map Prod.fst = events ∧
      ∃ last, (Reading.ofChars position s).ending = .complete last := by
  induction cuts generalizing position with
  | done s =>
    subst ended
    rw [Reading.ofChars_nil]
    exact ⟨rfl, position, rfl⟩
  | piece scanned _ ih =>
    rw [Reading.ofChars_of_found scanned]
    obtain ⟨same, last, complete⟩ := ih ended _
    exact ⟨by simp [Reading.cons, same], last, complete⟩

/-- A reading that nests its tags goes on to its end. -/
theorem nested_of_nests {events : List (Event × Nat)}
    (nests : (events.map Prod.fst).foldlM nest opened = .ok final) :
    Reading.nested ending opened events = ⟨events, ending⟩ := by
  induction events generalizing opened with
  | nil => rfl
  | cons event later ih =>
    rw [List.map_cons, List.foldlM_cons] at nests
    cases taken : nest opened event.1 with
    | error fault =>
      rw [taken] at nests
      cases nests
    | ok next =>
      rw [taken] at nests
      simp only [Reading.nested, taken, ih nests, Reading.cons]

/-- A text that is cut into the events of a content is read to its end as these events. -/
theorem reading_of_content (content : Content) (text : String)
    (unmarked : text.toList.head? ≠ some '\ufeff') (cuts : Cuts text.toList content.events []) :
    (Reading.ofText text).events.map Prod.fst = content.events ∧
      ∃ last, (Reading.ofText text).ending = .complete last := by
  have whole : Reading.dropByteOrderMark text.toList = text.toList := by
    unfold Reading.dropByteOrderMark
    split
    · rename_i marked
      simp [marked] at unmarked
    · rfl
  obtain ⟨same, last, complete⟩ := reading_of_cuts cuts rfl 0
  have nests := content.events_nest []
  rw [← same] at nests
  simp only [Reading.ofText, whole, nested_of_nests nests, complete]
  exact ⟨same, last, rfl⟩

end DocPages.MarkupReading
