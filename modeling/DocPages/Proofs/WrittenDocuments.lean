import DocPages.Proofs.GatheringSemantics
import DocPages.Proofs.MarkupReading

/-! Writing records as a document and reading the document gives the records back, whatever
characters their texts hold. The writer here is the simplest one: it escapes every text and leaves
nothing out. -/
namespace DocPages.WrittenDocuments
open Xml Members TreeReading Escaping MarkupReading GatheringSemantics

/-! ## The writer -/

/-- An element that holds a text. -/
def elementText (name body : String) : String :=
  "<" ++ name ++ ">" ++ Html.escape body ++ "</" ++ name ++ ">"

/-- The start tag of an element that carries a name. -/
def namedTag (element name : String) : String :=
  "<" ++ element ++ " name=\"" ++ Html.escape name ++ "\">"

def paramText (param : Parameter) : String :=
  namedTag "param" param.name ++ Html.escape param.description ++ "</param>"

/-- A record as an element of a document, under the name that stands for its identifier. -/
def memberText (name : String) (record : Record) : String :=
  namedTag "member" name ++ elementText "summary" record.summary ++
    elementText "remarks" record.remarks ++ elementText "example" record.exampleText ++
    String.join (record.params.map paramText) ++ elementText "returns" record.returns ++ "</member>"

def documentText (entries : List (String × Record)) : String :=
  "<doc><members>" ++ String.join (entries.map fun (name, record) => memberText name record) ++
    "</members></doc>"

/-! ## What the writer means -/

/-- Reading `text` puts the elements of `grow` in front of the content that comes later. -/
def Writes (text : String) (grow : Content → Content) : Prop :=
  ∃ events, Reads text.toList events ∧
    ∀ later, (grow later).events = events ++ later.events ∧
      (later.Resolvable → (grow later).Resolvable)

theorem writes_nothing : Writes "" id :=
  ⟨[], reads_nothing, fun _ => ⟨rfl, id⟩⟩

theorem writes_append (first : Writes s grow) (second : Writes t growLater) :
    Writes (s ++ t) (grow ∘ growLater) := by
  obtain ⟨before, readsFirst, grows⟩ := first
  obtain ⟨after, readsSecond, growsLater⟩ := second
  refine ⟨before ++ after, by simpa using reads_append readsFirst readsSecond, ?_⟩
  intro later
  constructor
  · simp [(grows _).1, (growsLater _).1]
  · exact fun resolvable => (grows _).2 ((growsLater _).2 resolvable)

theorem writes_join (text : Item → String) (grow : Item → Content → Content)
    (items : List Item) (writes : ∀ item ∈ items, Writes (text item) (grow item)) :
    Writes (String.join (items.map text)) fun later => items.foldr grow later := by
  induction items with
  | nil => exact writes_nothing
  | cons item items ih =>
    rw [List.map_cons, String.join_cons]
    exact writes_append (writes item (by simp))
      (ih fun item held => writes item (List.mem_cons_of_mem _ held))

theorem writes_element (starts : Reads opening.toList [.start tag]) (word : Word tag.name.toList)
    (inside : ∀ rest, Cuts (body.toList ++ '<' :: rest) content.events ('<' :: rest))
    (resolvable : content.Resolvable) :
    Writes (opening ++ body ++ ("</" ++ tag.name ++ ">")) (.element tag content) := by
  refine ⟨.start tag :: content.events ++ [.close tag.name], ?_, ?_⟩
  · intro rest
    have closes := reads_close word rest
    have whole : (opening ++ body ++ ("</" ++ tag.name ++ ">")).toList ++ rest =
        opening.toList ++ (body.toList ++ ('<' :: '/' :: tag.name.toList ++ ['>'] ++ rest)) := by
      simp
    rw [String.ofList_toList] at closes
    rw [whole]
    show Cuts _ ([.start tag] ++ (content.events ++ [.close tag.name])) rest
    exact cuts_append (starts _) (cuts_append (inside _) closes)
  · intro later
    exact ⟨by simp [Content.events], fun after => ⟨resolvable, after⟩⟩

/-- The elements that a text writes may stand inside another element. -/
theorem writes_around (starts : Reads opening.toList [.start tag]) (word : Word tag.name.toList)
    (writes : Writes body grow) :
    Writes (opening ++ body ++ ("</" ++ tag.name ++ ">"))
      (.element tag (grow .nothing)) := by
  obtain ⟨events, reads, grows⟩ := writes
  obtain ⟨same, resolvable⟩ := grows .nothing
  refine writes_element starts word ?_ (resolvable trivial)
  intro rest
  rw [same]
  simpa [Content.events] using reads ('<' :: rest)

/-- So may an escaped text. -/
theorem writes_text (starts : Reads opening.toList [.start tag]) (word : Word tag.name.toList)
    (body : String) :
    Writes (opening ++ Html.escape body ++ ("</" ++ tag.name ++ ">"))
      (.element tag (escapedContent body.toList)) := by
  refine writes_element starts word ?_ (escapedContent_means body.toList).2.1
  intro rest
  rw [Html.escape, String.toList_ofList]
  exact cuts_escaped body.toList rest

/-! ## The parts of a document -/

def plainTag (name : String) : Tag :=
  ⟨name, []⟩

/-- As what the start tag of an element with a name is read. -/
def tagWithName (element name : String) : Tag :=
  ⟨element, [⟨"name", Html.escape name⟩]⟩

theorem reads_plainTag (word : Word name.toList) :
    Reads ("<" ++ name ++ ">").toList [.start (plainTag name)] := by
  simpa [plainTag] using reads_start word

theorem reads_namedTag (word : Word element.toList) (name : String) :
    Reads (namedTag element name).toList [.start (tagWithName element name)] := by
  have key : Word "name".toList := by decide
  have inside : ∀ c ∈ (Html.escape name).toList, c ≠ '>' ∧ c ≠ '"' := by
    intro c held
    rw [Html.escape, String.toList_ofList] at held
    obtain ⟨_, unclosed, unquoted, _⟩ := escapeChars_unmarked name.toList c held
    exact ⟨unclosed, unquoted⟩
  have starts := reads_start_withAttribute word key inside
  have written : (namedTag element name).toList =
      '<' :: withAttribute element.toList "name".toList (Html.escape name).toList ++ ['>'] := by
    simp [namedTag, withAttribute]
  rw [written]
  simpa [tagWithName] using starts

def partContent (name body : String) : Content → Content :=
  .element (plainTag name) (escapedContent body.toList)

def paramContent (param : Parameter) : Content → Content :=
  .element (tagWithName "param" param.name) (escapedContent param.description.toList)

/-- What the element of a record holds. -/
def memberInside (record : Record) : Content :=
  partContent "summary" record.summary <| partContent "remarks" record.remarks <|
    partContent "example" record.exampleText <|
    record.params.foldr paramContent (partContent "returns" record.returns .nothing)

def memberContent (entry : String × Record) : Content → Content :=
  .element (tagWithName "member" entry.1) (memberInside entry.2)

def documentContent (entries : List (String × Record)) : Content → Content :=
  .element (plainTag "doc")
    (.element (plainTag "members") (entries.foldr memberContent .nothing) .nothing)

theorem writes_part (word : Word name.toList) (body : String) :
    Writes (elementText name body) (partContent name body) := by
  have writes := writes_text (reads_plainTag word) word body
  simpa [elementText, partContent, plainTag, String.append_assoc] using writes

theorem writes_param (param : Parameter) : Writes (paramText param) (paramContent param) := by
  have word : Word "param".toList := by decide
  exact writes_text (reads_namedTag word param.name) word param.description

theorem writes_member (entry : String × Record) :
    Writes (memberText entry.1 entry.2) (memberContent entry) := by
  have member : Word "member".toList := by decide
  have summary : Word "summary".toList := by decide
  have remarks : Word "remarks".toList := by decide
  have sample : Word "example".toList := by decide
  have returns : Word "returns".toList := by decide
  have params := writes_join paramText paramContent entry.2.params fun param _ => writes_param param
  have parts := writes_append (writes_part summary entry.2.summary)
    (writes_append (writes_part remarks entry.2.remarks)
      (writes_append (writes_part sample entry.2.exampleText)
        (writes_append params (writes_part returns entry.2.returns))))
  have writes := writes_around (reads_namedTag member entry.1) member parts
  simpa [memberText, memberContent, memberInside, tagWithName, String.append_assoc] using writes

theorem writes_document (entries : List (String × Record)) :
    Writes (documentText entries) (documentContent entries) := by
  have doc : Word "doc".toList := by decide
  have members : Word "members".toList := by decide
  have inside := writes_join (fun entry : String × Record => memberText entry.1 entry.2)
    memberContent entries fun entry _ => writes_member entry
  have writes := writes_around (reads_plainTag doc) doc
    (writes_around (reads_plainTag members) members inside)
  have opening : "<doc><members>" = "<" ++ "doc" ++ ">" ++ ("<" ++ "members" ++ ">") := by decide
  have closing : "</members></doc>" = "</" ++ "members" ++ ">" ++ ("</" ++ "doc" ++ ">") := by
    decide
  rw [documentText, opening, closing]
  simp only [String.append_assoc] at writes ⊢
  exact writes

/-! ## What is read back -/

/-- A record whose texts have no blanks at their ends, where a reader would drop them. The names of
its parameters may. -/
structure Trimmed (record : Record) : Prop where
  summary : Text.trim record.summary = record.summary
  remarks : Text.trim record.remarks = record.remarks
  exampleText : Text.trim record.exampleText = record.exampleText
  returns : Text.trim record.returns = record.returns
  params : ∀ param ∈ record.params, Text.trim param.description = param.description

instance (record : Record) : Decidable (Trimmed record) :=
  decidable_of_iff
    (Text.trim record.summary = record.summary ∧ Text.trim record.remarks = record.remarks ∧
      Text.trim record.exampleText = record.exampleText ∧
      Text.trim record.returns = record.returns ∧
      ∀ param ∈ record.params, Text.trim param.description = param.description)
    ⟨fun ⟨summary, remarks, exampleText, returns, params⟩ =>
        ⟨summary, remarks, exampleText, returns, params⟩,
      fun trimmed => ⟨trimmed.summary, trimmed.remarks, trimmed.exampleText, trimmed.returns,
        trimmed.params⟩⟩

def partElement (name body : String) : Element :=
  ⟨plainTag name, escapedContent body.toList⟩

def paramElement (param : Parameter) : Element :=
  ⟨tagWithName "param" param.name, escapedContent param.description.toList⟩

def memberElement (entry : String × Record) : Element :=
  ⟨tagWithName "member" entry.1, memberInside entry.2⟩

theorem text_of_escaped (tag : Tag) (body : String) :
    Element.text ⟨tag, escapedContent body.toList⟩ = Text.trim body := by
  rw [Element.text, (escapedContent_means body.toList).1, String.ofList_toList]

theorem text_of_partElement (name body : String) : (partElement name body).text = Text.trim body :=
  text_of_escaped _ body

theorem name_of_tagWithName (element name : String) :
    (tagWithName element name).attribute? "name" = some name := by
  have found : localPart "name" = "name" := localPart_of_word (by decide)
  simp [Tag.attribute?, tagWithName, found, unescape_escape]

theorem elements_of_params (params : List Parameter) (later : Content) :
    (params.foldr paramContent later).elements = params.map paramElement ++ later.elements := by
  induction params with
  | nil => rfl
  | cons param params ih => simp [paramContent, paramElement, Content.elements, ← ih]

theorem elements_of_members (entries : List (String × Record)) :
    (entries.foldr memberContent .nothing).elements = entries.map memberElement := by
  induction entries with
  | nil => rfl
  | cons entry entries ih => simp [memberContent, memberElement, Content.elements, ← ih]

theorem elements_of_memberInside (record : Record) :
    (memberInside record).elements =
      [partElement "summary" record.summary, partElement "remarks" record.remarks,
        partElement "example" record.exampleText] ++ record.params.map paramElement ++
        [partElement "returns" record.returns] := by
  simp [memberInside, partContent, partElement, Content.elements, elements_of_params]

theorem isNamed_of_word (word : Word tag.name.toList) (inside : Content) (name : String) :
    Element.isNamed name ⟨tag, inside⟩ = (tag.name == name) := by
  simp [Element.isNamed, Tag.localName, localPart_of_word word]

theorem isNamed_partElement (word : Word part.toList) (body name : String) :
    (partElement part body).isNamed name = (part == name) :=
  isNamed_of_word word (escapedContent body.toList) name

/-- No parameter is taken for another part of the record. -/
theorem isNamed_paramElement (param : Parameter) (name : String) :
    (paramElement param).isNamed name = ("param" == name) := by
  have word : Word "param".toList := by decide
  exact isNamed_of_word word _ name

/-- Looking for a part passes over the parameters. -/
theorem find_past_params (other : name ≠ "param") (params : List Parameter)
    (later : List Element) :
    (params.map paramElement ++ later).find? (Element.isNamed name) =
      later.find? (Element.isNamed name) := by
  rw [List.find?_append, List.find?_eq_none.mpr, Option.none_or]
  intro element held
  obtain ⟨param, _, rfl⟩ := List.mem_map.mp held
  simp [isNamed_paramElement, Ne.symm other]

theorem parts_of_member (record : Record) (trimmed : Trimmed record) :
    let elements := (memberInside record).elements
    Element.textOfFirst "summary" elements = record.summary ∧
      Element.textOfFirst "remarks" elements = record.remarks ∧
      Element.textOfFirst "example" elements = record.exampleText ∧
      Element.textOfFirst "returns" elements = record.returns := by
  have summary : Word "summary".toList := by decide
  have remarks : Word "remarks".toList := by decide
  have sample : Word "example".toList := by decide
  have returns : Word "returns".toList := by decide
  have past : ∀ later, (record.params.map paramElement ++ later).find?
      (Element.isNamed "returns") = later.find? (Element.isNamed "returns") :=
    find_past_params (by decide) record.params
  simp only [elements_of_memberInside, Element.textOfFirst]
  simp [isNamed_partElement summary, isNamed_partElement remarks, isNamed_partElement sample,
    isNamed_partElement returns, past, text_of_partElement, trimmed.summary, trimmed.remarks,
    trimmed.exampleText, trimmed.returns]

theorem parameters_of_member (record : Record) (trimmed : Trimmed record) :
    Element.parameters (memberInside record).elements = record.params := by
  have parts : ∀ name ∈ ["summary", "remarks", "example", "returns"], ∀ body,
      (partElement name body).isNamed "param" = false := by
    intro name listed body
    have word : Word name.toList ∧ name ≠ "param" := by
      revert name
      decide
    simp [isNamed_partElement word.1, word.2]
  have kept : (record.params.map paramElement).filter (Element.isNamed "param") =
      record.params.map paramElement := by
    rw [List.filter_eq_self]
    intro element held
    obtain ⟨param, _, rfl⟩ := List.mem_map.mp held
    simp [isNamed_paramElement]
  have same : ∀ param ∈ record.params,
      (⟨((paramElement param).tag.attribute? "name").getD "", (paramElement param).text⟩ :
        Parameter) = param := by
    intro param held
    simp [paramElement, name_of_tagWithName, text_of_escaped, trimmed.params param held]
  simp only [elements_of_memberInside, Element.parameters, List.filter_append, kept]
  simp only [List.filter_cons, parts, List.mem_cons, true_or, or_true]
  simpa [Function.comp_def] using List.map_congr_left same

/-- The element that is written for a record is read as the record. -/
theorem record_of_memberElement (entry : String × Record)
    (identified : Identifier.parse? entry.1 = some entry.2.identifier)
    (trimmed : Trimmed entry.2) : (memberElement entry).record? = some entry.2 := by
  have named : entry.1 ≠ "" := by
    intro unnamed
    rw [unnamed] at identified
    cases identified
  have params := parameters_of_member entry.2 trimmed
  obtain ⟨summary, remarks, sample, returns⟩ := parts_of_member entry.2 trimmed
  simp [Element.record?, memberElement, name_of_tagWithName, named, identified, params, summary,
    remarks, sample, returns]

theorem members_of_document (entries : List (String × Record)) :
    Element.members ⟨plainTag "doc", .element (plainTag "members")
      (entries.foldr memberContent .nothing) .nothing⟩ = entries.map memberElement := by
  have group : Word (plainTag "members").name.toList := by decide
  have member : Word "member".toList := by decide
  have kept : (entries.map memberElement).filter (Element.isNamed "member") =
      entries.map memberElement := by
    rw [List.filter_eq_self]
    intro element held
    obtain ⟨entry, _, rfl⟩ := List.mem_map.mp held
    rw [memberElement, isNamed_of_word member]
    rfl
  have listed : (plainTag "members").name = "members" := rfl
  simp [Element.members, Content.elements, isNamed_of_word group, listed, elements_of_members,
    kept]

theorem records_of_memberElements (entries : List (String × Record))
    (read : ∀ entry ∈ entries, (memberElement entry).record? = some entry.2) :
    (entries.map memberElement).filterMap Element.record? = entries.map Prod.snd := by
  induction entries with
  | nil => rfl
  | cons entry entries ih =>
    have first := read entry (by simp)
    have later := ih fun entry held => read entry (List.mem_cons_of_mem _ held)
    simp [first, later]

/-- The records of a document that was written are those that it was written for, in order. The
names of members are those of their identifiers, and no text but a parameter's name is promised to
keep blanks at its ends. -/
theorem written_documents_read_back (entries : List (String × Record))
    (identified : ∀ entry ∈ entries, Identifier.parse? entry.1 = some entry.2.identifier)
    (trimmed : ∀ entry ∈ entries, Trimmed entry.2) :
    (Extraction.ofText (documentText entries)).records = .ok (entries.map Prod.snd) := by
  obtain ⟨events, reads, grows⟩ := writes_document entries
  obtain ⟨said, resolvable⟩ := grows .nothing
  have cuts := reads []
  rw [List.append_nil] at cuts
  simp only [Content.events, List.append_nil] at said
  rw [← said] at cuts
  have unmarked : (documentText entries).toList.head? ≠ some '\ufeff' := by
    have opening : "<doc><members>".toList = '<' :: "doc><members>".toList := by decide
    simp [documentText, opening]
  obtain ⟨same, last, complete⟩ := reading_of_content _ _ unmarked cuts
  have records := records_of_document _ rfl (resolvable trivial) _ same complete
  have read : ∀ entry ∈ entries, (memberElement entry).record? = some entry.2 := fun entry held =>
    record_of_memberElement entry (identified entry held) (trimmed entry held)
  rw [Extraction.ofText, records, Element.records, members_of_document,
    records_of_memberElements entries read]

/-- Texts that look like markup, hold line breaks or control characters, or seem escaped already. -/
def thornyEntries : List (String × Record) :=
  [("M:App.List<T>.Join(System.String,\"&amp;\")",
    { identifier :=
        { kind := .method, owner := "App.List<T>", member := some "Join"
          signature := some "(System.String,\"&amp;\")", namespaceName := "App" }
      summary := "a &lt; b && c ]]> <see cref=\"T:App.List\"/>"
      remarks := "first\r\nsecond\u0001\u0000third"
      exampleText := "", returns := "'&#65;' & \"&unknown;\" <!-- not said -->"
      params := [⟨" sep\n&quot; ", "<b>é</b>\u00a0-\ufeff"⟩, ⟨"", ""⟩,
        ⟨" sep\n&quot; ", "again"⟩] }),
   ("T:App.List", ⟨⟨.type, "App.List", none, none, "App"⟩, "&", "", ">", "", []⟩),
   ("T:App.List", ⟨⟨.type, "App.List", none, none, "App"⟩, "", "&amp;amp;", "", "", []⟩)]

theorem thorny_entries_read_back :
    (∀ entry ∈ thornyEntries, Identifier.parse? entry.1 = some entry.2.identifier) ∧
      (∀ entry ∈ thornyEntries, Trimmed entry.2) ∧
      (Extraction.ofText (documentText thornyEntries)).records =
        .ok (thornyEntries.map Prod.snd) := by
  have identified : ∀ entry ∈ thornyEntries,
      Identifier.parse? entry.1 = some entry.2.identifier := by decide +kernel
  have trimmed : ∀ entry ∈ thornyEntries, Trimmed entry.2 := by decide +kernel
  exact ⟨identified, trimmed, written_documents_read_back thornyEntries identified trimmed⟩

end DocPages.WrittenDocuments
