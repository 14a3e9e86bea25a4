import DocPages.Proofs.TextGathering

/-! Gathering the members of a document tag by tag gives what its tree of elements says. The proof
goes from the inside to the outside, one statement for each place in which elements may stand: right
inside a member, among the members, and right inside the outermost element. -/
namespace DocPages.GatheringSemantics
open Xml Members TreeReading TextGathering

variable {g final : Gathering} {tag : Tag} {passage : Passage}

/-! ## Outside of all texts -/

/-- At such a place, outside of all texts, `absorb` says what an element makes of the gathering,
whichever way the element is written. -/
structure Absorbs (Place : Gathering → Prop) (absorb : Gathering → Element → Gathering) : Prop where
  outside : ∀ {g}, Place g → g.passage = none
  sound : ∀ {g} tag, Place g → g.problem? (.start tag) = none
  kept : ∀ {g element}, Place g → Place (absorb g element)
  empty : ∀ {g tag}, Place g → g.enter tag true = absorb g ⟨tag, .nothing⟩
  element : ∀ {g} tag {inside}, Place g → inside.Resolvable → ∃ taken,
    Passes (g.enter tag false) inside.events taken ∧ taken.leave = absorb g ⟨tag, inside⟩

/-- Outside of all texts, only the elements of a content count. -/
theorem passes_elements (absorbs : Absorbs Place absorb) (content : Content)
    (resolvable : content.Resolvable) (place : Place g) :
    Passes g content.events (content.elements.foldl absorb g) := by
  induction content generalizing g with
  | nothing => rfl
  | text content later ih =>
    apply passes_text
    rw [push_outside_text (absorbs.outside place)]
    exact ih resolvable place
  | cdata content later ih =>
    apply passes_cdata
    rw [push_outside_text (absorbs.outside place)]
    exact ih resolvable place
  | reference name later ih =>
    apply passes_reference resolvable.1
    rw [push_outside_text (absorbs.outside place)]
    exact ih resolvable.2 place
  | aside later ih => exact passes_aside (ih resolvable place)
  | empty tag later ih =>
    refine ⟨absorbs.sound tag place, ?_⟩
    rw [Gathering.step, absorbs.empty place]
    exact ih resolvable (absorbs.kept place)
  | element tag inside later _ after =>
    obtain ⟨taken, within, left⟩ := absorbs.element tag place resolvable.1
    apply passes_element (absorbs.sound tag place) within
    rw [left]
    exact after resolvable.2 (absorbs.kept place)

/-- Taking an element inside which nothing begins leaves the gathering as its tag left it. -/
theorem idle_element {inside : Content} (resolvable : inside.Resolvable)
    (idle : Idle { g with opened := name :: g.opened })
    (undrafted : g.opened.length = 2 → g.draft = none) :
    ∃ taken, Passes { g with opened := name :: g.opened } inside.events taken ∧
      taken.leave = g := by
  refine ⟨_, passes_idle inside resolvable idle, ?_⟩
  rw [leave_outside_text idle.untaken]
  split
  · rename_i two
    exact endMember_of_none (undrafted two)
  · rfl

/-! ## Right inside a member -/

/-- The draft with the part that the element holds, if it holds one. -/
def describe (draft : Draft) (element : Element) : Draft :=
  match sectionOf? element.tag with
  | some sort => draft.fill sort element.text
  | none => draft

structure Documenting (g : Gathering) : Prop where
  rootSeen : g.rootSeen = true
  untaken : g.passage = none
  drafted : g.draft.isSome
  place : ∃ member group root, g.opened = [member, group, root]

private theorem documenting_role (documenting : Documenting g) (tag : Tag) :
    g.role tag = ((sectionOf? tag).map Role.part).getD .plain := by
  obtain ⟨member, group, root, opened⟩ := documenting.place
  simp [Gathering.role, documenting.untaken, opened, documenting.drafted]

private theorem role_of_part (documenting : Documenting g) (part : sectionOf? tag = some sort) :
    g.role tag = .part sort := by
  simp [documenting_role documenting, part]

private theorem role_of_no_part (documenting : Documenting g) (part : sectionOf? tag = none) :
    g.role tag = .plain := by
  simp [documenting_role documenting, part]

/-- The closing tag of the element that holds a text ends the text. -/
theorem leave_text (taken : g.passage = some passage) (unlabelled : passage.labels = [])
    (holder : passage.depth = g.opened.tail.length) (inside : g.opened.tail.length ≠ 2) :
    g.leave = { g with opened := g.opened.tail }.endPassage := by
  have same : passage.closeLabel g.opened.tail.length = passage := by
    simp [Passage.closeLabel, unlabelled]
  simp only [Gathering.leave, taken, Option.map_some, same, Option.any_some, holder, BEq.rfl,
    if_true, inside, if_false]

theorem documenting_absorbs : Absorbs Documenting
    fun g element => { g with draft := g.draft.map (describe · element) } where
  outside documenting := documenting.untaken
  sound tag documenting := by
    obtain ⟨member, group, root, opened⟩ := documenting.place
    exact (tag_sound_inside (by simp [opened])).1
  kept documenting :=
    ⟨documenting.rootSeen, documenting.untaken, by simp [documenting.drafted], documenting.place⟩
  empty {g tag} documenting := by
    obtain ⟨draft, drafted⟩ := Option.isSome_iff_exists.mp documenting.drafted
    cases part : sectionOf? tag with
    | none =>
      have role := role_of_no_part documenting part
      rw [(enter_plain documenting.rootSeen role).1]
      simp [describe, part]
    | some sort =>
      have role := role_of_part documenting part
      rw [(enter_inside documenting.rootSeen tag).1]
      simp [Gathering.begin, role, Gathering.endPassage, documenting.untaken, drafted, describe,
        part, Element.text, Content.wording]
  element {g} tag {inside} documenting resolvable := by
    obtain ⟨member, group, root, opened⟩ := documenting.place
    obtain ⟨draft, drafted⟩ := Option.isSome_iff_exists.mp documenting.drafted
    cases part : sectionOf? tag with
    | none =>
      have role := role_of_no_part documenting part
      have same : { g with draft := g.draft.map (describe · ⟨tag, inside⟩) } = g := by
        simp [describe, part]
      rw [(enter_plain documenting.rootSeen role).2, same]
      exact idle_element resolvable ⟨documenting.rootSeen, documenting.untaken, by simp,
        Or.inl (by simp [opened])⟩ (by simp [opened])
    | some sort =>
      have role := role_of_part documenting part
      rw [(enter_inside documenting.rootSeen tag).2]
      simp only [Gathering.begin, role, Bool.false_eq_true, if_false]
      refine ⟨_, passes_taking inside resolvable ⟨documenting.rootSeen, rfl,
        by simp [Gathering.depth, opened], by simp [opened], by simp⟩, ?_⟩
      rw [leave_text rfl rfl (by simp [Gathering.depth, Passage.append, Gathering.push])
        (by simp [Gathering.push, opened])]
      simp [Gathering.endPassage, Gathering.push, Passage.append, drafted, documenting.untaken,
        Element.text, describe, part]

/-! ## Among the members -/

/-- What becomes of a member of which nothing more will be said. -/
def finished (draft : Draft) : Entry :=
  match draft.record? with
  | some record => .documented draft.name record
  | none => .unsupported draft.name

def memberEntry (member : Element) : Entry :=
  match (member.tag.attribute? "name").filter (· ≠ "") with
  | none => .unnamed
  | some name => finished (member.inside.elements.foldl describe { name })

/-- What an element among the members adds to the entries. -/
def entriesOfMember (element : Element) : List Entry :=
  if element.tag.localName = "member" then [memberEntry element] else []

/-- What an element right inside the outermost one adds to the entries. -/
def entriesOfGroup (element : Element) : List Entry :=
  if element.tag.localName = "members" then element.inside.elements.flatMap entriesOfMember else []

/-- The gathering with the entries that the element adds. -/
def record (entriesOf : Element → List Entry) (g : Gathering) (element : Element) : Gathering :=
  { g with entries := g.entries ++ entriesOf element }

theorem foldl_record (entriesOf : Element → List Entry) (elements : List Element) :
    elements.foldl (record entriesOf) g =
      { g with entries := g.entries ++ elements.flatMap entriesOf } := by
  induction elements generalizing g with
  | nil => simp
  | cons element later ih => simp [ih, record]

theorem foldl_describe (drafted : g.draft = some draft) (elements : List Element) :
    elements.foldl (fun g element => { g with draft := g.draft.map (describe · element) }) g =
      { g with draft := some (elements.foldl describe draft) } := by
  induction elements generalizing g draft with
  | nil => simp [← drafted]
  | cons element later ih =>
    have next : { g with draft := g.draft.map (describe · element) }.draft =
        some (describe draft element) := by simp [drafted]
    rw [List.foldl_cons, ih next]
    rfl

theorem endMember_of_draft (drafted : g.draft = some draft) :
    g.endMember = { g with draft := none, entries := g.entries ++ [finished draft] } := by
  simp only [Gathering.endMember, drafted]
  rfl

structure Listing (g : Gathering) : Prop where
  rootSeen : g.rootSeen = true
  untaken : g.passage = none
  undrafted : g.draft = none
  place : ∃ root, g.opened = ["members", root]

private theorem listing_role (listing : Listing g) (tag : Tag) :
    g.role tag = if tag.localName = "member" then
      .member ((tag.attribute? "name").filter (· ≠ "")) else .plain := by
  obtain ⟨root, opened⟩ := listing.place
  simp only [Gathering.role, listing.untaken, opened]

private theorem role_of_no_member (listing : Listing g) (named : tag.localName ≠ "member") :
    g.role tag = .plain := by
  rw [listing_role listing, if_neg named]

theorem listing_absorbs : Absorbs Listing (record entriesOfMember) where
  outside listing := listing.untaken
  sound tag listing := by
    obtain ⟨root, opened⟩ := listing.place
    exact (tag_sound_inside (by simp [opened])).1
  kept listing := ⟨listing.rootSeen, listing.untaken, listing.undrafted, listing.place⟩
  empty {g tag} listing := by
    by_cases named : tag.localName = "member"
    · have role : g.role tag = .member ((tag.attribute? "name").filter (· ≠ "")) := by
        simp only [listing_role listing, named, if_true]
      rw [(enter_inside listing.rootSeen tag).1]
      simp only [Gathering.begin, role, if_true, record, entriesOfMember, named, memberEntry]
      cases (tag.attribute? "name").filter (· ≠ "") with
      | none => exact endMember_of_none listing.undrafted
      | some name =>
        have undrafted := listing.undrafted
        rw [endMember_of_draft rfl]
        simp [Content.elements, ← undrafted]
    · have role := role_of_no_member listing named
      rw [(enter_plain listing.rootSeen role).1]
      simp [record, entriesOfMember, named]
  element {g} tag {inside} listing resolvable := by
    obtain ⟨root, opened⟩ := listing.place
    have undrafted := listing.undrafted
    by_cases named : tag.localName = "member"
    · have role : g.role tag = .member ((tag.attribute? "name").filter (· ≠ "")) := by
        simp only [listing_role listing, named, if_true]
      rw [(enter_inside listing.rootSeen tag).2]
      simp only [Gathering.begin, role, Bool.false_eq_true, if_false, record, entriesOfMember,
        named, if_true, memberEntry]
      cases (tag.attribute? "name").filter (· ≠ "") with
      | none =>
        exact idle_element (g := { g with entries := g.entries ++ [.unnamed] }) resolvable
          ⟨listing.rootSeen, listing.untaken, by simp,
            Or.inr ⟨undrafted, Or.inl (by simp [opened])⟩⟩ fun _ => undrafted
      | some name =>
        refine ⟨_, passes_elements documenting_absorbs inside resolvable ⟨listing.rootSeen,
          listing.untaken, rfl, by simp [opened]⟩, ?_⟩
        rw [foldl_describe rfl, leave_outside_text (by exact listing.untaken)]
        simp [opened, endMember_of_draft, ← undrafted]
    · have role := role_of_no_member listing named
      have same : record entriesOfMember g ⟨tag, inside⟩ = g := by
        simp [record, entriesOfMember, named]
      rw [(enter_plain listing.rootSeen role).2, same]
      exact idle_element resolvable ⟨listing.rootSeen, listing.untaken, by simp,
        Or.inr ⟨undrafted, Or.inl (by simp [opened])⟩⟩ fun _ => undrafted

/-! ## Right inside the outermost element -/

structure Outermost (g : Gathering) : Prop where
  rootSeen : g.rootSeen = true
  untaken : g.passage = none
  undrafted : g.draft = none
  place : ∃ root, g.opened = [root]

private theorem outermost_role (outermost : Outermost g) (tag : Tag) : g.role tag = .plain := by
  obtain ⟨root, opened⟩ := outermost.place
  simp only [Gathering.role, outermost.untaken, opened]

theorem outermost_absorbs : Absorbs Outermost (record entriesOfGroup) where
  outside outermost := outermost.untaken
  sound tag outermost := by
    obtain ⟨root, opened⟩ := outermost.place
    exact (tag_sound_inside (by simp [opened])).1
  kept outermost :=
    ⟨outermost.rootSeen, outermost.untaken, outermost.undrafted, outermost.place⟩
  empty {g tag} outermost := by
    rw [(enter_plain outermost.rootSeen (outermost_role outermost tag)).1]
    simp [record, entriesOfGroup, Content.elements]
  element {g} tag {inside} outermost resolvable := by
    obtain ⟨root, opened⟩ := outermost.place
    rw [(enter_plain outermost.rootSeen (outermost_role outermost tag)).2]
    by_cases named : tag.localName = "members"
    · refine ⟨_, passes_elements listing_absorbs inside resolvable ⟨outermost.rootSeen,
        outermost.untaken, outermost.undrafted, root, by simp [opened, named]⟩, ?_⟩
      rw [foldl_record, leave_outside_text (by exact outermost.untaken)]
      simp [opened, record, entriesOfGroup, named]
    · have same : record entriesOfGroup g ⟨tag, inside⟩ = g := by
        simp [record, entriesOfGroup, named]
      rw [same]
      exact idle_element resolvable ⟨outermost.rootSeen, outermost.untaken, by simp,
        Or.inr ⟨outermost.undrafted, Or.inr ⟨_, root, by rw [opened], named⟩⟩⟩
        fun _ => outermost.undrafted

/-! ## The whole document -/

/-- Outside of all elements, nothing is gathered from what is no element. -/
theorem passes_elementless (content : Content) (resolvable : content.Resolvable)
    (elementless : content.elements = []) (untaken : g.passage = none) :
    Passes g content.events g := by
  have silent := push_outside_text untaken
  induction content with
  | nothing => rfl
  | text content later ih => exact passes_text (by rw [silent]; exact ih resolvable elementless)
  | cdata content later ih => exact passes_cdata (by rw [silent]; exact ih resolvable elementless)
  | reference name later ih =>
    exact passes_reference resolvable.1 (by rw [silent]; exact ih resolvable.2 elementless)
  | aside later ih => exact passes_aside (ih resolvable elementless)
  | empty tag later ih => cases elementless
  | element tag inside later _ _ => cases elementless

/-- Behind the outermost element, its entries are all that was gathered. -/
theorem passes_document (content : Content) (resolvable : content.Resolvable)
    (single : content.elements = [root]) :
    Passes {} content.events
      { rootSeen := true, entries := root.inside.elements.flatMap entriesOfGroup } := by
  induction content with
  | nothing => cases single
  | text content later ih => exact passes_text (ih resolvable single)
  | cdata content later ih => exact passes_cdata (ih resolvable single)
  | reference name later ih => exact passes_reference resolvable.1 (ih resolvable.2 single)
  | aside later ih => exact passes_aside (ih resolvable single)
  | empty tag later _ =>
    obtain ⟨rfl, elementless⟩ := List.cons.inj single
    refine ⟨rfl, ?_⟩
    exact passes_elementless later resolvable elementless rfl
  | element tag inside later _ _ =>
    obtain ⟨rfl, elementless⟩ := List.cons.inj single
    have gathered := passes_elements outermost_absorbs inside resolvable.1
      (show Outermost (Gathering.enter {} tag false) from ⟨rfl, rfl, rfl, _, rfl⟩)
    rw [foldl_record] at gathered
    exact passes_element rfl gathered (passes_elementless later resolvable.2 elementless rfl)

/-! ## The record of a member -/

/-- The name of the elements that hold parts of this sort. -/
def partName : Section → String
  | .summary => "summary"
  | .remarks => "remarks"
  | .exampleText => "example"
  | .returns => "returns"
  | .param _ => "param"

/-- The part of this sort that counts; of parameters, none counts before the others. -/
def givenPart (draft : Draft) : Section → Option String
  | .summary => draft.summary
  | .remarks => draft.remarks
  | .exampleText => draft.exampleText
  | .returns => draft.returns
  | .param _ => none

private theorem describe_part (draft : Draft) (element : Element) (sort : Section)
    (single : ∀ name, sort ≠ .param name) :
    givenPart (describe draft element) sort = (givenPart draft sort <|>
      if element.isNamed (partName sort) then some element.text else none) := by
  unfold describe sectionOf? Element.isNamed
  split
  · rename_i part found
    split at found <;> cases found <;> cases sort <;>
      simp_all [givenPart, partName, Draft.fill]
  · rename_i found
    split at found <;> cases sort <;> simp_all [givenPart, partName]

private theorem describe_params (draft : Draft) (element : Element) :
    (describe draft element).name = draft.name ∧
    (describe draft element).params = draft.params ++ Element.parameters [element] := by
  unfold describe sectionOf? Element.parameters Element.isNamed
  split
  · rename_i part found
    split at found <;> cases found <;> simp_all [Draft.fill]
  · rename_i found
    split at found <;> simp_all

/-- Of each sort of part but parameters, the first that is given counts. -/
theorem foldl_describe_part (sort : Section) (single : ∀ name, sort ≠ .param name)
    (elements : List Element) (draft : Draft) :
    givenPart (elements.foldl describe draft) sort = (givenPart draft sort <|>
      (elements.find? (Element.isNamed (partName sort))).map Element.text) := by
  induction elements generalizing draft with
  | nil => simp
  | cons element later ih =>
    rw [List.foldl_cons, ih, describe_part draft element sort single, List.find?_cons]
    cases element.isNamed (partName sort) <;> cases givenPart draft sort <;> rfl

theorem foldl_describe_params (elements : List Element) (draft : Draft) :
    (elements.foldl describe draft).name = draft.name ∧
    (elements.foldl describe draft).params = draft.params ++ Element.parameters elements := by
  induction elements generalizing draft with
  | nil => simp [Element.parameters]
  | cons element later ih =>
    obtain ⟨name, params⟩ := describe_params draft element
    rw [List.foldl_cons, (ih _).1, (ih _).2, name, params]
    refine ⟨rfl, ?_⟩
    simp only [Element.parameters, List.append_assoc, ← List.map_append, ← List.filter_append]
    rfl

/-- The record of a member is made of what its element holds, part by part. -/
theorem foldl_describe_record (name : String) (elements : List Element) :
    (elements.foldl describe { name }).record? = (Identifier.parse? name).map fun identifier =>
      { identifier
        summary := Element.textOfFirst "summary" elements
        remarks := Element.textOfFirst "remarks" elements
        exampleText := Element.textOfFirst "example" elements
        returns := Element.textOfFirst "returns" elements
        params := Element.parameters elements } := by
  have part (sort : Section) (single : ∀ name, sort ≠ .param name)
      (missing : givenPart { name } sort = none) :
      givenPart (elements.foldl describe { name }) sort =
        (elements.find? (Element.isNamed (partName sort))).map Element.text := by
    rw [foldl_describe_part sort single, missing]
    rfl
  have summary := part .summary (by simp) rfl
  have remarks := part .remarks (by simp) rfl
  have exampleText := part .exampleText (by simp) rfl
  have returns := part .returns (by simp) rfl
  obtain ⟨kept, params⟩ := foldl_describe_params elements { name }
  simp only [givenPart, partName] at summary remarks exampleText returns
  simp only [Draft.record?, kept, params, summary, remarks, exampleText, returns,
    Element.textOfFirst, List.nil_append]

private theorem record_of_finished (draft : Draft) :
    (finished draft).record? = draft.record? := by
  unfold finished
  cases draft.record? <;> rfl

/-- What becomes of a member is the record that is read off its element. -/
theorem record_of_entry (member : Element) : (memberEntry member).record? = member.record? := by
  unfold memberEntry Element.record?
  cases member.tag.attribute? "name" with
  | none => rfl
  | some name =>
    by_cases unnamed : name = ""
    · subst name
      rfl
    · have given : (some name).filter (· ≠ "") = some name := by simp [unnamed]
      simp only [given, unnamed, if_false, record_of_finished, foldl_describe_record]

theorem records_of_members (elements : List Element) :
    (elements.flatMap entriesOfMember).filterMap Entry.record? =
      (elements.filter (Element.isNamed "member")).filterMap Element.record? := by
  induction elements with
  | nil => rfl
  | cons element later ih =>
    rw [List.flatMap_cons, List.filterMap_append, ih]
    by_cases named : element.tag.localName = "member"
    · simp [entriesOfMember, Element.isNamed, named, List.filterMap_cons, record_of_entry]
      cases element.record? <;> rfl
    · simp [entriesOfMember, Element.isNamed, named]

theorem records_of_groups (elements : List Element) :
    (elements.flatMap entriesOfGroup).filterMap Entry.record? =
      ((elements.filter (Element.isNamed "members")).flatMap fun group =>
        group.inside.elements.filter (Element.isNamed "member")).filterMap Element.record? := by
  induction elements with
  | nil => rfl
  | cons element later ih =>
    rw [List.flatMap_cons, List.filterMap_append, ih]
    by_cases named : element.tag.localName = "members"
    · simp [entriesOfGroup, Element.isNamed, named, records_of_members, List.filterMap_append]
    · simp [entriesOfGroup, Element.isNamed, named]

/-- A reading of a document with one outermost element and no unknown reference yields the records
that are read off the tree. -/
theorem records_of_document (content : Content) (single : content.elements = [root])
    (resolvable : content.Resolvable) (reading : Reading)
    (said : reading.events.map Prod.fst = content.events)
    (complete : reading.ending = .complete position) :
    (Extraction.ofReading reading).records = .ok root.records := by
  have passes := passes_document content resolvable single
  rw [← said] at passes
  simp only [Extraction.ofReading, run_of_passes passes, complete, Extraction.records]
  simp [Gathering.defectAtEnd?, Gathering.problemAtEnd?, records_of_groups, Element.records,
    Element.members]

/-- Every well-nested stream of events is the stream of a tree, and with one outermost element and
no unknown reference it yields exactly the records that are read off that tree. -/
theorem gathered_records_are_those_of_the_tree (reading : Reading)
    (complete : reading.ending = .complete position)
    (nests : (reading.events.map Prod.fst).foldlM nest [] = .ok []) :
    (∃ content : Content, content.events = reading.events.map Prod.fst) ∧
      ∀ (content : Content) (root : Element), content.events = reading.events.map Prod.fst →
        content.elements = [root] → content.Resolvable →
        (Extraction.ofReading reading).records = .ok root.records := by
  refine ⟨(Content.nests_iff_events _).mp nests, ?_⟩
  intro content root said single resolvable
  exact records_of_document content single resolvable reading said.symm complete

/-- A document with references inside each other, parts inside parts and parts given twice, members
without a usable name, and members elsewhere than among the members. -/
def tangledDocument : Content :=
  .aside <| .element ⟨"doc", []⟩
    (.element ⟨"assembly", []⟩ (.empty ⟨"member", [⟨"name", "T:N.Unlisted"⟩]⟩ .nothing) <|
      .element ⟨"members", []⟩
        (.element ⟨"member", [⟨"x:name", "M:N.C.F(N.G&lt;T&gt;)"⟩, ⟨"name", "T:N.C"⟩]⟩
          (.text "outside of all parts" <|
            .element ⟨"summary", []⟩
              (.text " A&amp;B " <| .empty ⟨"see", [⟨"cref", "T:N.D"⟩]⟩ <| .reference "#8364" <|
                .cdata "<raw>" <| .aside <|
                .element ⟨"see", [⟨"cref", "T:N.E"⟩]⟩
                  (.element ⟨"paramref", [⟨"name", "p"⟩]⟩ (.reference "lt" .nothing) .nothing) <|
                .element ⟨"see", [⟨"langword", "null"⟩]⟩
                  (.text "\t" <| .element ⟨"b", []⟩ (.aside .nothing) .nothing) <|
                .element ⟨"remarks", []⟩ (.text "kept " .nothing) .nothing) <|
            .element ⟨"param", [⟨"name", "a"⟩]⟩
              (.element ⟨"returns", []⟩ (.text "no part" .nothing) .nothing) <|
            .empty ⟨"remarks", []⟩ <| .empty ⟨"param", []⟩ <|
            .element ⟨"remarks", []⟩ (.text "too late" .nothing) <|
            .element ⟨"summary", []⟩ (.text "too late" .nothing) <|
            .element ⟨"x:param", [⟨"name", "a"⟩]⟩ (.text "again" .nothing) <|
            .element ⟨"para", []⟩ (.element ⟨"example", []⟩ (.text "deep" .nothing) .nothing) <|
            .element ⟨"returns", []⟩ (.empty ⟨"paramref", [⟨"name", "a"⟩]⟩ .nothing) .nothing) <|
        .element ⟨"member", []⟩ (.element ⟨"summary", []⟩ (.text "unnamed" .nothing) .nothing) <|
        .empty ⟨"member", [⟨"name", ""⟩]⟩ <| .empty ⟨"member", [⟨"name", "nothing"⟩]⟩ <|
        .element ⟨"group", []⟩ (.empty ⟨"member", [⟨"name", "T:N.Deep"⟩]⟩ .nothing) <|
        .empty ⟨"member", [⟨"name", "T:N.C"⟩]⟩ .nothing) <|
      .empty ⟨"member", [⟨"name", "T:N.Outside"⟩]⟩ <|
      .element ⟨"members", []⟩ (.element ⟨"member", [⟨"name", "F:N.C.f"⟩]⟩ .nothing .nothing)
      .nothing) <|
    .text "\n" .nothing

theorem gathered_records_of_tangled_document :
    let reading : Reading := ⟨tangledDocument.events.map (·, 0), .complete 0⟩
    (reading.events.map Prod.fst).foldlM nest [] = .ok [] ∧
      (Extraction.ofReading reading).records = .ok
        [{ identifier := ⟨.method, "N.C", some "F", some "(N.G<T>)", "N"⟩
           summary := "A&B D€<raw><\tnullkept", remarks := "", exampleText := "", returns := "a"
           params := [⟨"a", "no part"⟩, ⟨"", ""⟩, ⟨"a", "again"⟩] },
         ⟨⟨.type, "N.C", none, none, "N"⟩, "", "", "", "", []⟩,
         ⟨⟨.field, "N.C", some "f", none, "N"⟩, "", "", "", "", []⟩] := by
  intro reading
  have said : tangledDocument.events = reading.events.map Prod.fst := by
    simp [reading, Function.comp_def]
  have nests : (reading.events.map Prod.fst).foldlM nest [] = .ok [] := by
    rw [← said]
    exact tangledDocument.events_nest []
  obtain ⟨_, records⟩ := gathered_records_are_those_of_the_tree reading rfl nests
  have resolvable : tangledDocument.Resolvable := by
    simp only [tangledDocument, Content.Resolvable]
    decide +kernel
  refine ⟨nests, ?_⟩
  rw [records tangledDocument _ said rfl resolvable]
  exact congrArg Except.ok (by decide +kernel)

end DocPages.GatheringSemantics
