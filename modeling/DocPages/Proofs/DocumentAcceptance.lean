import DocPages.Proofs.KnownReferences
import DocPages.Proofs.OpenElements

/-! Which documents are accepted, and what is wrong with the others. An event is against the rules by
what stands in front of it alone: an unknown reference wherever it stands, and an element behind the
end of another one at the top. The first such event decides, whatever comes later. Without one, a
document is refused that cannot be read to its end, has no element, or leaves one open. What is left
has exactly one element at the top. -/
namespace DocPages.DocumentAcceptance
open Xml Members KnownReferences TreeReading TextGathering GatheringSemantics OpenElements

/-! ## The rules -/

/-- The tag of the element that begins with the event. -/
def beginning? : Event → Option Tag
  | .start tag | .empty tag => some tag
  | _ => none

/-- An element at the top has begun and ended: all that is open at some place behind it is closed. -/
def TopClosed (before : List Event) : Prop :=
  ∃ front, front <+: before ∧ (∃ event ∈ front, (beginning? event).isSome) ∧
    front.foldlM nest [] = .ok []

/-- The event is against the rules behind the events before it. -/
inductive Offends (before : List Event) : Event → Problem → Prop
  | reference {name : String} (unknown : ∀ c, ¬ Means name.toList c) :
      Offends before (.reference name) (.unknownReference name)
  | element {event : Event} {tag : Tag} (begins : beginning? event = some tag)
      (closed : TopClosed before) : Offends before event (.secondRoot tag.localName)

/-- Every one of the events has this property behind those before it. -/
def AtEach (P : List Event → Event → Prop) (events : List Event) : Prop :=
  ∀ before event after, events = before ++ event :: after → P before event

def Inoffensive (events : List Event) : Prop :=
  AtEach (fun before event => ∀ problem, ¬ Offends before event problem) events

/-- What a reading is refused for that has no event against the rules. -/
inductive RefusedAtEnd (reading : Reading) : Defect → Prop
  | unreadable {fault : Fault} {position : Nat} (broken : reading.ending = .broken fault position) :
      RefusedAtEnd reading ⟨.unreadable fault, position⟩
  | noRoot {position : Nat} (complete : reading.ending = .complete position)
      (elementless : ∀ event ∈ reading.events.map Prod.fst, beginning? event = none) :
      RefusedAtEnd reading ⟨.noRoot, position⟩
  | unclosedElement {innermost : String} {outer : List String} {position : Nat}
      (complete : reading.ending = .complete position)
      (left : (reading.events.map Prod.fst).foldlM nest [] = .ok (innermost :: outer)) :
      RefusedAtEnd reading ⟨.unclosedElement (localPart innermost), position⟩

/-- What a reading is refused for, and up to where it was read when that showed. -/
inductive Refused (reading : Reading) : Defect → Prop
  | offence {before after : List (Event × Nat)} {event : Event} {problem : Problem} {position : Nat}
      (whole : reading.events = before ++ (event, position) :: after)
      (earliest : Inoffensive (before.map Prod.fst))
      (offends : Offends (before.map Prod.fst) event problem) : Refused reading ⟨problem, position⟩
  | atEnd {defect : Defect} (inoffensive : Inoffensive (reading.events.map Prod.fst))
      (refused : RefusedAtEnd reading defect) : Refused reading defect

variable {P : List Event → Event → Prop} {events before later : List Event} {event : Event}
  {problem : Problem} {names : List String} {reading : Reading} {defect : Defect}

theorem atEach_nil : AtEach P [] := by
  intro before event after whole
  simp at whole

theorem atEach_concat :
    AtEach P (events ++ [event]) ↔ AtEach P events ∧ P events event := by
  constructor
  · intro each
    refine ⟨?_, each events event [] rfl⟩
    rintro before inner after rfl
    exact each before inner (after ++ [event]) (by simp)
  · rintro ⟨each, last⟩ before inner after whole
    rcases List.eq_nil_or_concat after with rfl | ⟨later, final, rfl⟩
    · obtain ⟨rfl, same⟩ := List.append_inj' whole rfl
      cases same
      exact last
    · have apart : events ++ [event] = (before ++ inner :: later) ++ [final] := by simpa using whole
      exact each before inner later (List.append_inj' apart rfl).1

/-! ## What a gathering knows -/

theorem step_rootSeen (g : Gathering) (event : Event) :
    (g.step event).rootSeen = (g.rootSeen || (beginning? event).isSome) := by
  cases event with
  | start tag | empty tag => simp [Gathering.step, Gathering.enter, beginning?]
  | close name =>
    obtain ⟨draft, passage, more, effect⟩ := leave_effect g
    simp [Gathering.step, effect, beginning?]
  | reference name =>
    simp only [Gathering.step, beginning?, Option.isSome_none, Bool.or_false]
    cases referent? name.toList <;> rfl
  | text _ | cdata _ | aside => simp [Gathering.step, Gathering.push, beginning?]

theorem rootSeen_iff (events : List Event) :
    (gathered events).rootSeen = true ↔ ∃ event ∈ events, (beginning? event).isSome := by
  induction events using List.reverseRecOn with
  | nil => simp [gathered]
  | append_singleton events event ih =>
    rw [gathered_concat, step_rootSeen, Bool.or_eq_true, ih]
    simp only [List.mem_append, List.mem_singleton, or_and_right, exists_or, exists_eq_left]

theorem opened_of_nests (nests : events.foldlM nest [] = .ok names) :
    (gathered events).opened = names.map localPart := by
  rw [(placed_run events).opened, ← names_of_openings names nests, List.map_map]
  rfl

/-- Where no element is open, none is closed before another one begins. -/
theorem closed_of_elementless (elementless : ∀ event ∈ events, beginning? event = none)
    (nests : events.foldlM nest [] = .ok names) : names = [] := by
  induction events with
  | nil =>
    cases nests
    rfl
  | cons event later ih =>
    obtain ⟨first, rest⟩ := List.forall_mem_cons.mp elementless
    cases event with
    | start tag | empty tag => cases first
    | close name => cases nests
    | text _ | cdata _ | reference _ | aside => exact ih rest nests

/-- Behind events that are not against the rules, the gathering has seen an element and has none open
exactly if an element at the top is closed. -/
theorem topClosed_iff (nests : events.foldlM nest [] = .ok names) (inoffensive : Inoffensive events) :
    TopClosed events ↔ (gathered events).rootSeen = true ∧ (gathered events).opened = [] := by
  rw [rootSeen_iff, opened_of_nests nests, List.map_eq_nil_iff]
  constructor
  · rintro ⟨front, ⟨behind, rfl⟩, ⟨event, held, begins⟩, closed⟩
    refine ⟨⟨event, List.mem_append_left _ held, begins⟩, ?_⟩
    obtain ⟨opened, same, nests⟩ := nests_append nests
    rw [closed] at same
    cases same
    -- an element that begins behind the closed one would be against the rules
    refine closed_of_elementless ?_ nests
    intro inner held'
    obtain ⟨mid, after, rfl⟩ := List.append_of_mem held'
    rw [Option.eq_none_iff_forall_ne_some]
    intro tag begun
    have place : front ++ (mid ++ inner :: after) = (front ++ mid) ++ inner :: after := by simp
    exact inoffensive _ inner after place _
      (.element begun ⟨front, List.prefix_append _ _, ⟨event, held, begins⟩, closed⟩)
  · rintro ⟨seen, rfl⟩
    exact ⟨events, List.prefix_rfl, seen, nests⟩

/-- A gathering finds the problems with an event that the rules find. -/
theorem problem_iff_offends (nests : events.foldlM nest [] = .ok names)
    (inoffensive : Inoffensive events) :
    (gathered events).problem? event = some problem ↔ Offends events event problem := by
  have closed := topClosed_iff nests inoffensive
  constructor
  · intro found
    cases event with
    | start tag | empty tag =>
      simp only [Gathering.problem?, Bool.and_eq_true, List.isEmpty_iff] at found
      split at found
      · rename_i place
        cases found
        exact .element rfl (closed.mpr place)
      · cases found
    | reference name =>
      simp only [Gathering.problem?, Option.isNone_iff_eq_none] at found
      split at found
      · rename_i unknown
        cases found
        exact .reference (referent?_eq_none_iff.mp unknown)
      · cases found
    | close _ | text _ | cdata _ | aside => cases found
  · intro offends
    cases offends with
    | reference unknown => simp [Gathering.problem?, referent?_eq_none_iff.mpr unknown]
    | element begins top =>
      obtain ⟨seen, opened⟩ := closed.mp top
      cases event <;> cases begins <;> simp [Gathering.problem?, seen, opened]

/-- A gathering takes the events without a problem. -/
def Sound (events : List Event) : Prop :=
  AtEach (fun before event => (gathered before).problem? event = none) events

theorem sound_iff_inoffensive (nests : events.foldlM nest [] = .ok names) :
    Sound events ↔ Inoffensive events := by
  induction events using List.reverseRecOn generalizing names with
  | nil => exact ⟨fun _ => atEach_nil, fun _ => atEach_nil⟩
  | append_singleton events event ih =>
    obtain ⟨opened, nests, _⟩ := nests_append nests
    rw [Sound, Inoffensive, atEach_concat, atEach_concat]
    have same := ih nests
    constructor
    · rintro ⟨sound, last⟩
      have inoffensive := same.mp sound
      refine ⟨inoffensive, fun problem offends => ?_⟩
      rw [(problem_iff_offends nests inoffensive).mpr offends] at last
      cases last
    · rintro ⟨inoffensive, last⟩
      refine ⟨same.mpr inoffensive, Option.eq_none_iff_forall_ne_some.mpr ?_⟩
      exact fun problem found => last problem ((problem_iff_offends nests inoffensive).mp found)

/-! ## Runs -/

theorem run_of_sound (ending : Ending) {before : List (Event × Nat)} (sound : Sound (before.map Prod.fst))
    (later : List (Event × Nat)) :
    Gathering.run ending {} (before ++ later) =
      Gathering.run ending (gathered (before.map Prod.fst)) later := by
  induction before using List.reverseRecOn generalizing later with
  | nil => rfl
  | append_singleton before event ih =>
    rw [List.map_append, List.map_singleton] at sound ⊢
    obtain ⟨sound, last⟩ := atEach_concat.mp sound
    rw [List.append_assoc, ih sound, gathered_concat]
    simp only [List.singleton_append, Gathering.run, last]

/-- Either no event is a problem, or there is a first that is. -/
theorem sound_or_first_problem (events : List (Event × Nat)) :
    Sound (events.map Prod.fst) ∨ ∃ before event position after problem,
      events = before ++ (event, position) :: after ∧ Sound (before.map Prod.fst) ∧
        (gathered (before.map Prod.fst)).problem? event = some problem := by
  induction events using List.reverseRecOn with
  | nil => exact .inl atEach_nil
  | append_singleton events last ih =>
    rcases ih with sound | ⟨before, event, position, after, problem, rfl, sound, found⟩
    · cases found : (gathered (events.map Prod.fst)).problem? last.1 with
      | none =>
        left
        rw [List.map_append, List.map_singleton]
        exact atEach_concat.mpr ⟨sound, found⟩
      | some problem => exact .inr ⟨events, last.1, last.2, [], problem, rfl, sound, found⟩
    · exact .inr ⟨before, event, position, after ++ [last], problem, by simp, sound, found⟩

/-- The first problem decides, whatever comes later. -/
theorem defect_of_problem {before : List (Event × Nat)} (sound : Sound (before.map Prod.fst))
    (found : (gathered (before.map Prod.fst)).problem? event = some problem) (position : Nat)
    (after : List (Event × Nat)) (ending : Ending) :
    (Extraction.ofReading ⟨before ++ (event, position) :: after, ending⟩).defect? =
      some ⟨problem, position⟩ := by
  simp only [Extraction.ofReading, run_of_sound ending sound, Gathering.run, found]

theorem defect_of_sound (sound : Sound (reading.events.map Prod.fst)) :
    (Extraction.ofReading reading).defect? =
      (gathered (reading.events.map Prod.fst)).defectAtEnd? reading.ending := by
  have run := run_of_sound reading.ending sound []
  rw [List.append_nil] at run
  simp only [Extraction.ofReading, run, Gathering.run]

/-- At the end of a document, a gathering misses the first element, or the end of the last one. -/
theorem problemAtEnd_iff (nests : events.foldlM nest [] = .ok names) :
    (gathered events).problemAtEnd? = some problem ↔
      problem = .noRoot ∧ (∀ event ∈ events, beginning? event = none) ∨
      ∃ innermost outer, names = innermost :: outer ∧
        problem = .unclosedElement (localPart innermost) := by
  unfold Gathering.problemAtEnd?
  rw [opened_of_nests nests]
  cases begun : (gathered events).rootSeen with
  | false =>
    have elementless : ∀ event ∈ events, beginning? event = none := by
      simpa [begun] using rootSeen_iff events
    have closed := closed_of_elementless elementless nests
    simpa [closed, @eq_comm _ problem] using fun _ => elementless
  | true =>
    have element : ¬ ∀ event ∈ events, beginning? event = none := by
      obtain ⟨event, held, begins⟩ := (rootSeen_iff events).mp begun
      intro elementless
      simp [elementless event held] at begins
    cases names with
    | nil => simp [element]
    | cons innermost outer => simp [element, @eq_comm _ problem]

theorem defectAtEnd_iff (nests : (reading.events.map Prod.fst).foldlM nest [] = .ok names) :
    (gathered (reading.events.map Prod.fst)).defectAtEnd? reading.ending = some defect ↔
      RefusedAtEnd reading defect := by
  have missing (problem : Problem) :
      (gathered (reading.events.map Prod.fst)).problemAtEnd? = some problem ↔ _ :=
    problemAtEnd_iff nests
  cases ended : reading.ending with
  | broken fault position =>
    simp only [Gathering.defectAtEnd?, Option.some.injEq]
    constructor
    · rintro rfl
      exact .unreadable ended
    · intro refused
      cases refused <;> simp_all
  | complete position =>
    simp only [Gathering.defectAtEnd?, Option.map_eq_some_iff, missing]
    constructor
    · rintro ⟨_, ⟨rfl, elementless⟩ | ⟨innermost, outer, rfl, rfl⟩, rfl⟩
      · exact .noRoot ended elementless
      · exact .unclosedElement ended nests
    · intro refused
      cases refused with
      | unreadable broken => simp [ended] at broken
      | noRoot complete elementless =>
        rw [ended] at complete
        cases complete
        exact ⟨_, .inl ⟨rfl, elementless⟩, rfl⟩
      | unclosedElement complete left =>
        rw [ended] at complete
        cases complete
        rw [left] at nests
        cases nests
        exact ⟨_, .inr ⟨_, _, rfl, rfl⟩, rfl⟩

/-- A document is refused exactly for what the rules refuse it for. -/
theorem defect_iff_refused (nests : (reading.events.map Prod.fst).foldlM nest [] = .ok names) :
    (Extraction.ofReading reading).defect? = some defect ↔ Refused reading defect := by
  constructor
  · intro decided
    rcases sound_or_first_problem reading.events with
      sound | ⟨before, event, position, after, problem, whole, sound, found⟩
    · rw [defect_of_sound sound] at decided
      exact .atEnd ((sound_iff_inoffensive nests).mp sound) ((defectAtEnd_iff nests).mp decided)
    · have same := defect_of_problem sound found position after reading.ending
      rw [← whole, decided] at same
      cases same
      rw [whole, List.map_append] at nests
      obtain ⟨opened, front, _⟩ := nests_append nests
      have earliest := (sound_iff_inoffensive front).mp sound
      exact .offence whole earliest ((problem_iff_offends front earliest).mp found)
  · intro refused
    cases refused with
    | @offence before after event problem position whole earliest offends =>
      rw [whole, List.map_append] at nests
      obtain ⟨opened, front, _⟩ := nests_append nests
      have decided := defect_of_problem ((sound_iff_inoffensive front).mpr earliest)
        ((problem_iff_offends front earliest).mpr offends) position after reading.ending
      rwa [← whole] at decided
    | atEnd inoffensive refused =>
      rw [defect_of_sound ((sound_iff_inoffensive nests).mpr inoffensive), defectAtEnd_iff nests]
      exact refused

/-! ## Accepted documents -/

theorem resolvable_iff (content : Content) :
    content.Resolvable ↔ ∀ name, .reference name ∈ content.events → ∃ c, Means name.toList c := by
  induction content with
  | nothing => simp [Content.Resolvable, Content.events]
  | text _ later ih | cdata _ later ih | aside later ih | empty _ later ih =>
    simp [Content.Resolvable, Content.events, ih]
  | reference name later ih => simp [Content.Resolvable, Content.events, ih]
  | element tag inside later within after =>
    simp [Content.Resolvable, Content.events, within, after, or_imp, forall_and]

theorem elements_iff (content : Content) :
    content.elements ≠ [] ↔ ∃ event ∈ content.events, (beginning? event).isSome := by
  induction content with
  | nothing => simp [Content.elements, Content.events]
  | text _ later ih | cdata _ later ih | aside later ih | reference _ later ih =>
    simpa [Content.elements, Content.events, beginning?] using ih
  | empty tag later ih | element tag inside later _ _ =>
    simp [Content.elements, Content.events, beginning?]

/-- The first element of a content at the top ends before the others begin. -/
theorem first_element_closed (content : Content) (elements : content.elements = first :: others) :
    ∃ (front : List Event) (later : Content), content.events = front ++ later.events ∧
      later.elements = others ∧ (∃ event ∈ front, (beginning? event).isSome) ∧
      front.foldlM nest [] = .ok [] := by
  induction content with
  | nothing => cases elements
  | text _ later ih | cdata _ later ih | reference _ later ih | aside later ih =>
    obtain ⟨front, rest, whole, left, ⟨event, held, begins⟩, closed⟩ := ih elements
    exact ⟨_ :: front, rest, congrArg (_ :: ·) whole, left,
      ⟨event, List.mem_cons_of_mem _ held, begins⟩, closed⟩
  | empty tag later _ =>
    obtain ⟨rfl, rfl⟩ := List.cons.inj elements
    exact ⟨[.empty tag], later, rfl, rfl, ⟨.empty tag, List.mem_singleton_self _, rfl⟩, rfl⟩
  | element tag inside later _ _ =>
    obtain ⟨rfl, rfl⟩ := List.cons.inj elements
    refine ⟨(Content.element tag inside .nothing).events, later, by simp [Content.events], rfl,
      ⟨.start tag, by simp [Content.events], rfl⟩, ?_⟩
    exact (Content.element tag inside .nothing).events_nest []

theorem single_of_inoffensive (content : Content) (inoffensive : Inoffensive content.events)
    (begun : content.elements ≠ []) : ∃ root, content.elements = [root] := by
  obtain ⟨first, others, elements⟩ := List.exists_cons_of_ne_nil begun
  obtain ⟨front, later, whole, left, begins, closed⟩ := first_element_closed content elements
  cases others with
  | nil => exact ⟨first, elements⟩
  | cons second more =>
    obtain ⟨event, held, again⟩ := (elements_iff later).mp (by simp [left])
    obtain ⟨tag, again⟩ := Option.isSome_iff_exists.mp again
    obtain ⟨mid, after, split⟩ := List.append_of_mem held
    rw [split, ← List.append_assoc] at whole
    exact absurd (Offends.element again ⟨front, List.prefix_append _ _, begins, closed⟩)
      (inoffensive _ _ _ whole _)

theorem known_of_inoffensive (inoffensive : Inoffensive events) (held : .reference name ∈ events) :
    ∃ c, Means name.toList c := by
  obtain ⟨before, after, whole⟩ := List.append_of_mem held
  by_contra unknown
  exact inoffensive _ _ _ whole _ (.reference (not_exists.mp unknown))

theorem unrefused_of_accepted (nests : (reading.events.map Prod.fst).foldlM nest [] = .ok names)
    (accepted : (Extraction.ofReading reading).defect? = none) :
    Inoffensive (reading.events.map Prod.fst) ∧ ∀ defect, ¬ RefusedAtEnd reading defect := by
  rcases sound_or_first_problem reading.events with
    sound | ⟨before, event, position, after, problem, whole, sound, found⟩
  · refine ⟨(sound_iff_inoffensive nests).mp sound, ?_⟩
    intro defect refused
    rw [defect_of_sound sound, (defectAtEnd_iff nests).mpr refused] at accepted
    cases accepted
  · have decided := defect_of_problem sound found position after reading.ending
    rw [← whole, accepted] at decided
    cases decided

/-- A document is accepted exactly if it has one element at the top, which is closed, and only
references that stand for a character. -/
theorem accepted_iff (nests : (reading.events.map Prod.fst).foldlM nest [] = .ok names) :
    (∃ records, (Extraction.ofReading reading).records = .ok records) ↔
      ∃ (content : Content) (root : Element) (position : Nat),
        content.events = reading.events.map Prod.fst ∧ content.elements = [root] ∧
          (∀ name, .reference name ∈ content.events → ∃ c, Means name.toList c) ∧
          reading.ending = .complete position := by
  constructor
  · rintro ⟨records, accepted⟩
    obtain ⟨inoffensive, unended⟩ := unrefused_of_accepted nests
      ((Extraction.records_eq_ok_iff _ _).mp accepted).1
    cases ended : reading.ending with
    | broken fault position => exact absurd (.unreadable ended) (unended _)
    | complete position =>
      cases names with
      | cons innermost outer => exact absurd (.unclosedElement ended nests) (unended _)
      | nil =>
        obtain ⟨content, said⟩ := (Content.nests_iff_events _).mp nests
        rw [← said] at inoffensive
        have begun : content.elements ≠ [] := by
          intro elementless
          refine unended _ (.noRoot ended ?_)
          simpa [elementless, said] using elements_iff content
        obtain ⟨root, single⟩ := single_of_inoffensive content inoffensive begun
        exact ⟨content, root, position, said, single,
          fun _ held => known_of_inoffensive inoffensive held, rfl⟩
  · rintro ⟨content, root, position, said, single, known, complete⟩
    have resolvable := (resolvable_iff content).mpr known
    exact ⟨_, records_of_document content single resolvable reading said.symm complete⟩

/-- Every reading that a reader delivers is refused exactly for what the rules refuse it for: for its
first event against them, whatever events and whatever ending come later, or else for how it ends.
It is accepted exactly if it has one element at the top, which is closed, and only references that
stand for a character. The reading of a text is always such a reading. -/
theorem documents_are_judged_by_the_rules :
    (∀ text, ∃ names, ((Reading.ofText text).events.map Prod.fst).foldlM nest [] = .ok names) ∧
    Problem.noRoot.message = "no root element found" ∧
    (∀ name, (Problem.unclosedElement name).message =
      "unexpected end of document, <" ++ name ++ "> is not closed") ∧
    ∀ (reading : Reading) (names : List String),
      (reading.events.map Prod.fst).foldlM nest [] = .ok names →
      (∀ defect, (Extraction.ofReading reading).records = .error defect ↔ Refused reading defect) ∧
      (∀ before event position after problem, reading.events = before ++ (event, position) :: after →
        Inoffensive (before.map Prod.fst) → Offends (before.map Prod.fst) event problem →
        ∀ later ending, (Extraction.ofReading ⟨before ++ (event, position) :: later, ending⟩).records =
          .error ⟨problem, position⟩) ∧
      ((∃ records, (Extraction.ofReading reading).records = .ok records) ↔
        ∃ (content : Content) (root : Element) (position : Nat),
          content.events = reading.events.map Prod.fst ∧ content.elements = [root] ∧
            (∀ name, .reference name ∈ content.events → ∃ c, Means name.toList c) ∧
            reading.ending = .complete position) := by
  refine ⟨Reading.ofText_nests, rfl, fun _ => rfl, ?_⟩
  intro reading names nests
  refine ⟨?_, ?_, accepted_iff nests⟩
  · intro defect
    rw [Extraction.records_eq_error_iff]
    exact defect_iff_refused nests
  · intro before event position after problem whole earliest offends later ending
    rw [whole, List.map_append] at nests
    obtain ⟨opened, front, _⟩ := nests_append nests
    rw [Extraction.records_eq_error_iff]
    exact defect_of_problem ((sound_iff_inoffensive front).mpr earliest)
      ((problem_iff_offends front earliest).mpr offends) position later ending

/-- One text for each way to be refused, most of them with something worse behind it, and one that is
accepted with text and references outside of its element. -/
theorem texts_are_judged_by_the_rules :
    Refused (.ofText "<a/> <x:b>&nbsp;</a><") ⟨.secondRoot "b", 10⟩ ∧
      Refused (.ofText "<a>&nbsp;</b>") ⟨.unknownReference "nbsp", 9⟩ ∧
      Refused (.ofText "<a></b><c>") ⟨.unreadable (.mismatchedClose "a" "b"), 7⟩ ∧
      Refused (.ofText "&lt; ") ⟨.noRoot, 5⟩ ∧
      Refused (.ofText "<a><x:b>") ⟨.unclosedElement "b", 8⟩ ∧
      ∃ (content : Content) (root : Element) (position : Nat),
        content.events = (Reading.ofText "x&#65;<a><b/></a>&amp;\n").events.map Prod.fst ∧
          content.elements = [root] ∧
          (∀ name, .reference name ∈ content.events → ∃ c, Means name.toList c) ∧
          (Reading.ofText "x&#65;<a><b/></a>&amp;\n").ending = .complete position := by
  obtain ⟨texts, _, _, judged⟩ := documents_are_judged_by_the_rules
  have refused (text : String) (defect : Defect)
      (decided : (Extraction.ofText text).records = .error defect) : Refused (.ofText text) defect := by
    obtain ⟨names, nests⟩ := texts text
    exact ((judged _ names nests).1 defect).mp decided
  refine ⟨refused _ _ ?_, refused _ _ ?_, refused _ _ ?_, refused _ _ ?_, refused _ _ ?_, ?_⟩
  iterate 5 decide +kernel
  obtain ⟨names, nests⟩ := texts "x&#65;<a><b/></a>&amp;\n"
  exact (judged _ names nests).2.2.mp ⟨[], by decide +kernel⟩

end DocPages.DocumentAcceptance
