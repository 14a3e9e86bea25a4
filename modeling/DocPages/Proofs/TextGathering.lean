import DocPages.Proofs.TreeReading

/-! Gathering a text tag by tag. A passage that takes a content comes to hold what the content says,
whatever references are open around it, and where nothing begins a content leaves no trace. Each
statement says what gathering a whole content makes of the state, so it can be used for elements
at any depth. -/
namespace DocPages.TextGathering
open Xml Members TreeReading

variable {g taken final : Gathering} {tag : Tag} {passage : Passage}

/-- The gathering takes the events in turn, none of them is a problem, and `final` is what it has
become in the end. -/
def Passes : Gathering → List Event → Gathering → Prop
  | g, [], final => g = final
  | g, event :: later, final => g.problem? event = none ∧ Passes (g.step event) later final

theorem passes_append (first : Passes g before middle) (second : Passes middle after final) :
    Passes g (before ++ after) final := by
  induction before generalizing g with
  | nil => exact first ▸ second
  | cons event later ih => exact ⟨first.1, ih first.2⟩

theorem run_of_passes {events : List (Event × Nat)}
    (passes : Passes g (events.map Prod.fst) final) :
    Gathering.run ending g events = (final, final.defectAtEnd? ending) := by
  induction events generalizing g with
  | nil => simp only [Gathering.run, show g = final from passes]
  | cons event later ih =>
    obtain ⟨sound, passes⟩ := passes
    simp only [Gathering.run, sound, ih passes]

theorem passes_text {later : Content}
    (after : Passes (g.push (unescape content)) later.events final) :
    Passes g (Content.text content later).events final :=
  ⟨rfl, after⟩

theorem passes_cdata {later : Content} (after : Passes (g.push content) later.events final) :
    Passes g (Content.cdata content later).events final :=
  ⟨rfl, after⟩

theorem passes_aside {later : Content} (after : Passes g later.events final) :
    Passes g (Content.aside later).events final :=
  ⟨rfl, after⟩

theorem passes_reference {later : Content} (known : ∃ c, KnownReferences.Means name.toList c)
    (after : Passes (g.push (((referent? name.toList).map String.singleton).getD ""))
      later.events final) :
    Passes g (Content.reference name later).events final := by
  obtain ⟨value, means⟩ := known
  have known := KnownReferences.referent?_eq_some_iff.mpr means
  refine ⟨by simp [Gathering.problem?, known], ?_⟩
  simpa [Gathering.step, known] using after

/-- Inside the outermost element no tag is a problem. -/
theorem tag_sound_inside (inner : g.opened ≠ []) :
    g.problem? (.start tag) = none ∧ g.problem? (.empty tag) = none := by
  simp [Gathering.problem?, inner]

private theorem endPassage_rootSeen (g : Gathering) : g.endPassage.rootSeen = g.rootSeen := by
  unfold Gathering.endPassage
  split <;> rfl

private theorem endMember_rootSeen (g : Gathering) : g.endMember.rootSeen = g.rootSeen := by
  unfold Gathering.endMember
  split <;> rfl

private theorem begin_rootSeen (g : Gathering) (tag : Tag) (isEmpty : Bool) :
    (g.begin tag isEmpty).rootSeen = g.rootSeen := by
  unfold Gathering.begin
  cases g.role tag with
  | label label => rfl
  | member name? => cases name? <;> cases isEmpty <;> first | rfl | exact endMember_rootSeen _
  | part sort => cases isEmpty <;> first | rfl | exact endPassage_rootSeen _
  | plain => rfl

/-- Behind the first tag of the document, a tag does nothing but to begin what it begins and to open
its element. -/
theorem enter_inside (seen : g.rootSeen = true) (tag : Tag) :
    g.enter tag true = g.begin tag true ∧
    g.enter tag false = { g.begin tag false with opened := tag.localName :: g.opened } := by
  have again (begun : Gathering) (seen : begun.rootSeen = true) :
      { begun with rootSeen := true } = begun := by
    cases begun
    simp_all
  constructor
  · exact again _ ((begin_rootSeen g tag true).trans seen)
  · exact congrArg (fun begun : Gathering => { begun with opened := tag.localName :: g.opened })
      (again _ ((begin_rootSeen g tag false).trans seen))

theorem enter_plain (seen : g.rootSeen = true) (role : g.role tag = .plain) :
    g.enter tag true = g ∧ g.enter tag false = { g with opened := tag.localName :: g.opened } := by
  rw [(enter_inside seen tag).1, (enter_inside seen tag).2]
  simp only [Gathering.begin, role, and_self]

/-- An element begins, its content is taken, and its closing tag ends it. -/
theorem passes_element {inside later : Content} (sound : g.problem? (.start tag) = none)
    (within : Passes (g.enter tag false) inside.events taken)
    (after : Passes taken.leave later.events final) :
    Passes g (Content.element tag inside later).events final :=
  ⟨sound, passes_append within ⟨rfl, after⟩⟩

theorem push_outside_text (untaken : g.passage = none) (text : String) : g.push text = g := by
  cases g
  simp_all [Gathering.push]

/-- Outside of all texts, a closing tag ends nothing but a member. -/
theorem leave_outside_text (untaken : g.passage = none) :
    g.leave = if g.opened.tail.length = 2 then { g with opened := g.opened.tail }.endMember
      else { g with opened := g.opened.tail } := by
  simp [Gathering.leave, untaken]

theorem endMember_of_none (undrafted : g.draft = none) : g.endMember = g := by
  simp only [Gathering.endMember, undrafted]

/-! ## Where nothing begins -/

/-- No tag begins anything here nor anywhere further inside: either the place is too deep, or it is
outside of all members. -/
structure Idle (g : Gathering) : Prop where
  rootSeen : g.rootSeen = true
  untaken : g.passage = none
  inner : g.opened ≠ []
  place : 4 ≤ g.opened.length ∨
    g.draft = none ∧ (g.opened.length = 3 ∨ ∃ name root, g.opened = [name, root] ∧ name ≠ "members")

private theorem idle_role (idle : Idle g) (tag : Tag) : g.role tag = .plain := by
  have place := idle.place
  unfold Gathering.role
  rw [idle.untaken]
  split
  · contradiction
  · rename_i opened
    simp [opened] at place
  · rename_i opened
    simp only [opened, List.length_cons, List.length_nil] at place
    rcases place with deep | ⟨undrafted, _⟩
    · omega
    · simp [undrafted]
  · rfl

theorem idle_enter (idle : Idle g) (tag : Tag) :
    g.enter tag true = g ∧ g.enter tag false = { g with opened := tag.localName :: g.opened } ∧
      Idle { g with opened := tag.localName :: g.opened } := by
  obtain ⟨empty, entered⟩ := enter_plain idle.rootSeen (idle_role idle tag)
  refine ⟨empty, entered, idle.rootSeen, idle.untaken, by simp, ?_⟩
  rcases idle.place with deep | ⟨undrafted, three | ⟨name, root, opened, other⟩⟩
  · exact Or.inl (by simp only [List.length_cons]; omega)
  · exact Or.inl (by simp [three])
  · exact Or.inr ⟨undrafted, Or.inl (by simp [opened])⟩

theorem idle_leave (idle : Idle g) (name : String) :
    Gathering.leave { g with opened := name :: g.opened } = g := by
  rw [leave_outside_text (by exact idle.untaken)]
  rcases idle.place with deep | ⟨undrafted, _⟩
  · simp [show g.opened.length ≠ 2 by omega]
  · split
    · exact endMember_of_none undrafted
    · rfl

/-- Where nothing begins, nothing at all is gathered. -/
theorem passes_idle (content : Content) (resolvable : content.Resolvable) (idle : Idle g) :
    Passes g content.events g := by
  have silent := push_outside_text idle.untaken
  induction content generalizing g with
  | nothing => rfl
  | text content later ih =>
    apply passes_text
    rw [silent]
    exact ih resolvable idle silent
  | cdata content later ih =>
    apply passes_cdata
    rw [silent]
    exact ih resolvable idle silent
  | reference name later ih =>
    apply passes_reference resolvable.1
    rw [silent]
    exact ih resolvable.2 idle silent
  | aside later ih => exact passes_aside (ih resolvable idle silent)
  | empty tag later ih =>
    refine ⟨(tag_sound_inside idle.inner).2, ?_⟩
    simpa only [Gathering.step, (idle_enter idle tag).1] using ih resolvable idle silent
  | element tag inside later within after =>
    obtain ⟨_, entered, deeper⟩ := idle_enter idle tag
    apply passes_element (tag_sound_inside idle.inner).1
    · rw [entered]
      exact within resolvable.1 deeper (push_outside_text deeper.untaken)
    · rw [idle_leave idle]
      exact after resolvable.2 idle silent

/-! ## Inside a text -/

/-- The gathering is below the element that holds the text, and no referring element that is open
in the text lies deeper than the gathering itself. -/
structure Taking (g : Gathering) (passage : Passage) : Prop where
  rootSeen : g.rootSeen = true
  taken : g.passage = some passage
  holder : passage.depth = 3
  below : 4 ≤ g.opened.length
  labels : ∀ label ∈ passage.labels, label.depth < g.opened.length

private theorem push_push : (g.push first).push second = g.push (first ++ second) := by
  cases g with | mk opened rootSeen draft passage entries =>
  cases passage <;> simp [Gathering.push, Passage.append, String.append_assoc]

theorem push_nothing : g.push "" = g := by
  cases g with | mk opened rootSeen draft passage entries =>
  cases passage <;> simp [Gathering.push, Passage.append]

theorem taking_push (taking : Taking g passage) (text : String) :
    Taking (g.push text) (passage.append text) where
  rootSeen := taking.rootSeen
  taken := by simp [Gathering.push, taking.taken]
  holder := taking.holder
  below := taking.below
  labels := taking.labels

private theorem taking_role (taking : Taking g passage) (tag : Tag) :
    g.role tag = ((label? tag).map Role.label).getD .plain := by
  simp [Gathering.role, taking.taken]

/-- A tag inside a text says its label if its element is empty, and else leaves the label open. -/
theorem taking_enter (taking : Taking g passage) (tag : Tag) :
    g.enter tag true = g.push ((label? tag).getD "") ∧
    g.enter tag false = { g with
      opened := tag.localName :: g.opened
      passage := some ((label? tag).elim passage (passage.openLabel g.depth)) } := by
  rw [(enter_inside taking.rootSeen tag).1, (enter_inside taking.rootSeen tag).2]
  have held := taking.taken
  cases found : label? tag with
  | none => simp [Gathering.begin, taking_role taking, found, push_nothing, held]
  | some label => simp [Gathering.begin, taking_role taking, found, Gathering.push, held]

theorem taking_below (taking : Taking g passage) (tag : Tag) :
    Taking (g.enter tag false) ((label? tag).elim passage (passage.openLabel g.depth)) := by
  rw [(taking_enter taking tag).2]
  cases found : label? tag with
  | none =>
    exact ⟨taking.rootSeen, rfl, taking.holder, Nat.le_succ_of_le taking.below,
      fun label held => Nat.lt_succ_of_lt (taking.labels label held)⟩
  | some label =>
    refine ⟨taking.rootSeen, rfl, taking.holder, Nat.le_succ_of_le taking.below, ?_⟩
    intro open_ held
    rcases List.mem_cons.mp held with rfl | held
    · exact Nat.lt_succ_self _
    · exact Nat.lt_succ_of_lt (taking.labels open_ held)

private theorem closeLabel_depth (passage : Passage) (depth : Nat) :
    (passage.closeLabel depth).depth = passage.depth := by
  unfold Passage.closeLabel
  split
  · rfl
  · split
    · rfl
    · simp only
      split <;> rfl

/-- A closing tag further inside a text closes at most a referring element. -/
theorem leave_inside_text (taken : g.passage = some passage) (holder : passage.depth = 3)
    (below : 4 ≤ g.opened.tail.length) :
    g.leave = { g with
      opened := g.opened.tail
      passage := some (passage.closeLabel g.opened.tail.length) } := by
  have apart : 3 ≠ g.opened.tail.length := by omega
  have inside : g.opened.tail.length ≠ 2 := by omega
  simp only [Gathering.leave, taken, Option.map_some, Option.any_some, closeLabel_depth, holder,
    beq_eq_false_iff_ne.mpr apart, inside, if_false, Bool.false_eq_true]

theorem closeLabel_outer (outer : ∀ label ∈ passage.labels, label.depth < depth) :
    passage.closeLabel depth = passage := by
  unfold Passage.closeLabel
  split
  · rfl
  · rename_i label outer' labels
    have different : label.depth ≠ depth := by
      have := outer label (by simp [labels])
      omega
    rw [if_pos different]

/-- A referring element is replaced by its label if nothing but blanks was said inside it. -/
theorem closeLabel_opened (passage : Passage) (depth : Nat) (label body : String) :
    ((passage.openLabel depth label).append body).closeLabel depth =
      passage.append (if body.toList.all Text.isBlank then body ++ label else body) := by
  have since := Text.dropBytes_append passage.text.toList body.toList
  rw [String.ofList_toList, ← String.toList_append] at since
  simp only [Passage.openLabel, Passage.append, Passage.closeLabel, ne_eq, not_true_eq_false,
    if_false, Passage.blankSince, since]
  split <;> simp [String.append_assoc]

/-- The element that a tag opened inside a text has said what its body says, and its label if that
is blank. -/
theorem taking_leave (taking : Taking g passage) (tag : Tag) (body : String) :
    ((g.enter tag false).push body).leave = g.push (Content.labelled tag body) := by
  have deeper := taking_push (taking_below taking tag) body
  have opened : ((g.enter tag false).push body).opened.tail = g.opened := by
    rw [(taking_enter taking tag).2]
    rfl
  rw [leave_inside_text deeper.taken deeper.holder (by rw [opened]; exact taking.below), opened,
    (taking_enter taking tag).2]
  cases found : label? tag with
  | none =>
    have outer : (passage.append body).closeLabel g.opened.length = passage.append body :=
      closeLabel_outer taking.labels
    simp [Gathering.push, Content.labelled, found, taking.taken, outer]
  | some label =>
    have replaced := closeLabel_opened passage g.opened.length label body
    simp [Gathering.push, Content.labelled, found, taking.taken, Gathering.depth, replaced]

/-- Inside a text, the text grows by all that the content says. -/
theorem passes_taking (content : Content) (resolvable : content.Resolvable)
    (taking : Taking g passage) : Passes g content.events (g.push content.wording) := by
  have inner (g : Gathering) (passage : Passage) (taking : Taking g passage) : g.opened ≠ [] :=
    List.ne_nil_of_length_pos (Nat.lt_of_lt_of_le (by decide) taking.below)
  induction content generalizing g passage with
  | nothing => exact push_nothing.symm
  | text content later ih =>
    apply passes_text
    simpa only [Content.wording, push_push] using ih resolvable (taking_push taking _)
  | cdata content later ih =>
    apply passes_cdata
    simpa only [Content.wording, push_push] using ih resolvable (taking_push taking _)
  | reference name later ih =>
    apply passes_reference resolvable.1
    simpa only [Content.wording, push_push] using ih resolvable.2 (taking_push taking _)
  | aside later ih => exact passes_aside (ih resolvable taking)
  | empty tag later ih =>
    refine ⟨(tag_sound_inside (inner g passage taking)).2, ?_⟩
    have said : g.enter tag true = g.push (Content.labelled tag "") := by
      simp [(taking_enter taking tag).1, Content.labelled]
    have taken := ih resolvable (taking_push taking (Content.labelled tag ""))
    simpa only [Gathering.step, Content.wording, said, push_push] using taken
  | element tag inside later within after =>
    apply passes_element (tag_sound_inside (inner g passage taking)).1
    · exact within resolvable.1 (taking_below taking tag)
    · rw [taking_leave taking]
      simpa only [Content.wording, push_push] using after resolvable.2 (taking_push taking _)

end DocPages.TextGathering
