import DocPages.Proofs.SiteWriting
import Mathlib.Data.List.Nodup

/-! A page that takes over the name of another file is reported, and nothing else is. Only the pages
are looked at for that, so the rest is a fact about names: the files before the pages differ, and
those behind them are called like no page. -/
namespace DocPages.PageClashes
open Site Generation HostSteps FileWriting SiteWriting
open CatalogueConsistency (Consistent names)

variable {taken : List String} {types : List TypeEntry} {catalogue : Catalogue}
  {files : List Site.File} {file : Site.File}

def pageNames (types : List TypeEntry) : List String :=
  types.map (Address.page ·.fullName)

/-- The report that the page of a type takes over a name. -/
def clashOf (type : TypeEntry) : Clash :=
  ⟨Address.page type.fullName, type.fullName⟩

/-- The file at this position has the name of one before it. -/
def IsRepeat (files : List Site.File) (place : Nat) : Prop :=
  ∃ file, files[place]? = some file ∧ file.name ∈ (files.take place).map (·.name)

instance (files : List Site.File) (place : Nat) : Decidable (IsRepeat files place) :=
  inferInstanceAs
    (Decidable (∃ file ∈ files[place]?, file.name ∈ (files.take place).map (·.name)))

/-- The types whose pages have the name of a file before them, in their order. Two files stand
before all pages. -/
def repeatedTypes (catalogue : Catalogue) (site : Site) : List TypeEntry :=
  (catalogue.types.toList.zipIdx.filter fun entry => IsRepeat site.files (entry.2 + 2)).map Prod.fst

/-- At this position of the files stands the page of a type that is reported. -/
def IsReported (catalogue : Catalogue) (site : Site) (place : Nat) : Prop :=
  ∃ index type, place = index + 2 ∧ catalogue.types[index]? = some type ∧
    clashOf type ∈ site.clashes

/-! ## Reports -/

theorem clashesFrom_cons (taken : List String) (type : TypeEntry) (later : List TypeEntry) :
    clashesFrom taken (type :: later) =
      (if Address.page type.fullName ∈ taken then [clashOf type] else []) ++
        clashesFrom (Address.page type.fullName :: taken) later := by
  rw [clashesFrom]
  simp only [List.contains_iff_mem]
  split <;> rfl

/-- The reports in their order; the types are counted from `start`. -/
theorem clashesFrom_eq (start : Nat) (taken : List String) (types : List TypeEntry) :
    clashesFrom taken types = (((types.zipIdx start).filter fun entry =>
      Address.page entry.1.fullName ∈ taken ++ pageNames (types.take (entry.2 - start))).map
        Prod.fst).map clashOf := by
  induction types generalizing start taken with
  | nil => rfl
  | cons type later ih =>
    have rest : ∀ entry ∈ later.zipIdx (start + 1),
        decide (Address.page entry.1.fullName ∈ (Address.page type.fullName :: taken) ++
          pageNames (later.take (entry.2 - (start + 1)))) =
        decide (Address.page entry.1.fullName ∈
          taken ++ pageNames ((type :: later).take (entry.2 - start))) := by
      intro entry held
      have beyond : entry.2 - start = entry.2 - (start + 1) + 1 := by
        have := List.le_snd_of_mem_zipIdx held
        omega
      rw [beyond]
      simp [pageNames, or_left_comm]
    rw [clashesFrom_cons, ih (start + 1), List.filter_congr rest, List.zipIdx_cons,
      List.filter_cons]
    by_cases held : Address.page type.fullName ∈ taken
    · simp [held, pageNames]
    · simp [held, pageNames]

/-- What is left of names without those that are taken, when a name is taken that was free. -/
theorem removeAll_taken_cons (names : List String) (name : String) (taken : List String) :
    names.removeAll (name :: taken) = (names.removeAll taken).filter fun other => !other == name := by
  rw [List.removeAll_cons, List.removeAll, List.removeAll, List.filter_filter, List.filter_filter]
  simp only [Bool.and_comm]

/-- Each type is reported or brings a name that is new. -/
theorem length_clashesFrom (taken : List String) (types : List TypeEntry) :
    (clashesFrom taken types).length + ((pageNames types).removeAll taken).eraseDups.length =
      types.length := by
  induction types generalizing taken with
  | nil => rfl
  | cons type later ih =>
    have rest := ih (Address.page type.fullName :: taken)
    rw [removeAll_taken_cons] at rest
    rw [clashesFrom_cons, List.length_append, List.length_cons, pageNames, List.map_cons,
      List.cons_removeAll, ← pageNames]
    by_cases held : Address.page type.fullName ∈ taken
    · have kept : ((pageNames later).removeAll taken).filter
          (fun other => !other == Address.page type.fullName) = (pageNames later).removeAll taken := by
        rw [List.filter_eq_self]
        intro other free
        have untaken : other ∉ taken := by simpa [List.removeAll] using (List.mem_filter.mp free).2
        have apart : other ≠ Address.page type.fullName := fun same => untaken (same ▸ held)
        simp [apart]
      rw [kept] at rest
      simp only [held, if_true, List.contains_iff_mem, Bool.eq_false_iff, ne_eq, not_true_eq_false,
        if_false, List.length_singleton]
      omega
    · simp only [held, if_false, List.contains_iff_mem, Bool.eq_false_iff, ne_eq,
        not_false_eq_true, if_true, List.length_nil, List.eraseDups_cons, List.length_cons]
      omega

/-! ## Positions in a site -/

/-- The names of the files of a site, in their order. -/
theorem names_of_files (catalogue : Catalogue) (options : Options) :
    (ofCatalogue catalogue options).files.map (·.name) = searchIndexName :: overviewName ::
      (pageNames catalogue.types.toList ++ [stylesheetName, scriptName]) := by
  rw [names_ofCatalogue]
  simp [pageNames]

theorem isRepeat_iff (files : List Site.File) (place : Nat) : IsRepeat files place ↔
    ∃ name, (files.map (·.name))[place]? = some name ∧ name ∈ (files.map (·.name)).take place := by
  simp [IsRepeat, ← List.map_take]

/-- The files behind the pages are called neither like a page nor like a file before the pages. -/
theorem behind_apart (held : name ∈ [stylesheetName, scriptName]) (types : List TypeEntry) :
    name ∉ [searchIndexName, overviewName] ++ pageNames types := by
  simp only [List.mem_cons, List.not_mem_nil, or_false] at held
  intro named
  rcases List.mem_append.mp named with first | page
  · rcases held with rfl | rfl <;>
      simp [searchIndexName, overviewName, stylesheetName, scriptName] at first
  · obtain ⟨type, _, same⟩ := List.mem_map.mp page
    obtain ⟨_, stylesheet, script⟩ := page_apart type.fullName
    rcases held with rfl | rfl
    · exact stylesheet same
    · exact script same

theorem behind_is_new (found : [stylesheetName, scriptName][index]? = some name)
    (types : List TypeEntry) : name ∉ searchIndexName :: overviewName ::
      (pageNames types ++ [stylesheetName, scriptName].take index) := by
  have apart := behind_apart (List.mem_of_getElem? found) types
  cases index with
  | zero =>
    cases found
    simpa using apart
  | succ index =>
    cases index with
    | zero =>
      cases found
      simpa [or_assoc, stylesheetName, scriptName] using apart
    | succ index => cases found

theorem page_repeated_iff (options : Options) (held : catalogue.types[index]? = some type) :
    IsRepeat (ofCatalogue catalogue options).files (index + 2) ↔ Address.page type.fullName ∈
      searchIndexName :: overviewName :: pageNames (catalogue.types.toList.take index) := by
  have found : (pageNames catalogue.types.toList)[index]? = some (Address.page type.fullName) := by
    simp [pageNames, held]
  obtain ⟨within, _⟩ := List.getElem?_eq_some_iff.mp found
  rw [isRepeat_iff, names_of_files]
  simp only [List.getElem?_cons_succ, List.take_succ_cons, List.getElem?_append_left within, found,
    List.take_append_of_le_length (Nat.le_of_lt within), Option.some.injEq, exists_eq_left']
  rw [pageNames, ← List.map_take, ← pageNames]

theorem others_not_repeated (options : Options) (vacant : catalogue.types[index]? = none) :
    ¬IsRepeat (ofCatalogue catalogue options).files (index + 2) := by
  have beyond : (pageNames catalogue.types.toList).length ≤ index := by
    simpa [pageNames] using vacant
  rw [isRepeat_iff, names_of_files]
  simp only [List.getElem?_cons_succ, List.take_succ_cons, List.getElem?_append_right beyond,
    List.take_append, List.take_of_length_le beyond]
  rintro ⟨name, found, named⟩
  exact behind_is_new found _ named

theorem first_not_repeated (catalogue : Catalogue) (options : Options) :
    ¬IsRepeat (ofCatalogue catalogue options).files 0 ∧
      ¬IsRepeat (ofCatalogue catalogue options).files 1 := by
  simp [isRepeat_iff, names_of_files, searchIndexName, overviewName]

/-- The reports are those of the pages that have the name of a file before them, in their order. -/
theorem clashes_eq (catalogue : Catalogue) (options : Options) :
    let site := ofCatalogue catalogue options
    site.clashes = (repeatedTypes catalogue site).map clashOf := by
  intro site
  have repeats : ∀ entry ∈ catalogue.types.toList.zipIdx,
      decide (Address.page entry.1.fullName ∈ [overviewName, searchIndexName] ++
        pageNames (catalogue.types.toList.take (entry.2 - 0))) =
      decide (IsRepeat site.files (entry.2 + 2)) := by
    intro entry held
    have found : catalogue.types[entry.2]? = some entry.1 := by
      simpa using List.mem_zipIdx_iff_getElem?.mp held
    simp [site, page_repeated_iff options found, or_left_comm]
  exact (clashesFrom_eq 0 _ _).trans (congrArg (fun kept => (kept.map Prod.fst).map clashOf)
    (List.filter_congr repeats))

theorem mem_repeatedTypes_iff : type ∈ repeatedTypes catalogue site ↔
    ∃ index, catalogue.types[index]? = some type ∧ IsRepeat site.files (index + 2) := by
  simp [repeatedTypes, List.mem_zipIdx_iff_getElem?]

/-- The report of a type tells its position, as no two types have the same name. -/
theorem reported_iff (consistent : Consistent catalogue) (options : Options)
    (held : catalogue.types[index]? = some type) :
    clashOf type ∈ (ofCatalogue catalogue options).clashes ↔
      IsRepeat (ofCatalogue catalogue options).files (index + 2) := by
  rw [clashes_eq, List.mem_map]
  constructor
  · rintro ⟨other, repeated, same⟩
    obtain ⟨place, there, repeated⟩ := mem_repeatedTypes_iff.mp repeated
    have fullName : other.fullName = type.fullName := congrArg Clash.owner same
    have here : (names catalogue)[index]? = some type.fullName := by simp [names, held]
    have within : index < (names catalogue).length := (List.getElem?_eq_some_iff.mp here).1
    have one : index = place := by
      apply (List.getElem?_inj within consistent.distinct).mp
      rw [here, ← fullName]
      simp [names, there]
    exact one ▸ repeated
  · exact fun repeated => ⟨type, mem_repeatedTypes_iff.mpr ⟨index, held, repeated⟩, rfl⟩

/-- Exactly the pages that are reported have the name of a file before them. -/
theorem isRepeat_iff_isReported (consistent : Consistent catalogue) (options : Options)
    (place : Nat) : IsRepeat (ofCatalogue catalogue options).files place ↔
      IsReported catalogue (ofCatalogue catalogue options) place := by
  obtain ⟨notFirst, notSecond⟩ := first_not_repeated catalogue options
  match place with
  | 0 => simp [notFirst, IsReported]
  | 1 => simp [notSecond, IsReported]
  | index + 2 =>
    cases held : catalogue.types[index]? with
    | none =>
      simp [others_not_repeated options held, IsReported, held]
    | some type =>
      rw [← reported_iff consistent options held]
      simp [IsReported, held]

/-- There are as many reports as files beyond one for each name. -/
theorem length_clashes (catalogue : Catalogue) (options : Options) :
    let site := ofCatalogue catalogue options
    site.clashes.length + (site.files.map (·.name)).eraseDups.length = site.files.length := by
  intro site
  have split : site.files.map (·.name) = ([searchIndexName, overviewName] ++
      pageNames catalogue.types.toList) ++ [stylesheetName, scriptName] :=
    names_ofCatalogue catalogue options
  have behind : ([stylesheetName, scriptName].removeAll ([searchIndexName, overviewName] ++
      pageNames catalogue.types.toList)).eraseDups = [stylesheetName, scriptName] := by
    have kept : [stylesheetName, scriptName].removeAll ([searchIndexName, overviewName] ++
        pageNames catalogue.types.toList) = [stylesheetName, scriptName] := by
      rw [List.removeAll, List.filter_eq_self]
      intro name held
      simpa using behind_apart held catalogue.types.toList
    rw [kept]
    rfl
  have swapped : (pageNames catalogue.types.toList).removeAll [overviewName, searchIndexName] =
      (pageNames catalogue.types.toList).removeAll [searchIndexName, overviewName] := by
    simp [List.removeAll, Bool.and_comm]
  have count := length_clashesFrom [overviewName, searchIndexName] catalogue.types.toList
  have length : site.files.length = catalogue.types.toList.length + 4 := by
    rw [← List.length_map (f := (·.name)), split]
    simp [pageNames]
  rw [swapped] at count
  rw [split, List.eraseDups_append, List.eraseDups_append, behind, length]
  have first : [searchIndexName, overviewName].eraseDups = [searchIndexName, overviewName] := rfl
  simp only [first, List.length_append, List.length_cons, List.length_nil, site, ofCatalogue]
  omega

/-! ## Writing -/

theorem wrote_no_warning (output : String) (fs : FileSystem) (files : List Site.File) :
    ∀ line ∈ (writeFiles output fs files).log, line.level = .debug := by
  induction files generalizing fs with
  | nil => simp [writeFiles_nil]
  | cons file later ih =>
    cases wrote : fs.write (Path.join output file.name) file.contents.toUTF8 with
    | error cause => simp [writeFiles_stopped wrote]
    | ok next =>
      rw [writeFiles_next wrote]
      simpa [wroteLine] using ih next

/-- The warnings in the log are the reports. -/
theorem warnings_of_writeSite (output : String) (fs : FileSystem) (site : Site) :
    (writeSite output fs site).log.filter (·.level = .warn) = site.clashes.map clashLine := by
  have all : (site.clashes.map clashLine).filter (·.level = .warn) = site.clashes.map clashLine := by
    simp [clashLine]
  cases made : fs.makeDirectories output with
  | mk prepared stop =>
    cases stop with
    | some cause =>
      rw [writeSite_unmade made]
      exact all
    | none =>
      have none : (writeFiles output prepared site.files).log.filter (·.level = .warn) = [] := by
        rw [List.filter_eq_nil_iff]
        intro line held
        simp [wrote_no_warning output prepared site.files line held]
      rw [writeSite_made made]
      simp only [List.filter_append, all, none, List.append_nil]

theorem lastNamed_of_distinct (distinct : (files.map Site.File.name).Nodup) (held : file ∈ files) :
    lastNamed? file.name files = some file := by
  obtain ⟨last, found⟩ := lastNamed_of_mem held
  obtain ⟨listed, named⟩ := List.mem_filter.mp (List.mem_of_getLast? found)
  rw [found, List.inj_on_of_nodup_map distinct listed held (of_decide_eq_true named)]

theorem distinct_of_no_repeat (new : ∀ place, ¬IsRepeat files place) :
    (files.map Site.File.name).Nodup := by
  refine List.pairwise_iff_getElem.mpr fun earlier place _ within before same => new place ?_
  rw [isRepeat_iff]
  refine ⟨_, List.getElem?_eq_getElem within, List.mem_take_iff_getElem.mpr ⟨earlier, ?_, same⟩⟩
  exact Nat.lt_min.mpr ⟨before, Nat.lt_trans before within⟩

/-- The files that have the name of a file before them are the pages that are reported, so there is
one report for each file too many, and the warnings in the log tell of each of them which page of
which type it is. No page is called like the stylesheet or the script, for which nobody looks. Where
nothing is reported and the site is written, each of its files stands in the directory as it was
made. -/
theorem reports_are_the_repeated_names (records : List Record) (options : Options) :
    let catalogue := Catalogue.ofRecords records
    let site := ofCatalogue catalogue options
    (∀ place, IsRepeat site.files place ↔ IsReported catalogue site place) ∧
    site.clashes = (repeatedTypes catalogue site).map clashOf ∧
    site.clashes.length + (site.files.map (·.name)).eraseDups.length = site.files.length ∧
    (∀ type ∈ catalogue.types,
      Address.page type.fullName ≠ stylesheetName ∧ Address.page type.fullName ≠ scriptName) ∧
    ∀ (fs : FileSystem) (output : String),
      let outcome := writeSite output fs site
      (outcome.log.filter (·.level = .warn) = (repeatedTypes catalogue site).map fun type =>
        ⟨.warn, "page " ++ Address.page type.fullName ++ " for " ++ type.fullName ++
          " overwrites another page with the same name"⟩) ∧
      (site.clashes = [] → ∀ paths, outcome.result = .ok paths → ∀ file ∈ site.files,
        outcome.files.find (Path.join output file.name) = .ok (.file file.contents.toUTF8)) := by
  intro catalogue site
  have consistent : Consistent catalogue := CatalogueGrouping.ofRecords_consistent records
  have positions : ∀ place, IsRepeat site.files place ↔ IsReported catalogue site place :=
    isRepeat_iff_isReported consistent options
  refine ⟨positions, clashes_eq catalogue options, length_clashes catalogue options, ?_, ?_⟩
  · intro type _
    exact (page_apart type.fullName).2
  · intro fs output outcome
    constructor
    · rw [warnings_of_writeSite, clashes_eq, List.map_map]
      rfl
    · intro silent paths done file held
      have distinct : (site.files.map Site.File.name).Nodup := by
        apply distinct_of_no_repeat
        intro place repeated
        obtain ⟨_, _, _, _, reported⟩ := (positions place).mp repeated
        rw [silent] at reported
        cases reported
      rcases writeSite_cases output fs site with
        ⟨cause, result⟩ | ⟨_, _, cause, result⟩ | ⟨prepared, made, written, _⟩
      · cases result.symm.trans done
      · cases result.symm.trans done
      · have effect := effect_of_written (site_plain catalogue options) made written
        exact effect.find_last held (lastNamed_of_distinct distinct held)

/-- Two types whose pages have the same name, and between them one that takes the name of the
overview. -/
def crowdedRecords : List Record :=
  [⟨⟨.type, "Box<", none, none, ""⟩, "", "", "", "", []⟩,
   ⟨⟨.method, "Plain", some "Run", none, ""⟩, "", "", "", "", []⟩,
   ⟨⟨.type, "index", none, none, ""⟩, "", "", "", "", []⟩,
   ⟨⟨.type, "Box>", none, none, ""⟩, "", "", "", "", []⟩]

def plainRecords : List Record :=
  [⟨⟨.method, "Plain", some "Run", none, ""⟩, "", "", "", "", []⟩]

theorem crowded_pages_are_reported :
    let crowded := ofCatalogue (Catalogue.ofRecords crowdedRecords) {}
    let plain := ofCatalogue (Catalogue.ofRecords plainRecords) {}
    crowded.clashes = [⟨"index.html", "index"⟩, ⟨"Box_.html", "Box>"⟩] ∧
      (writeSite "out" .empty crowded).log.filter (·.level = .warn) =
        [⟨.warn, "page index.html for index overwrites another page with the same name"⟩,
         ⟨.warn, "page Box_.html for Box> overwrites another page with the same name"⟩] ∧
      IsRepeat crowded.files 4 ∧ ¬IsRepeat crowded.files 2 ∧
      plain.clashes = [] ∧
      (writeSite "out" .empty plain).result = .ok ["out/search-index.json", "out/index.html",
        "out/Plain.html", "out/style.css", "out/script.js"] ∧
      ∀ file ∈ plain.files, (writeSite "out" .empty plain).files.find (Path.join "out" file.name) =
        .ok (.file file.contents.toUTF8) := by
  intro crowded plain
  have clashes : crowded.clashes = [⟨"index.html", "index"⟩, ⟨"Box_.html", "Box>"⟩] := by
    decide +kernel
  have box : (Catalogue.ofRecords crowdedRecords).types[0]? = some
      { fullName := "Box<", simpleName := "Box<", namespaceName := "" } := by decide +kernel
  have index : (Catalogue.ofRecords crowdedRecords).types[2]? = some
      { fullName := "index", simpleName := "index", namespaceName := "" } := by decide +kernel
  have silent : plain.clashes = [] := by decide +kernel
  have written : (writeSite "out" .empty plain).result = .ok ["out/search-index.json",
      "out/index.html", "out/Plain.html", "out/style.css", "out/script.js"] := by decide +kernel
  obtain ⟨positions, reports, _, _, logs⟩ := reports_are_the_repeated_names crowdedRecords {}
  obtain ⟨_, _, _, _, writes⟩ := reports_are_the_repeated_names plainRecords {}
  refine ⟨clashes, ?_, ?_, ?_, silent, written, (writes .empty "out").2 silent _ written⟩
  · have told := congrArg (List.map clashLine) (reports.symm.trans clashes)
    rw [List.map_map] at told
    exact (logs .empty "out").1.trans told
  · refine (positions 4).mpr ⟨2, _, rfl, index, ?_⟩
    rw [clashes]
    exact List.mem_cons_self
  · intro repeated
    obtain ⟨place, type, same, held, reported⟩ := (positions 2).mp repeated
    cases same
    cases box.symm.trans held
    rw [clashes] at reported
    simp [clashOf] at reported

end DocPages.PageClashes
