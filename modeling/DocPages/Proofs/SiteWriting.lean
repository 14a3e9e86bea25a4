import DocPages.Proofs.CatalogueGrouping
import DocPages.Proofs.FileWriting
import DocPages.Proofs.SafeNames

/-! Writing a site has exactly the effect that its list of files tells, whether it is brought to an
end or stops half-way: what was written stands where it belongs, the last file of each name in the
place of the others, and nothing else is different. -/
namespace DocPages.SiteWriting
open FileSystem Generation DirectoryMaking FileWriting HostSteps

variable {before after : FileSystem} {output : String}

/-- What one file system has become of another when these files were written into a directory that
was made if it was missing. -/
structure Effect (before : FileSystem) (output : String) (files : List Site.File)
    (after : FileSystem) : Prop where
  /-- Under each name stands the last file that has it. -/
  written : ∀ file ∈ files, ∃ last, lastNamed? file.name files = some last ∧
    after.find (Path.join output file.name) = .ok (.file last.contents.toUTF8)
  /-- Only the places of these files and missing directories on the way are different. -/
  unchanged : ∀ place, after.get? place = before.get? place ∨
    (∃ file ∈ files, after.locate (Path.join output file.name) = .ok place) ∨
    (before.get? place = none ∧ after.get? place = some .directory ∧
      OnTheWay [] (Path.ofText output).steps place)

theorem find_file (located : after.locate path = .ok place)
    (there : after.get? place = some (.file contents))
    (unslashed : (Path.ofText path).slashed = false) : after.find path = .ok (.file contents) := by
  simp [find, located, there, unslashed]

theorem Effect.find_last (effect : Effect before output files after) (held : file ∈ files)
    (last : lastNamed? file.name files = some stands) :
    after.find (Path.join output file.name) = .ok (.file stands.contents.toUTF8) := by
  obtain ⟨_, found, there⟩ := effect.written file held
  cases last.symm.trans found
  exact there

theorem effect_of_made (fs : FileSystem) (output : String) :
    Effect fs output [] (fs.makeDirectories output).1 where
  written := by simp
  unchanged := by
    intro place
    rcases makeDirectories_effect fs output place with same | made
    · exact .inl same
    · exact .inr (.inr made)

theorem effect_of_written (plain : ∀ file ∈ files, IsPlain file.name)
    (made : before.makeDirectories output = (prepared, none))
    (written : Written output prepared files after) : Effect before output files after := by
  obtain ⟨reached, _⟩ := makeDirectories_followed made
  have makes := makeDirectories_effect before output
  rw [made] at makes
  obtain ⟨keeps, effect, located⟩ := written_effect plain reached written
  constructor
  · intro file held
    obtain ⟨last, found⟩ := lastNamed_of_mem held
    refine ⟨last, found, find_file (located file held) ?_ (slashed_join (plain file held) output)⟩
    rw [effect, overwritten_named, found]
  · intro place
    by_cases here : ∃ file ∈ files, file.name :: leadOf output = place
    · obtain ⟨file, held, rfl⟩ := here
      exact .inr (.inl ⟨file, held, located file held⟩)
    · have same : after.get? place = prepared.get? place := by
        rw [effect, overwritten_elsewhere fun file held same => here ⟨file, held, same⟩]
      rw [same]
      rcases makes place with unchanged | made
      · exact .inl unchanged
      · exact .inr (.inr made)

/-! ## The names of a site's files -/

/-- The names of the files that every site has. -/
def fixedNames : List String :=
  [Site.searchIndexName, Site.overviewName, Site.stylesheetName, Site.scriptName]

theorem fixed_plain (held : name ∈ fixedNames) : IsPlain name := by
  simp only [fixedNames, List.mem_cons, List.not_mem_nil, or_false] at held
  rcases held with rfl | rfl | rfl | rfl <;> exact ⟨by decide, by decide, by decide, by decide⟩

theorem page_plain (owner : String) : IsPlain (Address.page owner) := by
  have last := SafeNames.page_last owner
  refine ⟨?_, SafeNames.page_unslashed owner, ?_, ?_⟩ <;>
  · intro same
    rw [same] at last
    revert last
    decide

/-- Only the overview is called like a page. -/
theorem page_apart (owner : String) : Address.page owner ≠ Site.searchIndexName ∧
    Address.page owner ≠ Site.stylesheetName ∧ Address.page owner ≠ Site.scriptName := by
  have last := SafeNames.page_last owner
  refine ⟨?_, ?_, ?_⟩ <;>
  · intro same
    simp [same, Site.searchIndexName, Site.stylesheetName, Site.scriptName] at last

theorem names_ofCatalogue (catalogue : Catalogue) (options : Options) :
    (Site.ofCatalogue catalogue options).files.map (·.name) =
      [Site.searchIndexName, Site.overviewName] ++
        catalogue.types.toList.map (Address.page ·.fullName) ++
        [Site.stylesheetName, Site.scriptName] := by
  simp [Site.ofCatalogue, Site.typeFile, Function.comp_def]

/-- A file of a site is called like one that every site has, or like the page of a type. -/
theorem site_named {file : Site.File} (held : file ∈ (Site.ofCatalogue catalogue options).files) :
    file.name ∈ fixedNames ∨ ∃ type ∈ catalogue.types, Address.page type.fullName = file.name := by
  have named : file.name ∈ (Site.ofCatalogue catalogue options).files.map (·.name) :=
    List.mem_map_of_mem held
  rw [names_ofCatalogue] at named
  rcases List.mem_append.mp named with before | behind
  · rcases List.mem_append.mp before with first | page
    · exact .inl (List.mem_append_left [Site.stylesheetName, Site.scriptName] first)
    · obtain ⟨type, listed, same⟩ := List.mem_map.mp page
      exact .inr ⟨type, Array.mem_toList_iff.mp listed, same⟩
  · exact .inl (List.mem_append_right [Site.searchIndexName, Site.overviewName] behind)

theorem site_plain (catalogue : Catalogue) (options : Options) :
    ∀ file ∈ (Site.ofCatalogue catalogue options).files, IsPlain file.name := by
  intro file held
  rcases site_named held with fixed | ⟨type, _, same⟩
  · exact fixed_plain fixed
  · exact same ▸ page_plain type.fullName

theorem site_names (records : List Record) (options : Options) :
    (Site.ofCatalogue (Catalogue.ofRecords records) options).files.map (·.name) =
      [Site.searchIndexName, Site.overviewName] ++
        (CatalogueGrouping.owners records).map Address.page ++
        [Site.stylesheetName, Site.scriptName] := by
  rw [names_ofCatalogue, ← CatalogueGrouping.names_ofRecords, CatalogueConsistency.names,
    List.map_map]
  rfl

/-- Files that are called like no page are not overwritten by one. -/
theorem pages_otherwise (other : ∀ owner, Address.page owner ≠ name) (catalogue : Catalogue)
    (options : Options) (types : List TypeEntry) :
    (types.map (Site.typeFile catalogue options)).filter (·.name = name) = [] := by
  rw [List.filter_eq_nil_iff]
  intro file held named
  obtain ⟨type, _, rfl⟩ := List.mem_map.mp held
  exact other type.fullName (of_decide_eq_true named)

/-- The files that every site has and no page replaces. -/
def fixedFiles (catalogue : Catalogue) : List Site.File :=
  [⟨Site.searchIndexName, SearchIndex.jsonText (SearchIndex.ofCatalogue catalogue)⟩,
   ⟨Site.stylesheetName, Site.stylesheet⟩, ⟨Site.scriptName, Site.script⟩]

theorem lastNamed_fixed (catalogue : Catalogue) (options : Options) :
    ∀ file ∈ fixedFiles catalogue, file ∈ (Site.ofCatalogue catalogue options).files ∧
      lastNamed? file.name (Site.ofCatalogue catalogue options).files = some file := by
  intro file held
  simp only [fixedFiles, List.mem_cons, List.not_mem_nil, or_false] at held
  have otherwise : ∀ owner, Address.page owner ≠ file.name := by
    intro owner
    obtain ⟨searchIndex, stylesheet, script⟩ := page_apart owner
    rcases held with rfl | rfl | rfl
    · exact searchIndex
    · exact stylesheet
    · exact script
  have pages := pages_otherwise otherwise catalogue options catalogue.types.toList
  rcases held with rfl | rfl | rfl
  all_goals
    refine ⟨by simp [Site.ofCatalogue], ?_⟩
    simp only [lastNamed?, Site.ofCatalogue, List.filter_append, pages]
    rfl

def overviewFile (catalogue : Catalogue) (options : Options) : Site.File :=
  ⟨Site.overviewName, (Page.overview catalogue options).render⟩

/-- The types whose page replaces the overview. -/
def overviewTakers (catalogue : Catalogue) : List TypeEntry :=
  catalogue.types.toList.filter fun type => Address.page type.fullName = Site.overviewName

theorem lastNamed_overview (catalogue : Catalogue) (options : Options) :
    overviewFile catalogue options ∈ (Site.ofCatalogue catalogue options).files ∧
      lastNamed? Site.overviewName (Site.ofCatalogue catalogue options).files =
        some (((overviewTakers catalogue).getLast?.map (Site.typeFile catalogue options)).getD
          (overviewFile catalogue options)) := by
  refine ⟨by simp [Site.ofCatalogue, overviewFile], ?_⟩
  have pages : ((catalogue.types.toList.map (Site.typeFile catalogue options)).filter
      (·.name = Site.overviewName)) =
        (overviewTakers catalogue).map (Site.typeFile catalogue options) := by
    rw [List.filter_map]
    rfl
  have first : [⟨Site.searchIndexName, SearchIndex.jsonText (SearchIndex.ofCatalogue catalogue)⟩,
      overviewFile catalogue options].filter (·.name = Site.overviewName) =
        [overviewFile catalogue options] := rfl
  have last : [(⟨Site.stylesheetName, Site.stylesheet⟩ : Site.File),
      ⟨Site.scriptName, Site.script⟩].filter (·.name = Site.overviewName) = [] := rfl
  simp only [overviewFile] at first ⊢
  rw [lastNamed?, Site.ofCatalogue, List.filter_append, List.filter_append, first, pages, last,
    List.append_nil, List.singleton_append, List.getLast?_cons, List.getLast?_map]

/-- There is at most one type whose page replaces the overview. -/
theorem overviewTakers_unique (consistent : CatalogueConsistency.Consistent catalogue)
    (held : type ∈ overviewTakers catalogue) (held' : type' ∈ overviewTakers catalogue) :
    type = type' := by
  have named : ∀ other ∈ overviewTakers catalogue, other ∈ catalogue.types ∧
      other.fullName = "index" := by
    intro other held
    obtain ⟨listed, same⟩ := List.mem_filter.mp held
    exact ⟨Array.mem_toList_iff.mp listed,
      SafeNames.owner_of_page (of_decide_eq_true same) (by decide)⟩
  obtain ⟨listed, name⟩ := named type held
  obtain ⟨listed', name'⟩ := named type' held'
  have found := CatalogueConsistency.get_of_mem consistent listed
  rw [name, ← name', CatalogueConsistency.get_of_mem consistent listed'] at found
  exact (Option.some.inj found).symm

/-- The file that stands for the overview has its text just if no page has taken its place or the
page that has is the same text. -/
theorem overview_kept_iff (consistent : CatalogueConsistency.Consistent catalogue)
    (options : Options) :
    let standing := ((overviewTakers catalogue).getLast?.map
      (Site.typeFile catalogue options)).getD (overviewFile catalogue options)
    standing.contents = (Page.overview catalogue options).render ↔
      (∀ type ∈ catalogue.types, Address.page type.fullName ≠ Site.overviewName) ∨
      ∃ type ∈ catalogue.types, Address.page type.fullName = Site.overviewName ∧
        (Page.ofType catalogue type options).render = (Page.overview catalogue options).render := by
  have takes : ∀ type, type ∈ overviewTakers catalogue ↔
      type ∈ catalogue.types ∧ Address.page type.fullName = Site.overviewName := by
    simp [overviewTakers]
  intro standing
  cases taken : (overviewTakers catalogue).getLast? with
  | none =>
    have free : overviewTakers catalogue = [] := List.getLast?_eq_none_iff.mp taken
    have kept : ∀ type ∈ catalogue.types, Address.page type.fullName ≠ Site.overviewName := by
      intro type held named
      have := (takes type).mpr ⟨held, named⟩
      simp [free] at this
    simp only [standing, taken, Option.map_none, Option.getD_none, overviewFile, true_iff]
    exact .inl kept
  | some taker =>
    have listed : taker ∈ overviewTakers catalogue := List.mem_of_getLast? taken
    obtain ⟨held, named⟩ := (takes taker).mp listed
    simp only [standing, taken, Option.map_some, Option.getD_some, Site.typeFile]
    constructor
    · exact fun same => .inr ⟨taker, held, named, same⟩
    -- Another type with that page would have the same name and so be the same type.
    · rintro (free | ⟨type, held', named', same⟩)
      · exact absurd named (free taker held)
      · have one := overviewTakers_unique consistent ((takes type).mpr ⟨held', named'⟩) listed
        exact one ▸ same

/-! ## Writing the site -/

/-- Writing a site ends at its directory, at one of its files or with all of them written. -/
theorem writeSite_cases (output : String) (fs : FileSystem) (site : Site) :
    (∃ cause, (writeSite output fs site).result = .error (.file (.makeDirectory output) cause)) ∨
    (∃ file ∈ site.files, ∃ cause, (writeSite output fs site).result =
      .error (.file (.write (Path.join output file.name)) cause)) ∨
    ∃ prepared, fs.makeDirectories output = (prepared, none) ∧
      Written output prepared site.files (writeSite output fs site).files ∧
      (writeSite output fs site).result =
        .ok (site.files.map fun file => Path.join output file.name) := by
  cases made : fs.makeDirectories output with
  | mk prepared stop =>
    cases stop with
    | some cause =>
      rw [writeSite_unmade made]
      exact .inl ⟨cause, rfl⟩
    | none =>
      simp only [writeSite_made made]
      rcases written_or_stopped output prepared site.files with
        ⟨final, written⟩ | ⟨earlier, file, later, between, cause, split, written, stopped⟩
      · obtain ⟨files, result⟩ := writeFiles_of_written written
        rw [files, result]
        exact .inr (.inr ⟨prepared, rfl, written, rfl⟩)
      · refine .inr (.inl ⟨file, by simp [split], cause, ?_⟩)
        rw [split]
        exact (writeFiles_of_stopped written stopped later).2

/-- However writing a site ends, it has come to grief over the directory or has written some of the
first files. -/
theorem writeSite_reaches (output : String) (fs : FileSystem) (site : Site) :
    (∃ cause, fs.makeDirectories output = ((writeSite output fs site).files, some cause)) ∨
    ∃ prepared files, fs.makeDirectories output = (prepared, none) ∧ files <+: site.files ∧
      Written output prepared files (writeSite output fs site).files := by
  cases made : fs.makeDirectories output with
  | mk prepared stop =>
    cases stop with
    | some cause =>
      rw [writeSite_unmade made]
      exact .inl ⟨cause, rfl⟩
    | none =>
      simp only [writeSite_made made]
      refine .inr ?_
      rcases written_or_stopped output prepared site.files with
        ⟨final, written⟩ | ⟨earlier, file, later, between, cause, split, written, stopped⟩
      · rw [(writeFiles_of_written written).1]
        exact ⟨prepared, site.files, rfl, List.prefix_rfl, written⟩
      · rw [split, (writeFiles_of_stopped written stopped later).1]
        exact ⟨prepared, earlier, rfl, List.prefix_append _ _, written⟩

/-- Writing a site that has the directory and can write the first files, and then one that it
cannot, comes to an error that names the path of that one; if it can write all, it returns their
paths. Either way the files that were written stand in the directory, the last of each name, and
nothing else has changed but for directories that were missing. At the end the search index, the
stylesheet and the script are there in any case, and the overview unless a type's page has taken its
name. -/
theorem sites_are_written_file_by_file (records : List Record) (options : Options)
    (fs : FileSystem) (output : String) :
    let catalogue := Catalogue.ofRecords records
    let site := Site.ofCatalogue catalogue options
    let outcome := writeSite output fs site
    (∀ partly cause, fs.makeDirectories output = (partly, some cause) →
      outcome.result = .error (.file (.makeDirectory output) cause) ∧
      (Failure.file (.makeDirectory output) cause).message =
        "IO error: failed to create output directory " ++ output ∧
      Effect fs output [] outcome.files) ∧
    ∀ prepared, fs.makeDirectories output = (prepared, none) →
      (∀ earlier file later between cause, site.files = earlier ++ file :: later →
        Written output prepared earlier between →
        between.write (Path.join output file.name) file.contents.toUTF8 = .error cause →
          outcome.result = .error (.file (.write (Path.join output file.name)) cause) ∧
          (Failure.file (.write (Path.join output file.name)) cause).message =
            "IO error: failed to write " ++ Path.join output file.name ∧
          Effect fs output earlier outcome.files) ∧
      ∀ final, Written output prepared site.files final →
        outcome.result = .ok (site.files.map fun file => Path.join output file.name) ∧
        Effect fs output site.files outcome.files ∧
        (∀ file ∈ fixedFiles catalogue, outcome.files.find (Path.join output file.name) =
          .ok (.file file.contents.toUTF8)) ∧
        (outcome.files.find (Path.join output Site.overviewName) =
            .ok (.file (Page.overview catalogue options).render.toUTF8) ↔
          (∀ type ∈ catalogue.types, Address.page type.fullName ≠ Site.overviewName) ∨
          ∃ type ∈ catalogue.types, Address.page type.fullName = Site.overviewName ∧
            (Page.ofType catalogue type options).render =
              (Page.overview catalogue options).render) := by
  intro catalogue site outcome
  have plain : ∀ file ∈ site.files, IsPlain file.name := site_plain catalogue options
  refine ⟨?_, ?_⟩
  · intro partly cause failed
    have effect := effect_of_made fs output
    rw [failed] at effect
    simp only [outcome, writeSite_unmade failed, true_and]
    exact ⟨rfl, effect⟩
  · intro prepared made
    simp only [outcome, writeSite_made made]
    refine ⟨?_, ?_⟩
    · intro earlier file later between cause split written stopped
      obtain ⟨files, result⟩ := writeFiles_of_stopped written stopped later
      rw [split, files]
      refine ⟨result, rfl, effect_of_written (fun file held => plain file ?_) made written⟩
      rw [split]
      exact List.mem_append_left _ held
    · intro final written
      obtain ⟨files, result⟩ := writeFiles_of_written written
      have effect := effect_of_written plain made written
      rw [files]
      refine ⟨result, effect, ?_, ?_⟩
      · intro file fixed
        obtain ⟨held, last⟩ := lastNamed_fixed catalogue options file fixed
        exact effect.find_last held last
      · obtain ⟨held, last⟩ := lastNamed_overview catalogue options
        have there := effect.find_last held last
        simp only [overviewFile] at there
        rw [there, Except.ok.injEq, Entry.file.injEq, String.toUTF8, String.toUTF8,
          String.toByteArray_inj]
        exact overview_kept_iff (CatalogueGrouping.ofRecords_consistent records) options

/-- A type whose page is called like the overview. -/
def indexRecord : Record where
  identifier :=
    { kind := .type, owner := "index", member := none, signature := none, namespaceName := "" }
  summary := ""
  remarks := ""
  exampleText := ""
  returns := ""
  params := []

theorem index_site_names (options : Options) :
    (Site.ofCatalogue (Catalogue.ofRecords [indexRecord]) options).files.map (·.name) =
      ["search-index.json", "index.html", "index.html", "style.css", "script.js"] := by
  have owned : CatalogueGrouping.owners [indexRecord] = ["index"] := by decide +kernel
  rw [site_names, owned]
  decide +kernel

theorem index_site_written (made : before.makeDirectories "out" = (prepared, none))
    (free : ∀ name, prepared.get? [name, "out"] ≠ some .directory) (options : Options) :
    ∃ final, Written "out" prepared
      (Site.ofCatalogue (Catalogue.ofRecords [indexRecord]) options).files final := by
  have fits : ∀ name ∈ ["search-index.json", "index.html", "index.html", "style.css", "script.js"],
      Fits "out" name := by
    simp only [List.forall_mem_cons, List.not_mem_nil, false_imp_iff, implies_true, and_true]
    refine ⟨?_, ?_, ?_, ?_, ?_⟩ <;> constructor <;> decide +kernel
  obtain ⟨reached, directory⟩ := makeDirectories_followed made
  refine written_of_free _ (site_plain _ options) ?_ reached directory free
  intro file held
  apply fits
  rw [← index_site_names options]
  exact List.mem_map_of_mem held

/-- A directory in which the overview cannot be written. -/
def blockedDirectory : FileSystem :=
  (empty.set ["out"] .directory).set [Site.overviewName, "out"] .directory

theorem index_site_written_or_blocked :
    let catalogue := Catalogue.ofRecords [indexRecord]
    let site := Site.ofCatalogue catalogue {}
    let searchIndex : Site.File :=
      ⟨Site.searchIndexName, SearchIndex.jsonText (SearchIndex.ofCatalogue catalogue)⟩
    let taken := empty.set ["out"] (.file ByteArray.empty)
    ((writeSite "out" taken site).result = .error (.file (.makeDirectory "out") .fileExists) ∧
      Effect taken "out" [] (writeSite "out" taken site).files) ∧
    ((writeSite "out" blockedDirectory site).result =
        .error (.file (.write "out/index.html") .isDirectory) ∧
      (Failure.file (.write "out/index.html") .isDirectory).message =
        "IO error: failed to write out/index.html" ∧
      Effect blockedDirectory "out" [searchIndex]
        (writeSite "out" blockedDirectory site).files) ∧
    (writeSite "out" empty site).result = .ok ["out/search-index.json", "out/index.html",
      "out/index.html", "out/style.css", "out/script.js"] ∧
    (writeSite "out" empty site).files.find "out/script.js" =
      .ok (.file Site.script.toUTF8) := by
  intro catalogue site searchIndex taken
  have settled := sites_are_written_file_by_file [indexRecord] {}
  have first : Path.join "out" Site.searchIndexName = "out/search-index.json" := rfl
  have second : Path.join "out" Site.overviewName = "out/index.html" := rfl
  have message : "IO error: failed to write " ++ "out/index.html" =
    "IO error: failed to write out/index.html" := rfl
  obtain ⟨unmade, _, untouched⟩ := (settled taken "out").1 _ _ rfl
  refine ⟨⟨unmade, untouched⟩, ?_, ?_⟩
  · have located : blockedDirectory.locate "out/search-index.json" =
        .ok ["search-index.json", "out"] := rfl
    have vacant : blockedDirectory.get? ["search-index.json", "out"] = none := rfl
    have wrote := write_located located (not_directory_of_vacant vacant)
      searchIndex.contents.toUTF8
    have stopped : ∀ contents text,
        (blockedDirectory.set ["search-index.json", "out"] (.file contents)).write "out/index.html"
          text = .error .isDirectory := fun _ _ => rfl
    rw [← first] at wrote
    rw [← second] at stopped
    rw [← message, ← second]
    exact ((settled blockedDirectory "out").2 blockedDirectory rfl).1 [searchIndex]
      (overviewFile catalogue {}) _ _ .isDirectory rfl (.next wrote (.nothing _)) (stopped _ _)
  · have made : empty.makeDirectories "out" = (empty.set ["out"] .directory, none) := rfl
    have free : ∀ name, (empty.set ["out"] .directory).get? [name, "out"] ≠ some .directory := by
      intro name
      rw [get?_set _ _ _ (by simp)]
      simp [get?, empty]
    obtain ⟨final, written⟩ := index_site_written made free {}
    obtain ⟨result, _, fixed, _⟩ := ((settled empty "out").2 _ made).2 final written
    have paths := congrArg (List.map (Path.join "out")) (index_site_names {})
    rw [List.map_map] at paths
    exact ⟨result.trans (congrArg Except.ok paths),
      fixed ⟨Site.scriptName, Site.script⟩ (by simp [fixedFiles])⟩

end DocPages.SiteWriting
