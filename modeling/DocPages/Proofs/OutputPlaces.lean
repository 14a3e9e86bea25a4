import DocPages.Proofs.SiteWriting

/-! Whatever the types are called, a site is written into its directory and nowhere else. Names are
made safe character by character, so no name holds a separator, and an ending keeps pages from being
called like a directory; a path that is joined from such a name goes one step further than the
directory, in any file system in which it leads anywhere. -/
namespace DocPages.OutputPlaces
open FileSystem Generation DirectoryMaking FileWriting SiteWriting

variable {fs : FileSystem} {output name : String} {place : Location}

/-- A name that is one step on every system, and has none of the characters that separate steps, name
drives or stand for other names on some. -/
structure IsSafe (name : String) : Prop extends IsPlain name where
  allowed : ∀ c ∈ name.toList, c ∉ ['<', '>', ':', '"', '/', '\\', '|', '?', '*']

/-- The place is that of an entry with this name in the directory itself. -/
def IsChild (fs : FileSystem) (output name : String) (place : Location) : Prop :=
  ∃ home, fs.follow [] (Path.ofText output).steps = .ok home ∧ place = name :: home

/-! ## Names -/

theorem fixed_allowed (held : name ∈ fixedNames) : ∀ c ∈ name.toList, c ∉ Address.forbidden := by
  have all : fixedNames.all fun name => name.toList.all (· ∉ Address.forbidden) := rfl
  simpa using List.all_eq_true.mp all name held

theorem site_safe (catalogue : Catalogue) (options : Options) :
    ∀ file ∈ (Site.ofCatalogue catalogue options).files, IsSafe file.name := by
  intro file held
  refine ⟨site_plain catalogue options file held, ?_⟩
  rcases site_named held with fixed | ⟨type, _, same⟩
  · exact fixed_allowed fixed
  · exact same ▸ SafeNames.page_allowed type.fullName

theorem page_ends (owner : String) : ".html".toList <:+ (Address.page owner).toList := by
  rw [Address.page, String.toList_append]
  exact List.suffix_append _ _

/-! ## Places -/

/-- A path that can be followed can be followed in two parts. -/
theorem follow_split {earlier later : List String}
    (reached : fs.follow place (earlier ++ later) = .ok found) :
    ∃ between, fs.follow place earlier = .ok between ∧ fs.follow between later = .ok found := by
  induction earlier generalizing place with
  | nil => exact ⟨place, rfl, reached⟩
  | cons step earlier ih =>
    obtain ⟨directory, fits, rest⟩ := follow_of_step reached
    rw [follow_cons directory, if_neg (Nat.not_lt.mpr fits)]
    exact ih rest

/-- A path that is joined from a plain name leads into the directory itself. -/
theorem isChild_of_located (plain : IsPlain name)
    (located : fs.locate (Path.join output name) = .ok place) : IsChild fs output name place := by
  have whole := follow_of_locate located
  rw [steps_join plain] at whole
  obtain ⟨home, reached, _⟩ := follow_split whole
  exact ⟨home, reached, locate_join plain reached located⟩

/-- Writing a site has the effect of writing some of its first files, however it ends. -/
theorem writeSite_effect (output : String) (fs : FileSystem) (site : Site)
    (plain : ∀ file ∈ site.files, IsPlain file.name) :
    ∃ files, files <+: site.files ∧ Effect fs output files (writeSite output fs site).files := by
  rcases writeSite_reaches output fs site with
    ⟨cause, unmade⟩ | ⟨prepared, files, made, first, written⟩
  · have effect := effect_of_made fs output
    rw [unmade] at effect
    exact ⟨[], List.nil_prefix, effect⟩
  · exact ⟨files, first,
      effect_of_written (fun file held => plain file (first.subset held)) made written⟩

/-- Whatever the types of a site are called, the names of its files are safe, and those of its pages
end like pages, so they are not those of the other files. Hence a path that is written leads into
the directory itself wherever it leads to anything, and whether or not a site can be written to its
end, nothing is different in the end but files in its directory, and directories on the way there
that were missing. -/
theorem sites_stay_in_their_directory (catalogue : Catalogue) (options : Options) :
    let site := Site.ofCatalogue catalogue options
    (∀ file ∈ site.files, IsSafe file.name) ∧
    (∀ type ∈ catalogue.types,
      let page := (Site.typeFile catalogue options type).name
      ".html".toList <:+ page.toList ∧ page ≠ Site.searchIndexName ∧
        page ≠ Site.stylesheetName ∧ page ≠ Site.scriptName) ∧
    (∀ file ∈ site.files, ∀ (fs : FileSystem) (output : String) (place : Location),
      fs.locate (Path.join output file.name) = .ok place → IsChild fs output file.name place) ∧
    ∀ (fs : FileSystem) (output : String),
      let outcome := writeSite output fs site
      (∀ paths, outcome.result = .ok paths →
        paths = site.files.map fun file => Path.join output file.name) ∧
      ∀ place, outcome.files.get? place = fs.get? place ∨
        (∃ file ∈ site.files, IsChild outcome.files output file.name place) ∨
        (fs.get? place = none ∧ outcome.files.get? place = some .directory ∧
          OnTheWay [] (Path.ofText output).steps place) := by
  intro site
  have plain : ∀ file ∈ site.files, IsPlain file.name := site_plain catalogue options
  refine ⟨site_safe catalogue options, ?_, ?_, ?_⟩
  · intro type _
    exact ⟨page_ends type.fullName, page_apart type.fullName⟩
  · intro file held fs output place located
    exact isChild_of_located (plain file held) located
  · intro fs output outcome
    constructor
    · intro paths done
      rcases writeSite_cases output fs site with
        ⟨cause, result⟩ | ⟨_, _, cause, result⟩ | ⟨_, _, _, result⟩ <;>
        cases result.symm.trans done
      rfl
    · intro place
      obtain ⟨files, first, effect⟩ := writeSite_effect output fs site plain
      rcases effect.unchanged place with same | ⟨file, held, located⟩ | made
      · exact .inl same
      · have listed := first.subset held
        exact .inr (.inl ⟨file, listed, isChild_of_located (plain file listed) located⟩)
      · exact .inr (.inr made)

/-- Types whose names would lead out of the directory, name a drive or are empty. -/
def strayRecords : List Record :=
  [⟨⟨.type, "../../etc/cron", none, none, ".."⟩, "", "", "", "", []⟩,
   ⟨⟨.type, "C:\\boot", none, none, ""⟩, "", "", "", "", []⟩,
   ⟨⟨.type, "", none, none, ""⟩, "", "", "", "", []⟩]

theorem stray_types_stay_inside :
    let catalogue := Catalogue.ofRecords strayRecords
    let site := Site.ofCatalogue catalogue {}
    let outcome := writeSite "out" .empty site
    site.files.map (·.name) = ["search-index.json", "index.html", ".._.._etc_cron.html",
      "C__boot.html", ".html", "style.css", "script.js"] ∧
    (∀ file ∈ site.files, IsSafe file.name) ∧
    (∃ type ∈ catalogue.types, Address.page type.fullName = ".html" ∧
      Address.page type.fullName ≠ Site.scriptName) ∧
    IsChild outcome.files "out" ".._.._etc_cron.html" [".._.._etc_cron.html", "out"] ∧
    outcome.result = .ok (site.files.map fun file => Path.join "out" file.name) := by
  intro catalogue site outcome
  have files : site.files.map (·.name) = ["search-index.json", "index.html",
      ".._.._etc_cron.html", "C__boot.html", ".html", "style.css", "script.js"] := by
    decide +kernel
  have nameless : catalogue.types[2]? = some
      { fullName := "", simpleName := "", namespaceName := "" } := by decide +kernel
  have located : outcome.files.locate "out/.._.._etc_cron.html" =
      .ok [".._.._etc_cron.html", "out"] := by decide +kernel
  have written : outcome.result = .ok ["out/search-index.json", "out/index.html",
      "out/.._.._etc_cron.html", "out/C__boot.html", "out/.html", "out/style.css",
      "out/script.js"] := by decide +kernel
  obtain ⟨safe, pages, inside, writes⟩ := sites_stay_in_their_directory catalogue {}
  refine ⟨files, safe, ?_, ?_, ?_⟩
  · have held := Array.mem_of_getElem? nameless
    exact ⟨_, held, rfl, (pages _ held).2.2.2⟩
  · have listed : ".._.._etc_cron.html" ∈ site.files.map (·.name) := by
      rw [files]
      simp
    obtain ⟨file, held, named⟩ := List.mem_map.mp listed
    have child := inside file held outcome.files "out" [".._.._etc_cron.html", "out"]
    rw [named] at child
    exact child located
  · rw [written, (writes .empty "out").1 _ written]

end DocPages.OutputPlaces
