import DocPages.CommandLine
import DocPages.Proofs.SiteWriting

/-! How a run ends can be told from what stands at its input, and a run that has nothing to write
leaves every file as it was. Whatever is found there is found before anything is written, so the
proofs go through what a run finds: a failure, or records that document a type. -/
namespace DocPages.RunOutcome
open FileSystem Generation HostSteps FileWriting SiteWriting
open CatalogueGrouping (documentedKinds)
open Members (Extraction)

variable {fs : FileSystem} {input output path text : String} {options : Options}
  {failure : Failure}

/-! ## What stands at the input -/

/-- The file at this path holds this text. -/
def Holds (fs : FileSystem) (path text : String) : Prop :=
  fs.find path = .ok (.file text.toUTF8)

/-- The file at this path holds a document with these records. -/
def Documents (fs : FileSystem) (path : String) (records : List Record) : Prop :=
  ∃ text, Holds fs path text ∧ (Extraction.ofText text).records = .ok records

theorem contains_iff : fs.contains path = true ↔ ∃ entry, fs.find path = .ok entry := by
  unfold contains
  split
  · rename_i entry found
    exact iff_of_true rfl ⟨entry, found⟩
  · rename_i cause failed
    simp [failed]

theorem fromUTF8_eq_some_iff (contents : ByteArray) (text : String) :
    String.fromUTF8? contents = some text ↔ contents = text.toUTF8 := by
  unfold String.fromUTF8?
  split
  · rename_i valid
    rw [Option.some.injEq]
    constructor
    · rintro rfl
      rfl
    · rintro rfl
      rfl
  · rename_i invalid
    have differs : contents ≠ text.toUTF8 := by
      rintro rfl
      exact invalid text.isValidUTF8
    exact iff_of_false (by simp) differs

theorem readText_eq_ok_iff : fs.readText path = .ok text ↔ Holds fs path text := by
  unfold readText Holds
  cases found : fs.find path with
  | error cause => simp
  | ok entry =>
    cases entry with
    | directory => simp
    | file contents =>
      have decoded := fromUTF8_eq_some_iff contents text
      cases read : String.fromUTF8? contents <;> simp_all

/-- A catalogue is empty just if no record is of a kind that brings a type into being. -/
theorem isEmpty_ofRecords_iff (records : List Record) :
    (Catalogue.ofRecords records).isEmpty = true ↔
      ∀ record ∈ records, record.identifier.kind ∉ documentedKinds := by
  rw [CatalogueGrouping.isEmpty_ofRecords]
  simp only [CatalogueGrouping.isClassified, decide_eq_true_eq]

/-! ## What a run finds -/

/-- What a run finds out before it writes anything: why there is nothing to write, or the records
of a document that documents a type. -/
inductive Finds (fs : FileSystem) (input : String) : Except Failure (List Record) → Prop
  | missing (absent : ¬∃ entry, fs.find input = .ok entry) :
      Finds fs input (.error (.inputMissing input))
  | unreadable {cause : Cause} (there : ∃ entry, fs.find input = .ok entry)
      (failed : fs.readText input = .error cause) :
      Finds fs input (.error (.file (.read input) cause))
  | defective {text : String} {defect : Members.Defect} (holds : Holds fs input text)
      (refused : (Extraction.ofText text).records = .error defect) :
      Finds fs input (.error (.document defect))
  | undocumented {records : List Record} (read : Documents fs input records)
      (vain : ∀ record ∈ records, record.identifier.kind ∉ documentedKinds) :
      Finds fs input (.error .nothingDocumented)
  | documented {records : List Record} (read : Documents fs input records)
      (useful : ∃ record ∈ records, record.identifier.kind ∈ documentedKinds) :
      Finds fs input (.ok records)

theorem finds_something (fs : FileSystem) (input : String) : ∃ found, Finds fs input found := by
  by_cases there : ∃ entry, fs.find input = .ok entry
  swap
  · exact ⟨_, .missing there⟩
  cases read : fs.readText input with
  | error cause => exact ⟨_, .unreadable there read⟩
  | ok text =>
    have holds := readText_eq_ok_iff.mp read
    cases records : (Extraction.ofText text).records with
    | error defect => exact ⟨_, .defective holds records⟩
    | ok records' =>
      have documents : Documents fs input records' := ⟨text, holds, records⟩
      by_cases useful : ∃ record ∈ records', record.identifier.kind ∈ documentedKinds
      · exact ⟨_, .documented documents useful⟩
      · exact ⟨_, .undocumented documents (by simpa using useful)⟩

theorem finds_missing_iff : Finds fs input (.error (.inputMissing input)) ↔
    ¬∃ entry, fs.find input = .ok entry := by
  constructor
  · intro found
    cases found
    assumption
  · exact .missing

theorem finds_unreadable_iff : (∃ cause, Finds fs input (.error (.file (.read input) cause))) ↔
    (∃ entry, fs.find input = .ok entry) ∧ ∀ text, ¬Holds fs input text := by
  constructor
  · rintro ⟨cause, found⟩
    cases found with
    | unreadable there failed =>
      refine ⟨there, fun text holds => ?_⟩
      rw [readText_eq_ok_iff.mpr holds] at failed
      cases failed
  · rintro ⟨there, textless⟩
    cases read : fs.readText input with
    | ok text => exact absurd (readText_eq_ok_iff.mp read) (textless text)
    | error cause => exact ⟨cause, .unreadable there read⟩

theorem finds_defective_iff (defect : Members.Defect) :
    Finds fs input (.error (.document defect)) ↔
      ∃ text, Holds fs input text ∧ (Extraction.ofText text).records = .error defect := by
  constructor
  · intro found
    cases found with
    | defective holds refused => exact ⟨_, holds, refused⟩
  · rintro ⟨text, holds, refused⟩
    exact .defective holds refused

theorem finds_undocumented_iff : Finds fs input (.error .nothingDocumented) ↔
    ∃ records, Documents fs input records ∧
      ∀ record ∈ records, record.identifier.kind ∉ documentedKinds := by
  constructor
  · intro found
    cases found with
    | undocumented read vain => exact ⟨_, read, vain⟩
  · rintro ⟨records, read, vain⟩
    exact .undocumented read vain

/-! ## How a run ends -/

theorem there_of_holds (holds : Holds fs path text) : fs.contains path = true :=
  contains_iff.mpr ⟨_, holds⟩

theorem readDocument_of_holds (holds : Holds fs input text) :
    (host.readDocument input).run.on fs = ⟨fs, [readingLine input], .ok text⟩ := by
  rw [readDocument_there (there_of_holds holds), readText_eq_ok_iff.mpr holds]
  rfl

/-- A run that finds a failure has it before it writes anything. -/
theorem readCatalogue_of_failure (found : Finds fs input (.error failure)) :
    ∃ log, (host.readCatalogue input).run.on fs = ⟨fs, log, .error failure⟩ := by
  cases found with
  | missing absent =>
    have missing : fs.contains input = false := by
      rw [← Bool.not_eq_true, contains_iff]
      exact absent
    exact ⟨_, readCatalogue_failed (readDocument_missing missing)⟩
  | unreadable there failed =>
    have unread := readDocument_there (contains_iff.mpr there)
    rw [failed] at unread
    exact ⟨_, readCatalogue_failed unread⟩
  | defective holds refused =>
    rw [readCatalogue_read (readDocument_of_holds holds)]
    simp [documented, refused]
  | undocumented read vain =>
    obtain ⟨text, holds, records⟩ := read
    rw [readCatalogue_read (readDocument_of_holds holds)]
    simp [documented, records, (isEmpty_ofRecords_iff _).mpr vain]

theorem readCatalogue_of_records (found : Finds fs input (.ok records)) :
    ∃ log, (host.readCatalogue input).run.on fs = ⟨fs, log, .ok (Catalogue.ofRecords records)⟩ := by
  cases found with
  | documented read useful =>
    obtain ⟨text, holds, parsed⟩ := read
    have inhabited : (Catalogue.ofRecords records).isEmpty = false := by
      rw [← Bool.not_eq_true, isEmpty_ofRecords_iff]
      simpa using useful
    rw [readCatalogue_read (readDocument_of_holds holds)]
    simp [documented, parsed, inhabited]

/-- A run that finds a failure ends with it and writes nothing. -/
theorem run_of_failure (found : Finds fs input (.error failure)) (output : String)
    (options : Options) : (run fs input output options).files = fs ∧
      (run fs input output options).result = .error failure := by
  obtain ⟨log, failed⟩ := readCatalogue_of_failure found
  rw [run_failed failed]
  exact ⟨rfl, rfl⟩

/-- A run that finds records of a type writes the site. -/
theorem run_of_records (found : Finds fs input (.ok records)) (output : String)
    (options : Options) :
    let catalogue := Catalogue.ofRecords records
    let written := writeSite output fs (Site.ofCatalogue catalogue options)
    (run fs input output options).files = written.files ∧
      (run fs input output options).result =
        written.result.map fun paths => { totals := catalogue.totals, written := paths } := by
  obtain ⟨log, read⟩ := readCatalogue_of_records found
  rw [run_written read]
  exact ⟨rfl, rfl⟩

/-- A run ends with a failure that has nothing to do with writing just if it finds it. -/
theorem result_iff_found (apart : ∀ action cause, failure = .file action cause →
    ∃ path, action = .read path) : (run fs input output options).result = .error failure ↔
      Finds fs input (.error failure) := by
  constructor
  · intro ended
    obtain ⟨found, finds⟩ := finds_something fs input
    cases found with
    | error other =>
      rw [(run_of_failure finds output options).2] at ended
      cases ended
      exact finds
    | ok records =>
      rw [(run_of_records finds output options).2] at ended
      -- A site that cannot be written fails with an action of its own.
      rcases writeSite_cases output fs (Site.ofCatalogue (Catalogue.ofRecords records) options) with
        ⟨cause, result⟩ | ⟨file, _, cause, result⟩ | ⟨_, _, _, result⟩
      all_goals
        rw [result] at ended
        cases ended
      · obtain ⟨path, reads⟩ := apart _ _ rfl
        cases reads
      · obtain ⟨path, reads⟩ := apart _ _ rfl
        cases reads
  · exact fun finds => (run_of_failure finds output options).2

theorem execution_of_request (fs : FileSystem)
    (parsed : CommandLine.parse arguments = .ok (.generate input output options level)) :
    (CommandLine.run fs arguments).files = (run fs input output options).files ∧
      (CommandLine.run fs arguments).exitCode =
        CommandLine.exitCode (run fs input output options).result := by
  simp only [CommandLine.run, Host.execute, parsed, bind]
  rw [run_limited]
  exact ⟨rfl, rfl⟩

theorem exitCode_eq_zero_iff (result : Except Failure Report) :
    CommandLine.exitCode result = 0 ↔ ∃ report, result = .ok report := by
  cases result <;> simp [CommandLine.exitCode]

/-- How a run ends. It finds the input missing, or not to be a text, or the text to be refused, or
to document nothing, in this order and only if it is so, and then no file has changed. In any other
case it writes the site, and if it succeeds then every file has been written. The program exits
with zero just if the run succeeds. -/
theorem runs_end_as_their_input_allows (fs : FileSystem) (input output : String)
    (options : Options) :
    let outcome := run fs input output options
    (outcome.result = .error (.inputMissing input) ↔ ¬∃ entry, fs.find input = .ok entry) ∧
    ((∃ cause, outcome.result = .error (.file (.read input) cause)) ↔
      (∃ entry, fs.find input = .ok entry) ∧ ∀ text, ¬Holds fs input text) ∧
    (∀ defect, outcome.result = .error (.document defect) ↔
      ∃ text, Holds fs input text ∧ (Extraction.ofText text).records = .error defect) ∧
    (outcome.result = .error .nothingDocumented ↔ ∃ records, Documents fs input records ∧
      ∀ record ∈ records, record.identifier.kind ∉ documentedKinds) ∧
    ((¬∃ records, Documents fs input records ∧
      ∃ record ∈ records, record.identifier.kind ∈ documentedKinds) → outcome.files = fs) ∧
    (∀ records, Documents fs input records →
      (∃ record ∈ records, record.identifier.kind ∈ documentedKinds) →
      let catalogue := Catalogue.ofRecords records
      let site := Site.ofCatalogue catalogue options
      let written := writeSite output fs site
      outcome.files = written.files ∧
      outcome.result =
        written.result.map (fun paths => { totals := catalogue.totals, written := paths }) ∧
      ∀ report, outcome.result = .ok report →
        report.written = site.files.map (fun file => Path.join output file.name) ∧
        (∃ prepared, fs.makeDirectories output = (prepared, none) ∧
          Written output prepared site.files outcome.files) ∧
        Effect fs output site.files outcome.files) ∧
    ∀ arguments level, CommandLine.parse arguments = .ok (.generate input output options level) →
      let execution := CommandLine.run fs arguments
      execution.files = outcome.files ∧
        (execution.exitCode = 0 ↔ ∃ report, outcome.result = .ok report) := by
  intro outcome
  refine ⟨(result_iff_found (by simp)).trans finds_missing_iff, ?unreadable,
    fun defect => (result_iff_found (by simp)).trans (finds_defective_iff defect),
    (result_iff_found (by simp)).trans finds_undocumented_iff, ?untouched, ?written, ?exit⟩
  case unreadable =>
    rw [← finds_unreadable_iff]
    exact exists_congr fun cause => result_iff_found (by simp)
  case untouched =>
    intro vain
    obtain ⟨found, finds⟩ := finds_something fs input
    cases found with
    | error failure => exact (run_of_failure finds output options).1
    | ok records =>
      cases finds with
      | documented read useful => exact absurd ⟨records, read, useful⟩ vain
  case written =>
    intro records read useful catalogue site written
    obtain ⟨files, result⟩ := run_of_records (.documented read useful) output options
    refine ⟨files, result, ?_⟩
    intro report done
    rw [result] at done
    have left : outcome.files = written.files := files
    rw [left]
    rcases writeSite_cases output fs site with
      ⟨cause, result⟩ | ⟨file, _, cause, result⟩ | ⟨prepared, made, wrote, result⟩
    all_goals
      rw [result] at done
      cases done
    exact ⟨rfl, ⟨prepared, made, wrote⟩,
      effect_of_written (site_plain catalogue options) made wrote⟩
  case exit =>
    intro arguments level parsed execution
    obtain ⟨files, code⟩ := execution_of_request fs parsed
    exact ⟨files, code ▸ exitCode_eq_zero_iff outcome.result⟩

def indexDocument : String :=
  "<doc><members><member name=\"T:index\"/></members></doc>"

theorem index_document_is_published :
    let fs := empty.set ["in.xml"] (.file indexDocument.toUTF8)
    let site := Site.ofCatalogue (Catalogue.ofRecords [indexRecord]) {}
    let outcome := run fs "in.xml" "out" {}
    (∃ report, outcome.result = .ok report ∧ report.written = ["out/search-index.json",
      "out/index.html", "out/index.html", "out/style.css", "out/script.js"]) ∧
    Effect fs "out" site.files outcome.files ∧
    (CommandLine.run fs ["in.xml", "out"]).exitCode = 0 ∧
    (run fs "out" "out" {}).files = fs := by
  intro fs site outcome
  have found : ∀ contents, (empty.set ["in.xml"] (.file contents)).find "in.xml" =
      .ok (.file contents) := fun _ => rfl
  have holds : Holds fs "in.xml" indexDocument := found _
  have read : Documents fs "in.xml" [indexRecord] := ⟨indexDocument, holds, by decide +kernel⟩
  have parsed : CommandLine.parse ["in.xml", "out"] = .ok (.generate "in.xml" "out" {} .info) := by
    decide +kernel
  have made : fs.makeDirectories "out" = (fs.set ["out"] .directory, none) := rfl
  have free : ∀ name, (fs.set ["out"] .directory).get? [name, "out"] ≠ some .directory := by
    intro name
    rw [get?_set _ _ _ (by simp), get?_set _ _ _ (by simp)]
    simp [get?, empty]
  obtain ⟨final, written⟩ := index_site_written made free {}
  obtain ⟨_, _, _, _, _, documents, exits⟩ := runs_end_as_their_input_allows fs "in.xml" "out" {}
  obtain ⟨_, result, success⟩ := documents _ read ⟨indexRecord, by simp, by decide⟩
  simp only [writeSite_made made, (writeFiles_of_written written).2] at result
  obtain ⟨paths, _, effect⟩ := success _ result
  have relative := congrArg (List.map (Path.join "out")) (index_site_names {})
  rw [List.map_map] at relative
  refine ⟨⟨_, result, paths.trans relative⟩, effect, ((exits _ _ parsed).2).mpr ⟨_, result⟩, ?_⟩
  obtain ⟨_, _, _, _, untouched, _⟩ := runs_end_as_their_input_allows fs "out" "out" {}
  apply untouched
  rintro ⟨records, ⟨text, holds, _⟩, _⟩
  have absent : ∀ contents, (empty.set ["in.xml"] (.file contents)).find "out" =
      .error .notFound := fun _ => rfl
  rw [Holds, absent] at holds
  cases holds

end DocPages.RunOutcome
