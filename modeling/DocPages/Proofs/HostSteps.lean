import DocPages.Generation

/-! The steps that a run takes on a file system. A run is told for any host; here each of its steps
is told once for the host of a file system, so that nothing needs to be known of hosts to say what
a run does. A log that is limited to a level gets fewer lines and makes no other difference. -/
namespace DocPages.HostSteps
open FileSystem Generation
open Log (Line)

variable {fs files prepared partly : FileSystem} {path contents input output text : String}
  {cause : Cause} {failure : Failure} {log : List Line}

/-! ## What a file system does -/

theorem host_contains (path : String) (fs : FileSystem) :
    (host.contains path).on fs = { files := fs, log := [], result := fs.contains path } :=
  rfl

theorem host_readText (path : String) (fs : FileSystem) :
    (host.readText path).on fs = { files := fs, log := [], result := fs.readText path } :=
  rfl

theorem host_log (lines : List Line) (fs : FileSystem) :
    (host.log lines).on fs = { files := fs, log := lines, result := () } :=
  rfl

theorem host_write (wrote : fs.write path contents.toUTF8 = .ok files) :
    (host.write path contents).on fs = { files, log := [], result := .ok () } := by
  simp only [host, wrote]

theorem host_write_failed (failed : fs.write path contents.toUTF8 = .error cause) :
    (host.write path contents).on fs = { files := fs, log := [], result := .error cause } := by
  simp only [host, failed]

theorem host_makeDirectories (made : fs.makeDirectories path = (files, none)) :
    (host.makeDirectories path).on fs = { files, log := [], result := .ok () } := by
  simp only [host, made]

theorem host_makeDirectories_failed (failed : fs.makeDirectories path = (files, some cause)) :
    (host.makeDirectories path).on fs = { files, log := [], result := .error cause } := by
  simp only [host, failed]

/-! ## One step after the other -/

variable {Answer Answer' : Type} {answer : Answer}

theorem on_bind {first : ExceptT Failure Action Answer}
    (done : first.run.on fs = ⟨files, log, .ok answer⟩)
    (next : Answer → ExceptT Failure Action Answer') : (first >>= next).run.on fs =
      let later := (next answer).run.on files
      { later with log := log ++ later.log } := by
  rw [ExceptT.run] at done
  simp only [bind, ExceptT.bind, ExceptT.mk, ExceptT.run, ExceptT.bindCont, done]

theorem on_bind_failed {first : ExceptT Failure Action Answer}
    (failed : first.run.on fs = ⟨files, log, .error failure⟩)
    (next : Answer → ExceptT Failure Action Answer') :
    (first >>= next).run.on fs = ⟨files, log, .error failure⟩ := by
  rw [ExceptT.run] at failed
  simp only [bind, ExceptT.bind, ExceptT.mk, ExceptT.run, ExceptT.bindCont, failed, pure,
    List.append_nil]

theorem on_map (steps : ExceptT Failure Action Answer) (f : Answer → Answer') (fs : FileSystem) :
    (steps >>= fun answer => pure (f answer)).run.on fs =
      let done := steps.run.on fs
      { done with result := done.result.map f } := by
  cases done : steps.run.on fs with
  | mk files log result =>
    cases result with
    | error failure => rw [on_bind_failed done]; rfl
    | ok answer =>
      rw [on_bind done]
      simp [pure, ExceptT.pure, ExceptT.run, ExceptT.mk, Except.map]

theorem on_ofExcept (result : Except Failure Answer) (fs : FileSystem) :
    (MonadExcept.ofExcept result : ExceptT Failure Action Answer).run.on fs = ⟨fs, [], result⟩ := by
  cases result <;> rfl

theorem on_attempt {step : Action (Except Cause Answer)}
    (done : step.on fs = ⟨files, log, result⟩) (action : FileAction) :
    (Host.attempt action step).run.on fs = ⟨files, log, result.mapError (.file action)⟩ := by
  simp only [Host.attempt, bind, ExceptT.mk, ExceptT.run, done, pure, List.append_nil]

theorem on_lift {step : Action Answer} (done : step.on fs = ⟨files, log, answer⟩) :
    (liftM step : ExceptT Failure Action Answer).run.on fs = ⟨files, log, .ok answer⟩ := by
  simp only [ExceptT.mk, ExceptT.run, liftM, monadLift, MonadLift.monadLift, ExceptT.lift,
    Functor.map, done, List.append_nil, Function.comp_apply]

/-! ## Writing a site -/

theorem writeFiles_nil (output : String) (fs : FileSystem) :
    writeFiles output fs [] = ⟨fs, [], .ok []⟩ :=
  rfl

theorem writeFiles_stopped
    (failed : fs.write (Path.join output file.name) file.contents.toUTF8 = .error cause)
    (later : List Site.File) : writeFiles output fs (file :: later) =
      ⟨fs, [], .error (.file (.write (Path.join output file.name)) cause)⟩ :=
  on_bind_failed (on_attempt (host_write_failed failed) _) _

theorem writeFiles_next
    (wrote : fs.write (Path.join output file.name) file.contents.toUTF8 = .ok next)
    (later : List Site.File) : writeFiles output fs (file :: later) =
      let path := Path.join output file.name
      let rest := writeFiles output next later
      ⟨rest.files, wroteLine path :: rest.log, rest.result.map (path :: ·)⟩ := by
  rw [writeFiles, Host.writeFiles, on_bind (on_attempt (host_write wrote) _),
    on_bind (on_lift (host_log _ _)), on_map]
  rfl

theorem writeSite_unmade (failed : fs.makeDirectories output = (partly, some cause))
    (site : Site) : writeSite output fs site =
      ⟨partly, site.clashes.map clashLine, .error (.file (.makeDirectory output) cause)⟩ := by
  rw [writeSite, Host.writeSite, on_bind (on_lift (host_log _ _)),
    on_bind_failed (on_attempt (host_makeDirectories_failed failed) _)]
  simp

theorem writeSite_made (made : fs.makeDirectories output = (prepared, none)) (site : Site) :
    writeSite output fs site =
      let written := writeFiles output prepared site.files
      { written with log := site.clashes.map clashLine ++ written.log } := by
  rw [writeSite, Host.writeSite, on_bind (on_lift (host_log _ _)),
    on_bind (on_attempt (host_makeDirectories made) _)]
  rfl

theorem readDocument_missing (absent : fs.contains input = false) :
    (host.readDocument input).run.on fs = ⟨fs, [], .error (.inputMissing input)⟩ := by
  rw [Host.readDocument, on_bind (on_lift (host_contains _ _)), absent]
  rfl

theorem readDocument_there (there : fs.contains input = true) :
    (host.readDocument input).run.on fs =
      ⟨fs, [readingLine input], (fs.readText input).mapError (.file (.read input))⟩ := by
  rw [Host.readDocument, on_bind (on_lift (host_contains _ _)), there, if_pos rfl,
    on_bind (on_lift (host_log _ _)), on_attempt (host_readText _ _)]
  simp

/-- Where no document can be read, there is no catalogue. -/
theorem readCatalogue_failed
    (failed : (host.readDocument input).run.on fs = ⟨files, log, .error failure⟩) :
    (host.readCatalogue input).run.on fs = ⟨files, log, .error failure⟩ :=
  on_bind_failed failed _

theorem readCatalogue_read
    (read : (host.readDocument input).run.on fs = ⟨files, log, .ok text⟩) :
    (host.readCatalogue input).run.on fs =
      ⟨files, log ++ (documented text).1, (documented text).2⟩ := by
  rw [Host.readCatalogue, on_bind read, on_bind (on_lift (host_log _ _)), on_ofExcept]
  simp

/-- Where no catalogue can be read, the run ends. -/
theorem run_failed {failure : Failure}
    (failed : (host.readCatalogue input).run.on fs = ⟨files, log, .error failure⟩)
    (output : String) (options : Options) :
    run fs input output options = ⟨files, log, .error failure⟩ :=
  on_bind_failed failed _

theorem run_written
    (read : (host.readCatalogue input).run.on fs = ⟨files, log, .ok catalogue⟩)
    (output : String) (options : Options) : run fs input output options =
      let written := writeSite output files (Site.ofCatalogue catalogue options)
      ⟨written.files, log ++ writingLine output :: written.log,
        written.result.map fun written => { totals := catalogue.totals, written }⟩ := by
  rw [run, Host.generate, on_bind read, on_bind (on_lift (host_log _ _)), on_map]
  rfl

/-! ## A limited log -/

/-- What an action comes to if its log is limited to a level. -/
def limited (level : Log.Level) (done : Outcome Answer) : Outcome Answer :=
  { done with log := done.log.filter (·.isShown level) }

theorem writeFiles_limited (level : Log.Level) (output : String) (fs : FileSystem)
    (files : List Site.File) : ((host.limited level).writeFiles output files).run.on fs =
      limited level (writeFiles output fs files) := by
  induction files generalizing fs with
  | nil => rfl
  | cons file later ih =>
    rw [Host.writeFiles, Host.limited_write, Host.limited_log]
    cases wrote : fs.write (Path.join output file.name) file.contents.toUTF8 with
    | error cause =>
      rw [writeFiles_stopped wrote, on_bind_failed (on_attempt (host_write_failed wrote) _)]
      rfl
    | ok next =>
      rw [writeFiles_next wrote, on_bind (on_attempt (host_write wrote) _),
        on_bind (on_lift (host_log _ _)), on_map, ih]
      simp only [limited, List.nil_append, ← List.filter_append, List.singleton_append]

theorem writeSite_limited (level : Log.Level) (output : String) (fs : FileSystem) (site : Site) :
    ((host.limited level).writeSite output site).run.on fs =
      limited level (writeSite output fs site) := by
  rw [Host.writeSite, Host.limited_makeDirectories, Host.limited_log,
    on_bind (on_lift (host_log _ _))]
  cases made : fs.makeDirectories output with
  | mk prepared stop =>
    cases stop with
    | some cause =>
      rw [writeSite_unmade made, on_bind_failed (on_attempt (host_makeDirectories_failed made) _)]
      simp [limited]
    | none =>
      rw [writeSite_made made, on_bind (on_attempt (host_makeDirectories made) _),
        writeFiles_limited]
      simp [limited]

theorem readDocument_limited (level : Log.Level) (input : String) (fs : FileSystem) :
    ((host.limited level).readDocument input).run.on fs =
      limited level ((host.readDocument input).run.on fs) := by
  rw [Host.readDocument, Host.limited_contains, Host.limited_log, Host.limited_readText,
    on_bind (on_lift (host_contains _ _))]
  cases there : fs.contains input with
  | false =>
    rw [readDocument_missing there]
    rfl
  | true =>
    rw [readDocument_there there, if_pos rfl, on_bind (on_lift (host_log _ _)),
      on_attempt (host_readText _ _)]
    simp [limited]

theorem readCatalogue_limited (level : Log.Level) (input : String) (fs : FileSystem) :
    ((host.limited level).readCatalogue input).run.on fs =
      limited level ((host.readCatalogue input).run.on fs) := by
  have shown := readDocument_limited level input fs
  cases read : (host.readDocument input).run.on fs with
  | mk files log result =>
    rw [read] at shown
    rw [Host.readCatalogue]
    cases result with
    | error failure =>
      rw [readCatalogue_failed read, on_bind_failed shown]
      rfl
    | ok text =>
      rw [readCatalogue_read read, on_bind shown]
      simp only [Host.limited_log]
      rw [on_bind (on_lift (host_log _ _)), on_ofExcept]
      simp [limited]

theorem run_limited (level : Log.Level) (fs : FileSystem) (input output : String)
    (options : Options) : ((host.limited level).generate input output options).run.on fs =
      limited level (run fs input output options) := by
  have shown := readCatalogue_limited level input fs
  cases read : (host.readCatalogue input).run.on fs with
  | mk files log result =>
    rw [read] at shown
    rw [Host.generate, Host.limited_log]
    cases result with
    | error failure =>
      rw [run_failed read, on_bind_failed shown]
      rfl
    | ok catalogue =>
      rw [run_written read, on_bind shown, on_bind (on_lift (host_log _ _)), on_map,
        writeSite_limited]
      simp [limited, ← List.filter_append]

end DocPages.HostSteps
