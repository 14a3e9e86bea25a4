import DocPages.Host
import DocPages.Site

/-!
A run from the document to the site on disk. Nothing is written before the document has been read
without a defect and has turned out to document a type. Then the files are written one after the
other, and the first that cannot be written ends the run.
-/

namespace DocPages

open Log (Line)

/-- What a run that succeeds has to tell. -/
structure Report where
  totals : Totals
  /-- The paths that were written, in order. -/
  written : List String
  deriving DecidableEq, Repr

namespace Generation

def entryLine : Members.Entry → Line
  | .unnamed => ⟨.debug, "skipping <member> without a name attribute"⟩
  | .unsupported name =>
    ⟨.debug, "skipping member with unsupported name " ++ Text.quoted name⟩
  | .documented name _ => ⟨.trace, "parsed member " ++ name⟩

def readingLine (input : String) : Line :=
  ⟨.info, "reading documentation from " ++ input⟩

def writingLine (output : String) : Line :=
  ⟨.info, "writing site to " ++ output⟩

def wroteLine (path : String) : Line :=
  ⟨.debug, "wrote " ++ path⟩

def parsedLine (count : Nat) : Line :=
  ⟨.debug, "parsed " ++ count.repr ++ " member records"⟩

/-- A record that adds nothing to the site is mentioned. -/
def ignoredLine? (record : Record) : Option Line :=
  match record.identifier.kind with
  | .other code =>
    some ⟨.debug, "ignoring " ++ code ++ ":" ++ record.identifier.owner ++
      " with unsupported kind"⟩
  | _ => none

def clashLine (clash : Site.Clash) : Line :=
  ⟨.warn, "page " ++ clash.name ++ " for " ++ clash.owner ++
    " overwrites another page with the same name"⟩

/-- The types that a document's text documents, with the lines of log that this yields. -/
def documented (text : String) : List Line × Except Failure Catalogue :=
  let extraction := Members.Extraction.ofText text
  let gathered := extraction.entries.map entryLine
  match extraction.records with
  | .error defect => (gathered, .error (.document defect))
  | .ok records =>
    let log := gathered ++
      parsedLine records.length :: records.filterMap ignoredLine?
    let catalogue := Catalogue.ofRecords records
    (log, if catalogue.isEmpty then .error .nothingDocumented else .ok catalogue)

end Generation

namespace Host

open Generation

variable {m : Type → Type} [Monad m] (host : Host m)

/-- Writes the files in order, up to the first failure. -/
def writeFiles (output : String) : List Site.File → ExceptT Failure m (List String)
  | [] => return []
  | file :: later => do
    let path := Path.join output file.name
    attempt (.write path) (host.write path file.contents)
    host.log [wroteLine path]
    return path :: (← writeFiles output later)

/-- Writes a site into a directory, which is made if it is missing. -/
def writeSite (output : String) (site : Site) : ExceptT Failure m (List String) := do
  host.log (site.clashes.map clashLine)
  attempt (.makeDirectory output) (host.makeDirectories output)
  host.writeFiles output site.files

/-- Reads the document, which is looked for first. -/
def readDocument (input : String) : ExceptT Failure m String := do
  if ← host.contains input then
    host.log [readingLine input]
    attempt (.read input) (host.readText input)
  else throw (.inputMissing input)

def readCatalogue (input : String) : ExceptT Failure m Catalogue := do
  let found := documented (← host.readDocument input)
  host.log found.1
  MonadExcept.ofExcept found.2

def generate (input output : String) (options : Options) : ExceptT Failure m Report := do
  let catalogue ← host.readCatalogue input
  host.log [writingLine output]
  let written ← host.writeSite output (Site.ofCatalogue catalogue options)
  return { totals := catalogue.totals, written }

end Host

namespace Generation

def writeFiles (output : String) (fs : FileSystem) (files : List Site.File) :
    Outcome (Except Failure (List String)) :=
  (FileSystem.host.writeFiles output files).run.on fs

def writeSite (output : String) (fs : FileSystem) (site : Site) :
    Outcome (Except Failure (List String)) :=
  (FileSystem.host.writeSite output site).run.on fs

def run (fs : FileSystem) (input output : String) (options : Options) :
    Outcome (Except Failure Report) :=
  (FileSystem.host.generate input output options).run.on fs

end Generation

end DocPages
