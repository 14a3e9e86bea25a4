import DocPages.Text.Cut
import DocPages.Text.Sorted
import Std.Data.ExtTreeMap

/-!
A file system: what stands at each location below a root, which is always a directory. A path is a
text; following it takes a directory for every step but the last, and an operation that fails leaves
everything as it was, apart from the directories that were made on the way.
-/

namespace DocPages

/-- Why an operation on a file fails. -/
inductive Cause where
  | notFound
  | notDirectory
  | isDirectory
  | fileExists
  | nameTooLong
  | nulInName
  | invalidUtf8
  /-- Whatever else a system may give as its reason. -/
  | other (reason : String)
  deriving DecidableEq, Repr

def Cause.message : Cause → String
  | notFound => "No such file or directory (os error 2)"
  | notDirectory => "Not a directory (os error 20)"
  | isDirectory => "Is a directory (os error 21)"
  | fileExists => "File exists (os error 17)"
  | nameTooLong => "File name too long (os error 36)"
  | nulInName => "file name contained an unexpected NUL byte"
  | invalidUtf8 => "stream did not contain valid UTF-8"
  | other reason => reason

/-- A path as it is given: its steps, and whether it insists on a directory at its end. -/
structure Path where
  steps : List String
  slashed : Bool
  deriving DecidableEq, Repr

namespace Path

def ofText (text : String) : Path where
  steps := ((Text.splitAll '/' text.toList).filter (· ≠ [])).map .ofList
  slashed := text.toList.getLast? = some '/'

/-- The path of a name that is looked up from a directory. A name that begins at the root does not
depend on the directory, and no second slash is set behind one. -/
def join (directory name : String) : String :=
  if name.toList.head? = some '/' then name
  else if directory = "" ∨ directory.toList.getLast? = some '/' then directory ++ name
  else directory ++ "/" ++ name

end Path

namespace FileSystem

/-- A place below the root: the names that lead there, the innermost first. -/
abbrev Location := List String

inductive Entry where
  | file (contents : ByteArray)
  | directory

end FileSystem

structure FileSystem where
  /-- What stands below the root. -/
  entries : Std.ExtTreeMap FileSystem.Location FileSystem.Entry

namespace FileSystem

def empty : FileSystem where
  entries := ∅

/-- The longest name that a file can have, in bytes. -/
def nameLimit : Nat := 255

/-- The longest path that can be followed, in bytes. -/
def pathLimit : Nat := 4095

def get? (fs : FileSystem) (place : Location) : Option Entry :=
  if place = [] then some .directory else fs.entries[place]?

def set (fs : FileSystem) (place : Location) (entry : Entry) : FileSystem where
  entries := fs.entries.insert place entry

theorem get?_set (fs : FileSystem) {place : Location} (entry : Entry) (other : Location)
    (below : place ≠ []) :
    (fs.set place entry).get? other = if other = place then some entry else fs.get? other := by
  by_cases same : other = place
  · simp [get?, set, same, below]
  · have apart : compare place other ≠ .eq := fun equal =>
      same (Std.LawfulEqOrd.eq_of_compare equal).symm
    simp [get?, set, same, Std.ExtTreeMap.getElem?_insert, apart]

/-- Where the steps lead from a place. Each step is taken in a directory; whether something stands
where the last one leads is left open. -/
def follow (fs : FileSystem) (place : Location) : List String → Except Cause Location
  | [] => .ok place
  | step :: later =>
    match fs.get? place with
    | none => .error .notFound
    | some (.file _) => .error .notDirectory
    | some .directory =>
      if step = "." then follow fs place later
      else if step = ".." then follow fs place.tail later
      else if nameLimit < step.utf8ByteSize then .error .nameTooLong
      else follow fs (step :: place) later

/-- The place that a path names. -/
def locate (fs : FileSystem) (path : String) : Except Cause Location :=
  if path.toList.contains '\x00' then .error .nulInName
  else if path = "" then .error .notFound
  else if pathLimit < path.utf8ByteSize then .error .nameTooLong
  else fs.follow [] (Path.ofText path).steps

/-- What stands where the path leads. -/
def find (fs : FileSystem) (path : String) : Except Cause Entry :=
  match fs.locate path with
  | .error cause => .error cause
  | .ok place =>
    match fs.get? place with
    | none => .error .notFound
    | some (.file contents) =>
      if (Path.ofText path).slashed then .error .notDirectory else .ok (.file contents)
    | some .directory => .ok .directory

def contains (fs : FileSystem) (path : String) : Bool :=
  match fs.find path with
  | .ok _ => true
  | .error _ => false

/-- The text of a file. -/
def readText (fs : FileSystem) (path : String) : Except Cause String :=
  match fs.find path with
  | .error cause => .error cause
  | .ok .directory => .error .isDirectory
  | .ok (.file contents) =>
    match String.fromUTF8? contents with
    | some text => .ok text
    | none => .error .invalidUtf8

/-- Writes a file, in place of one that is there already. -/
def write (fs : FileSystem) (path : String) (contents : ByteArray) : Except Cause FileSystem :=
  match fs.locate path with
  | .error cause => .error cause
  | .ok place =>
    match fs.get? place with
    | some .directory => .error .isDirectory
    | _ => .ok (fs.set place (.file contents))

/-- Goes along the steps from a place and makes the directories that are missing. As long as none
was missing, a file that further steps follow is no directory to go on from. Behind a missing one
(`made`) each directory is made on its own, and a file in its place exists already. Dots at the end
are not taken apart from the step before them, which has to lead to a directory that is there. -/
def makeSteps (fs : FileSystem) (place : Location) (made : Bool) :
    List String → FileSystem × Option Cause
  | [] => (fs, none)
  | step :: later =>
    if step = "." then makeSteps fs place made later
    else if step = ".." then makeSteps fs place.tail made later
    else if nameLimit < step.utf8ByteSize then (fs, some .nameTooLong)
    else
      let dotted := !later.isEmpty && later.all (· == ".")
      match fs.get? (step :: place) with
      | some .directory => makeSteps fs (step :: place) made later
      | some (.file _) =>
        (fs, some (if later.isEmpty || made && !dotted then .fileExists else .notDirectory))
      | none =>
        if dotted then (fs, some .notFound)
        else makeSteps (fs.set (step :: place) .directory) (step :: place) true later

/-- Makes a directory together with those around it that are missing. -/
def makeDirectories (fs : FileSystem) (path : String) : FileSystem × Option Cause :=
  if path.toList.contains '\x00' then (fs, some .nulInName)
  else if pathLimit < path.utf8ByteSize then (fs, some .nameTooLong)
  else makeSteps fs [] false (Path.ofText path).steps

/-- The path from one place to another below it. -/
def relative? (place inner : Location) : Option String :=
  if place.isSuffixOf inner && place.length < inner.length then
    some ("/".intercalate (inner.take (inner.length - place.length)).reverse)
  else none

/-- Everything below a place by its relative path, which ends with a slash for a directory. -/
def below (fs : FileSystem) (place : Location) : List (String × Entry) :=
  Text.sortBy (·.1) <| fs.entries.toList.filterMap fun (inner, entry) =>
    (relative? place inner).map fun path =>
      match entry with
      | .directory => (path ++ "/", entry)
      | .file _ => (path, entry)

end FileSystem

end DocPages
