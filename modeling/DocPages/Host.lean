import DocPages.Failure
import DocPages.Log

/-!
The system around a run: its files, and where lines of log go. What a run does is told for any host,
so that it takes the same steps on a file system of the model and on the files of the machine.
-/

namespace DocPages

open Log (Line)

/-- What a run can do by actions of `m`. -/
structure Host (m : Type → Type) where
  /-- Whether something stands at a path. -/
  contains (path : String) : m Bool
  /-- The text of a file. -/
  readText (path : String) : m (Except Cause String)
  /-- Makes a directory together with those around it that are missing. -/
  makeDirectories (path : String) : m (Except Cause Unit)
  /-- Writes a file, in place of one that is there already. -/
  write (path contents : String) : m (Except Cause Unit)
  log (lines : List Line) : m Unit

namespace Host

/-- What is done with a file, as a step of a run that ends if it fails. -/
def attempt [Monad m] (action : FileAction) (step : m (Except Cause Answer)) :
    ExceptT Failure m Answer :=
  .mk do return (← step).mapError (.file action)

/-- The host with a log that only gets the lines up to a level. -/
def limited (host : Host m) (level : Log.Level) : Host m :=
  { host with log := fun lines => host.log (lines.filter (·.isShown level)) }

section

variable (host : Host m) (level : Log.Level)

@[simp]
theorem limited_contains : (host.limited level).contains = host.contains :=
  rfl

@[simp]
theorem limited_readText : (host.limited level).readText = host.readText :=
  rfl

@[simp]
theorem limited_makeDirectories : (host.limited level).makeDirectories = host.makeDirectories :=
  rfl

@[simp]
theorem limited_write : (host.limited level).write = host.write :=
  rfl

@[simp]
theorem limited_log (lines : List Line) :
    (host.limited level).log lines = host.log (lines.filter (·.isShown level)) :=
  rfl

end

end Host

/-- What an action on a file system comes to. -/
structure Outcome (Answer : Type) where
  files : FileSystem
  log : List Line
  result : Answer

/-- An action on a file system, which may log. -/
structure Action (Answer : Type) where
  on : FileSystem → Outcome Answer

instance : Monad Action where
  pure answer := ⟨fun fs => { files := fs, log := [], result := answer }⟩
  bind first next :=
    ⟨fun fs =>
      let earlier := first.on fs
      let later := (next earlier.result).on earlier.files
      { later with log := earlier.log ++ later.log }⟩

namespace FileSystem

/-- The host whose files are those of a file system. -/
def host : Host Action where
  contains path := ⟨fun fs => { files := fs, log := [], result := fs.contains path }⟩
  readText path := ⟨fun fs => { files := fs, log := [], result := fs.readText path }⟩
  makeDirectories path :=
    ⟨fun fs =>
      match fs.makeDirectories path with
      | (files, some cause) => { files, log := [], result := .error cause }
      | (files, none) => { files, log := [], result := .ok () }⟩
  write path contents :=
    ⟨fun fs =>
      match fs.write path contents.toUTF8 with
      | .error cause => { files := fs, log := [], result := .error cause }
      | .ok files => { files, log := [], result := .ok () }⟩
  log lines := ⟨fun fs => { files := fs, log := lines, result := () }⟩

end FileSystem

end DocPages
