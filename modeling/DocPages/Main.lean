import DocPages.CommandLine

/-!
The program on the files of the machine.
-/

namespace DocPages.Main

def causeOf (error : IO.Error) : Cause :=
  match error with
  | .noFileOrDirectory .. => .notFound
  | .alreadyExists .. => .fileExists
  | .inappropriateType _ code _ =>
    if code = 21 then .isDirectory else .notDirectory
  | .invalidArgument _ 36 _ => .nameTooLong
  | _ => .other error.toString

def attempt {Answer : Type} (action : IO Answer) : IO (Except Cause Answer) := do
  match ← action.toBaseIO with
  | .ok answer => return .ok answer
  | .error error => return .error (causeOf error)

def host : Host IO where
  -- A path that leads to something has a real path, whether or not it may be read.
  contains path := return (← attempt (IO.FS.realPath path)).isOk
  readText path := do
    let contents ← attempt (IO.FS.readBinFile path)
    return contents.bind fun contents =>
      (String.fromUTF8? contents).elim (.error .invalidUtf8) .ok
  makeDirectories path :=
    if path = "" then return .ok () else attempt (IO.FS.createDirAll path)
  write path contents := attempt (IO.FS.writeFile path contents)
  log lines := do (← IO.getStderr).putStr (Log.text lines)

end DocPages.Main

def main (arguments : List String) : IO UInt32 := do
  let ending ← DocPages.Main.host.execute arguments
  (← IO.getStdout).putStr ending.stdout
  (← IO.getStderr).putStr ending.stderr
  return ending.exitCode
