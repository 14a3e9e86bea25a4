import DocPages.Generation

/-!
The command line: what the arguments ask for, and what a run with them prints and returns. The
arguments are taken from left to right, and the first that cannot be taken decides; a request for
the version is answered as soon as it is met. Only when all have been taken is it asked whether
they go together.
-/

namespace DocPages

namespace CommandLine

/-- Why arguments are refused. -/
inductive UsageError where
  | unknownOption (option : String)
  | missingValue (option : String)
  | unexpectedValue (option : String)
  | repeated (option : String)
  | unknownTheme (name : String)
  | emptyPath
  | extraArgument (argument : String)
  | missingInput
  | quietAndVerbose
  deriving DecidableEq, Repr

def UsageError.message : UsageError → String
  | unknownOption option => "unknown option " ++ option
  | missingValue option => "a value is missing behind " ++ option
  | unexpectedValue option => option ++ " takes no value"
  | repeated option => option ++ " may be given only once"
  | unknownTheme name => "unknown theme " ++ Text.quoted name
  | emptyPath => "a path may not be empty"
  | extraArgument argument => "unexpected argument " ++ Text.quoted argument
  | missingInput => "no input file is given"
  | quietAndVerbose => "--quiet and --verbose do not go together"

/-- The arguments that have been taken. -/
structure Settings where
  input : Option String := none
  output : Option String := none
  title : Option String := none
  theme : Option Theme := none
  verbose : Nat := 0
  quiet : Bool := false
  deriving DecidableEq, Repr

inductive Request where
  | generate (input output : String) (options : Options) (level : Log.Level)
  | version
  | help
  deriving DecidableEq, Repr

/-- What one argument comes to: settings to go on with, or an answer at once. -/
inductive Taken where
  | settings (settings : Settings)
  | answer (request : Request)
  deriving DecidableEq, Repr

namespace Settings

def takePath (s : Settings) (path : String) : Except UsageError Settings :=
  match s.input, s.output with
  | some _, some _ => .error (.extraArgument path)
  | none, _ => if path = "" then .error .emptyPath else .ok { s with input := some path }
  | _, none => if path = "" then .error .emptyPath else .ok { s with output := some path }

def takePaths (s : Settings) (paths : List String) : Except UsageError Settings :=
  paths.foldlM takePath s

def takeTitle (s : Settings) (title : String) : Except UsageError Settings :=
  if s.title.isSome then .error (.repeated "--title") else .ok { s with title := some title }

def takeTheme (s : Settings) (name : String) : Except UsageError Settings :=
  if s.theme.isSome then .error (.repeated "--theme")
  else
    match Theme.ofName? name false with
    | some theme => .ok { s with theme := some theme }
    | none => .error (.unknownTheme name)

/-- Takes an option that has a value. -/
def takeValue (s : Settings) (option value : String) : Except UsageError Settings :=
  match option with
  | "--title" => s.takeTitle value
  | "--theme" => s.takeTheme value
  | _ => .error (.unknownOption option)

/-- Takes a flag by its letter. -/
def takeFlag (s : Settings) (option : String) (letter : Char) : Except UsageError Taken :=
  match letter with
  | 'v' => .ok (.settings { s with verbose := s.verbose + 1 })
  | 'q' => if s.quiet then .error (.repeated option) else .ok (.settings { s with quiet := true })
  | 'V' => .ok (.answer .version)
  | 'h' => .ok (.answer .help)
  | _ => .error (.unknownOption option)

/-- Takes flags that are written together. -/
def takeFlags (s : Settings) (option : String) : List Char → Except UsageError Taken
  | [] => .ok (.settings s)
  | letter :: later =>
    match s.takeFlag option letter with
    | .ok (.settings s) => takeFlags s option later
    | other => other

/-- What the settings ask for, now that nothing follows. -/
def request (s : Settings) : Except UsageError Request :=
  match s.input with
  | none => .error .missingInput
  | some input =>
    if s.quiet && 0 < s.verbose then .error .quietAndVerbose
    else
      let default : Options := {}
      .ok (.generate input (s.output.getD "documentation_html")
        { title := s.title.getD default.title, theme := s.theme.getD default.theme }
        (.ofFlags s.verbose s.quiet))

end Settings

/-- The letters of the flags that have a long name. -/
def flagLetters : List (String × Char) :=
  [("--verbose", 'v'), ("--quiet", 'q'), ("--version", 'V'), ("--help", 'h')]

/-- The options that have a value. -/
def valueOptions : List String :=
  ["--title", "--theme"]

/-- Whether an argument can only be an option; a hyphen alone is an ordinary argument. -/
def isOption (argument : String) : Bool :=
  match argument.toList with
  | '-' :: _ :: _ => true
  | _ => false

/-- Takes an argument that does not wait for the next one. -/
def takeOne (s : Settings) (argument : String) : Except UsageError Taken :=
  match argument.toList with
  | '-' :: '-' :: long =>
    let (name, value?) : String × Option String :=
      match Text.cutFirst? '=' long with
      | some (name, value) => (.ofList ('-' :: '-' :: name), some (.ofList value))
      | none => (argument, none)
    match flagLetters.lookup name, value? with
    | some letter, none => s.takeFlag name letter
    | some _, some _ => .error (.unexpectedValue name)
    | none, some value => (s.takeValue name value).map .settings
    | none, none => .error (.unknownOption name)
  | '-' :: letter :: letters => s.takeFlags argument (letter :: letters)
  | _ => (s.takePath argument).map .settings

/-- Takes the arguments in turn; `waiting` is an option whose value comes next. -/
def take (s : Settings) (waiting : Option String) : List String → Except UsageError Request
  | [] =>
    match waiting with
    | some option => .error (.missingValue option)
    | none => s.request
  | argument :: later =>
    match waiting with
    | some option =>
      if isOption argument then .error (.missingValue option)
      else (s.takeValue option argument).bind fun s => take s none later
    | none =>
      if argument = "--" then (s.takePaths later).bind Settings.request
      else if valueOptions.contains argument then take s (some argument) later
      else
        match takeOne s argument with
        | .error error => .error error
        | .ok (.answer request) => .ok request
        | .ok (.settings s) => take s none later

def parse (arguments : List String) : Except UsageError Request :=
  take {} none arguments

def usage : String :=
  "usage: xmldoc-site [OPTIONS] INPUT [OUTPUT]\n\n" ++
  "  INPUT            XML documentation file\n" ++
  "  OUTPUT           directory of the site (default documentation_html)\n" ++
  "  --title TITLE    title of all pages (default API Documentation)\n" ++
  "  --theme THEME    light or dark (default light)\n" ++
  "  -v, --verbose    print more details; twice for even more\n" ++
  "  -q, --quiet      print errors only\n" ++
  "  -h, --help       print this help\n" ++
  "  -V, --version    print the version\n"

/-- How the program ends: its status, and what is left to print. -/
structure Ending where
  exitCode : UInt32
  stdout : String := ""
  stderr : String := ""

/-- What a run of the program comes to, all that it prints included. -/
structure Execution extends Ending where
  files : FileSystem

/-- The lines behind those of a run, which say how it ended. -/
def closingLines (input output : String) : Except Failure Report → List Log.Line
  | .ok summary =>
    let totals := summary.totals
    [⟨.info, "documentation written to " ++ output ++ " (" ++ summary.written.length.repr ++
       " files)"⟩,
     ⟨.info, totals.types.repr ++ " types, " ++ totals.methods.repr ++ " methods, " ++
       totals.properties.repr ++ " properties, " ++ totals.fields.repr ++ " fields"⟩,
     ⟨.info, "open " ++ Path.join output "index.html"⟩]
  | .error .nothingDocumented =>
    [⟨.warn, "no types found in " ++ input⟩,
     ⟨.warn, "check that the XML file contains documentation comments"⟩]
  | .error _ => []

/-- The report of a failure. A document without types has been warned about and needs no more. -/
def failureReport : Except Failure Report → String
  | .ok _ => ""
  | .error .nothingDocumented => ""
  | .error failure =>
    "Error: " ++ failure.message ++ "\n" ++
      match failure.cause? with
      | some cause => "\nCaused by:\n    " ++ cause.message ++ "\n"
      | none => ""

def exitCode : Except Failure Report → UInt32
  | .ok _ => 0
  | .error _ => 1

end CommandLine

/-- What the program does with its arguments. -/
def Host.execute [Monad m] (host : Host m) (arguments : List String) : m CommandLine.Ending := do
  match CommandLine.parse arguments with
  | .error error =>
    return { exitCode := 2
             stderr := "error: " ++ error.message ++ "\n\n" ++ CommandLine.usage }
  | .ok .version => return { exitCode := 0, stdout := signature ++ "\n" }
  | .ok .help => return { exitCode := 0, stdout := CommandLine.usage }
  | .ok (.generate input output options level) =>
    let shown := host.limited level
    let result ← (shown.generate input output options).run
    shown.log (CommandLine.closingLines input output result)
    return { exitCode := CommandLine.exitCode result
             stderr := CommandLine.failureReport result }

namespace CommandLine

def run (fs : FileSystem) (arguments : List String) : Execution :=
  let outcome := (FileSystem.host.execute arguments).on fs
  { outcome.result with
    stderr := Log.text outcome.log ++ outcome.result.stderr
    files := outcome.files }

end CommandLine

end DocPages
