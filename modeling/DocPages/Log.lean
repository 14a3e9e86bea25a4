/-!
Log lines. A line has a level, and a run shows the lines up to the level that it was asked for.
-/

namespace DocPages

namespace Log

/-- How much a line matters, the most important first. -/
inductive Level where
  | error
  | warn
  | info
  | debug
  | trace
  deriving DecidableEq, Repr

namespace Level

def name : Level → String
  | error => "ERROR"
  | warn => "WARN"
  | info => "INFO"
  | debug => "DEBUG"
  | trace => "TRACE"

def rank : Level → Nat
  | error => 0
  | warn => 1
  | info => 2
  | debug => 3
  | trace => 4

/-- The level asked for by the flags: each wish for details adds one, and quiet outdoes them. -/
def ofFlags (verbose : Nat) (quiet : Bool) : Level :=
  if quiet then error
  else
    match verbose with
    | 0 => info
    | 1 => debug
    | _ => trace

end Level

structure Line where
  level : Level
  message : String
  deriving DecidableEq, Repr

namespace Line

def isShown (limit : Level) (line : Line) : Bool :=
  line.level.rank ≤ limit.rank

def text (line : Line) : String :=
  "[" ++ line.level.name ++ "] " ++ line.message ++ "\n"

end Line

/-- The text of the lines, one below the other. -/
def text (lines : List Line) : String :=
  String.join (lines.map Line.text)

end Log

end DocPages
