/-!
Log records, the numbers and names of their levels, the lines that they are written as, and values with the records
that were logged on the way to them.
-/
namespace ClassOutline.Log

/-- The numbers of the named levels; records of other numbers may occur. -/
inductive Level where
  | debug
  | info
  | warning
  | error
  | critical
  deriving DecidableEq, Repr

namespace Level

def all : List Level := [debug, info, warning, error, critical]

def number : Level → Int
  | debug => 10
  | info => 20
  | warning => 30
  | error => 40
  | critical => 50

def name : Level → String
  | debug => "DEBUG"
  | info => "INFO"
  | warning => "WARNING"
  | error => "ERROR"
  | critical => "CRITICAL"

def nameOf (n : Int) : String :=
  match all.find? fun l => l.number == n with
  | some l => l.name
  | none => s!"Level {n}"

/-- The highest level that a number reaches, or the lowest level. -/
def reachedBy (n : Int) : Level :=
  (all.reverse.find? fun l => l.number ≤ n).getD debug

end Level

/-- What a part of the program has to say. -/
structure Record where
  level : Int
  logger : String
  message : String
  deriving DecidableEq, Repr

namespace Record

def of (level : Level) (logger message : String) : Record :=
  ⟨level.number, logger, message⟩

def levelName (r : Record) : String :=
  Level.nameOf r.level

/-- The name of the part that speaks; the outermost part has no name of its own. -/
def loggerName (r : Record) : String :=
  if r.logger.isEmpty then "root" else r.logger

end Record

structure Logged (α : Type) where
  value : α
  records : List Record

def Logged.map {α β : Type} (f : α → β) (x : Logged α) : Logged β :=
  ⟨f x.value, x.records⟩

inductive Style where
  | plain
  | colored
  deriving DecidableEq, Repr

def reset : String := "\x1b[0m"

def dim : String := "\x1b[2m"

def color : Level → String
  | .debug => "\x1b[36m"
  | .info => "\x1b[32m"
  | .warning => "\x1b[33m"
  | .error => "\x1b[31m"
  | .critical => "\x1b[41m\x1b[97m"

def padded (width : Nat) (s : String) : String :=
  s.pushn ' ' (width - s.length)

/-- The line of a record that is written at a time. -/
def Style.line (style : Style) (time : String) (r : Record) : String :=
  match style with
  | plain => s!"[{time}] | {r.levelName} | {r.loggerName} | {r.message}\n"
  | colored =>
    let level := color (Level.reachedBy r.level) ++ padded 7 r.levelName ++ reset
    s!"{dim}[{time}]{reset} | {level} | {dim}{r.loggerName}{reset} | {r.message}\n"

end ClassOutline.Log
