import ClassOutline.Config.Environment
import ClassOutline.Config.Integer
import ClassOutline.Text.Case

/-!
The settings of the program, read from environment variables.
-/
namespace ClassOutline.Config

def defaultExtensions : List String := [".php"]

/-- One suffix, in lower case and with a leading dot; a blank text is none. -/
def extension? (part : List Char) : Option String :=
  match Text.lower (Text.trim part) with
  | [] => none
  | '.' :: rest => some (String.ofList ('.' :: rest))
  | suffix => some (String.ofList ('.' :: suffix))

def extensions (text : String) : List String :=
  match (Text.splitOn ',' text.toList).filterMap extension? with
  | [] => defaultExtensions
  | suffixes => suffixes

structure Settings where
  logLevel : String
  host : String
  port : Int
  /-- The suffixes of the files that a directory's outline takes. -/
  extensions : List String
  /-- How many files of a directory may be read at a time. -/
  maxWorkers : Int
  /-- The indentation of printed documents. -/
  jsonIndent : Int
  deriving DecidableEq, Repr

/-- Values that take the place of those in the environment. -/
structure GivenSettings where
  logLevel : Option String := none
  host : Option String := none
  port : Option Int := none
  extensions : Option (List String) := none
  maxWorkers : Option Int := none
  jsonIndent : Option Int := none

namespace Settings

def value (env : Environment) (name default : String) : String :=
  (env.get? name).getD default

def integerOr (given : Option Int) (env : Environment) (name default : String) (adjust : Int → Int) :
    Except IntegerFault Int :=
  match given with
  | some n => .ok n
  | none => (integer (value env name default)).map adjust

/-- Settings from the environment, where a value is not given. A value that is given is taken as it is. -/
def read (given : GivenSettings) (env : Environment) : Except IntegerFault Settings := do
  let port ← integerOr given.port env "PORT" "8000" id
  let maxWorkers ← integerOr given.maxWorkers env "MAX_WORKERS" "1" (max 1)
  let jsonIndent ← integerOr given.jsonIndent env "JSON_INDENT" "4" id
  return {
    logLevel := given.logLevel.getD (value env "LOG_LEVEL" "INFO")
    host := given.host.getD (value env "HOST" "0.0.0.0")
    port := port
    extensions := given.extensions.getD (Config.extensions (value env "PHP_EXTENSIONS" ".php"))
    maxWorkers := maxWorkers
    jsonIndent := jsonIndent }

def ofEnvironment (env : Environment) : Except IntegerFault Settings :=
  read {} env

end Settings

end ClassOutline.Config
