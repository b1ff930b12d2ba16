import ClassOutline.Service.Program

/-!
The command line: one path, and perhaps the option for public members only.
-/
namespace ClassOutline.Service.CommandLine

open Catalog Log Outline

def logger : String := "php_outline.cli.outline"

def publicOption : RawText := "--public"

def usage : String :=
  "Usage: php-outline <file_or_directory_path> [--public]\nExample: php-outline /app/src/User/Entity/User.php"

structure Request where
  path : RawText
  filter : Filter
  deriving DecidableEq, Repr

def isOption (arg : RawText) : Bool :=
  (raw "--").isPrefixOf arg

/-- The request of the arguments, in whatever order: exactly one path and no other option. -/
def parse? (args : List RawText) : Option Request :=
  match args.filter (fun a => !isOption a) with
  | [path] =>
    if args.any fun a => isOption a && a != publicOption then none
    else some ⟨path, .ofPublic (args.contains publicOption)⟩
  | _ => none

def requestRecord (r : Request) : Record :=
  .of .info logger s!"[CLI] Request: path={r.path.shown}, filter={r.filter.label}"

def responseRecord (host : Host) (response : RawText) : Record :=
  .of .info logger
    s!"[CLI] Response: tokens={response.length}, memory={host.memory}, duration={host.duration}"

def errorRecord (host : Host) (message : RawText) : Record :=
  .of .error logger s!"[CLI] Error Response: error=\"{message.shown}\", memory={host.memory}, duration={host.duration}"

/-- Print the catalog that a request asks for; the exit code. -/
def answer (host : Host) (settings : Config.Settings) (request : Request) : Program Nat := do
  Program.log host (requestRecord request)
  match ← Program.outlinePath host settings request.filter request.path with
  | .error fault =>
    Program.printError host (raw "Error: " ++ fault.message)
    Program.log host (errorRecord host fault.message)
    return 1
  | .ok catalog =>
    let response ← Program.layOut host settings catalog.toJson
    Program.print host response
    Program.log host (responseRecord host response)
    return 0

/-- What is done with arguments after the files of variables are read. -/
def afterLoading (host : Host) (args : List RawText) : Program Nat := do
  let settings ← Program.settings
  Program.setUpLogging host settings.logLevel .errors
  match parse? args with
  | none =>
    Program.print host usage
    return 1
  | some request => answer host settings request

/-- Run with arguments; the exit code. -/
def run (host : Host) (args : List RawText) : Program Nat := do
  Program.loadVariables host
  afterLoading host args

end ClassOutline.Service.CommandLine
