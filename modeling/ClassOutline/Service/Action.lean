import ClassOutline.Service.CommandLine
import ClassOutline.Service.Http

/-!
Everything that can be done with a workspace, one action after the other.

Some actions change the surroundings: files, directories and variables. The others ask one of the services. An
action that ends with a fault does not keep later ones from being done.
-/
namespace ClassOutline.Service

open Catalog Config Files Log Outline

/-- What a request for a catalog takes a path for. -/
inductive Scope where
  | anything
  | file
  | directory
  deriving DecidableEq, Repr

inductive Action where
  | write (place : List RawText) (content : ByteArray)
  | makeDirectory (place : List RawText)
  | remove (place : List RawText)
  | changeDirectory (place : List RawText)
  | setPackageRoot (place : List RawText)
  | assign (bindings : List (String × Option String))
  | forgetSettings
  | loadVariables
  | readSettings
  | listFiles (path : RawText) (extensions : List String)
  /-- A catalog, with the settings in use or with others; the filter is given by its label. -/
  | outline (scope : Scope) (path : RawText) (filter : String) (given : Option GivenSettings)
  | tool (path : RawText) (isPublic : Bool)
  | commandLine (args : List RawText)
  | start
  | request (r : Http.Request)

/-- What an action answers. -/
inductive Answer where
  | done
  | environment (env : Environment)
  | settings (s : Settings)
  | paths (ps : List Path)
  | catalog (c : Catalog)
  | text (t : RawText)
  | exit (code : Nat)
  | response (r : Http.Response)

namespace Action

/-- Change the workspace and nothing else. -/
def change (f : Workspace → Workspace) : Program Answer := do
  Program.modify f
  return .done

/-- The settings for a catalog: those in use, or others that are read for it. -/
def settingsFor : Option GivenSettings → Program Settings
  | none => Program.settings
  | some given => fun w =>
    ⟨(Settings.read given w.environment).mapError .badInteger, w, []⟩

def filterFor (label : String) : Program Filter :=
  match Filter.ofLabel? label with
  | some f => return f
  | none => Program.fail (.unknownFilter label)

def catalogOf (site : Site) (scope : Scope) (method : Method) (path : Path) : Catalog.Result :=
  match scope with
  | .anything => site.ofPath method path
  | .file => site.ofFile method path
  | .directory => site.ofDirectory method path

/-- Make a catalog with settings; a path without one is a fault. -/
def outlineWith (host : Host) (scope : Scope) (path : RawText) (label : String) (settings : Settings) :
    Program Answer := do
  let filter ← filterFor label
  let w ← Program.get
  match ← Program.catalog host (catalogOf w.site scope (host.method settings filter) (.ofText path)) with
  | .ok c => return .catalog c
  | .error fault => Program.fail (.path fault)

def outlineIn (host : Host) (scope : Scope) (path : RawText) (label : String) (given : Option GivenSettings) :
    Program Answer := do
  let settings ← settingsFor given
  outlineWith host scope path label settings

def listIn (path : RawText) (extensions : List String) : Program Answer := do
  let w ← Program.get
  match w.site.list extensions (.ofText path) with
  | .ok ps => return .paths ps
  | .error fault => Program.fail (.path fault)

def run (host : Host) : Action → Program Answer
  | write place content => change fun w => { w with root := Entry.put (.file content) place w.root }
  | makeDirectory place => change fun w => { w with root := Entry.makeDirectory place w.root }
  | remove place => change fun w => { w with root := Entry.remove place w.root }
  | changeDirectory place => change fun w => { w with workingDirectory := place }
  | setPackageRoot place => change fun w => { w with packageRoot := place }
  | assign bindings => change fun w =>
    { w with environment := bindings.foldl (fun env v => env.assign v.1 v.2) w.environment }
  | forgetSettings => change fun w => { w with memo := none }
  | loadVariables => do
    Program.loadVariables host
    return .environment (← Program.get).environment
  | readSettings => return .settings (← Program.settings)
  | listFiles path extensions => listIn path extensions
  | outline scope path filter given => outlineIn host scope path filter given
  | tool path isPublic => return .text (← Tool.run host path isPublic)
  | commandLine args => return .exit (← CommandLine.run host args)
  | start => do
    Http.start host
    return .done
  | request r => return .response (← Http.handle host r)

end Action

/-- Do actions in order, each with what it gets from outside, and collect their runs. -/
def runAll : List (Host × Action) → Workspace → List (Run Answer)
  | [], _ => []
  | (host, action) :: rest, w =>
    let first := action.run host w
    first :: runAll rest first.workspace

end ClassOutline.Service
