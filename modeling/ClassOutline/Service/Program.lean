import ClassOutline.Json.Print
import ClassOutline.Service.Exchange
import ClassOutline.Service.Workspace

/-!
Programs that work on a workspace.

A program changes the workspace, logs and prints, and ends with a value or a fault. A fault ends it, but
what was done before stays done. The last part is the catalog of a path for other programs, one line of JSON in ASCII.
-/
namespace ClassOutline.Service

open Catalog Config Files Log Outline

/-- Why a program ends without a value. -/
inductive Fault where
  | loading (fault : LoadingFault)
  | badInteger (fault : IntegerFault)
  | unknownLevel (fault : UnknownLevel)
  | unknownFilter (label : String)
  | path (fault : PathFault)
  | layout (fault : Json.IndentFault)
  /-- A text has letters that its receiver cannot take. -/
  | unwritable (message : String)
  deriving DecidableEq, Repr

def Fault.message : Fault → RawText
  | loading fault => fault.message
  | badInteger fault => fault.message
  | unknownLevel fault => fault.message
  | unknownFilter label => raw (Text.quoted label ++ " is not a valid FilterMode")
  | path fault => fault.message
  | layout fault => fault.message
  | unwritable message => message

/-- What happens while a program runs. -/
inductive Event where
  /-- A record of at least the general level. -/
  | recorded (r : Record)
  | written (channel : Channel) (text : RawText)
  /-- The settings in use were asked for, with this outcome. -/
  | consulted (outcome : Except IntegerFault Settings)

/-- What a program gets from outside. -/
structure Host where
  read : Reader
  variableReader : VariableReader
  framework : Http.Framework
  /-- Which of several files that are read at a time are finished first. -/
  schedule : List Nat
  /-- The process whose streams the program has. -/
  process : Nat
  terminal : Stream → Option Bool
  /-- Why the output does not take a text. -/
  refusal : RawText → Option String
  /-- The number of spaces for which there is room. -/
  room : Nat
  /-- The time, the memory and the duration that log lines show. -/
  time : String
  memory : String
  duration : String

namespace Host

def output (host : Host) : Channel := ⟨host.process, .output⟩

def errors (host : Host) : Channel := ⟨host.process, .errors⟩

def method (host : Host) (settings : Settings) (filter : Filter) : Method :=
  ⟨host.read, settings, filter, host.schedule⟩

end Host

structure Run (α : Type) where
  value : Except Fault α
  workspace : Workspace
  events : List Event

def Run.records {α : Type} (r : Run α) : List Record :=
  r.events.filterMap fun
    | .recorded record => some record
    | _ => none

/-- The text that a stream received. -/
def Run.text {α : Type} (r : Run α) (channel : Channel) : RawText :=
  (r.events.filterMap fun
    | .written c text => if c = channel then some text else none
    | _ => none).flatten

/-- What the settings in use were, each time that they were asked for. -/
def Run.consulted {α : Type} (r : Run α) : List (Except IntegerFault Settings) :=
  r.events.filterMap fun
    | .consulted outcome => some outcome
    | _ => none

def Program (α : Type) : Type :=
  Workspace → Run α

namespace Program

variable {α β : Type}

def pure (a : α) : Program α :=
  fun w => ⟨.ok a, w, []⟩

def bind (p : Program α) (f : α → Program β) : Program β :=
  fun w =>
    let first := p w
    match first.value with
    | .error fault => ⟨.error fault, first.workspace, first.events⟩
    | .ok a =>
      let second := f a first.workspace
      ⟨second.value, second.workspace, first.events ++ second.events⟩

instance : Monad Program where
  pure := pure
  bind := bind

def fail (fault : Fault) : Program α :=
  fun w => ⟨.error fault, w, []⟩

def get : Program Workspace :=
  fun w => ⟨.ok w, w, []⟩

def modify (f : Workspace → Workspace) : Program Unit :=
  fun w => ⟨.ok (), f w, []⟩

def write (channel : Channel) (text : RawText) : Program Unit :=
  fun w => ⟨.ok (), w, [.written channel text]⟩

/-- Print a line on the output, if it takes the text. -/
def print (host : Host) (text : RawText) : Program Unit :=
  match host.refusal text with
  | none => write host.output (text ++ raw "\n")
  | some message => fail (.unwritable message)

/-- Print a line on the errors, which take every text and show by its number what is no character. -/
def printError (host : Host) (text : RawText) : Program Unit :=
  write host.errors (raw (text.shown ++ "\n"))

/-- What a record writes, and where. Without a handler it may go to the errors. -/
def lines (host : Host) (w : Workspace) (r : Record) : List (Channel × String) :=
  w.logging.writes host.time r ++ (w.logging.lastResort r).map fun text => (host.errors, text)

def log (host : Host) (r : Record) : Program Unit :=
  fun w =>
    let recorded := if w.logging.isEnabled r then [Event.recorded r] else []
    ⟨.ok (), w, recorded ++ (lines host w r).map fun x => .written x.1 (raw x.2)⟩

def logAll (host : Host) : List Record → Program Unit
  | [] => pure ()
  | r :: rest => bind (log host r) fun _ => logAll host rest

/-- Load the files of variables. -/
def loadVariables (host : Host) : Program Unit := do
  let w ← get
  logAll host (w.complaints host.variableReader)
  modify (Workspace.loadVariables host.variableReader)
  match (w.loadBoth host.variableReader).2 with
  | none => pure ()
  | some fault => fail (.loading fault)

/-- The settings in use. They are read from the environment the first time that this succeeds. -/
def settings : Program Settings :=
  fun w =>
    match w.memo with
    | some s => ⟨.ok s, w, [.consulted (.ok s)]⟩
    | none =>
      match Settings.ofEnvironment w.environment with
      | .ok s => ⟨.ok s, { w with memo := some s }, [.consulted (.ok s)]⟩
      | .error fault => ⟨.error (.badInteger fault), w, [.consulted (.error fault)]⟩

def setUpLogging (host : Host) (level : String) (stream : Stream) : Program Unit :=
  fun w =>
    let style := styleFor (host.terminal stream) (w.environment.get? "NO_COLOR")
    let configured := w.logging.configure (some level) ⟨host.process, stream⟩ style
    ⟨configured.1.mapError .unknownLevel, { w with logging := configured.2 }, []⟩

/-- The text of a document in the layout of the settings. -/
def layOut (host : Host) (settings : Settings) (document : Json) : Program RawText :=
  match Json.Format.indented? host.room settings.jsonIndent with
  | .ok format => pure (document.render format)
  | .error fault => fail (.layout fault)

/-- The catalog of a path, with its records logged. -/
def catalog (host : Host) (result : Catalog.Result) : Program (Except PathFault Catalog) :=
  match result with
  | .error fault => pure (.error fault)
  | .ok logged => bind (logAll host logged.records) fun _ => pure (.ok logged.value)

/-- The catalog of whatever a path leads to. -/
def outlinePath (host : Host) (settings : Settings) (filter : Filter) (path : RawText) :
    Program (Except PathFault Catalog) :=
  fun w => catalog host (w.site.ofPath (host.method settings filter) (.ofText path)) w

end Program

def errorJson (message : RawText) : Json :=
  .object [("error", .string message)]

/-- The document of a catalog, or of the fault in its place. -/
def catalogJson : Except PathFault Catalog → Json
  | .ok catalog => catalog.toJson
  | .error fault => errorJson fault.message

/-- The catalog of a path as one line. -/
def Tool.run (host : Host) (path : RawText) (isPublic : Bool) : Program RawText := do
  let settings ← Program.settings
  let result ← Program.outlinePath host settings (.ofPublic isPublic) path
  return (catalogJson result).render .asciiLine

end ClassOutline.Service
