import ClassOutline.Catalog.Site
import ClassOutline.Config.Loading
import ClassOutline.Log.Setup

/-!
The state that the services share: files, variables, the settings in use and where log records go.
-/
namespace ClassOutline.Service

open Catalog Config Files Log

inductive Stream where
  | output
  | errors
  deriving DecidableEq, Repr

/-- A stream of one process. A handler keeps the stream that it was made for, so the streams of different processes
are told apart. -/
structure Channel where
  process : Nat
  stream : Stream
  deriving DecidableEq, Repr

structure Workspace where
  root : Entry
  workingDirectory : List RawText
  /-- The directory of the program itself, which may hold a file of variables too. -/
  packageRoot : List RawText
  environment : Environment
  /-- The settings in use, once they have been read. -/
  memo : Option Settings
  logging : Setup Channel

namespace Workspace

def site (w : Workspace) : Site :=
  ⟨w.root, w.workingDirectory⟩

/-- The file of variables of a directory. -/
def variablesAt? (w : Workspace) (place : List RawText) : Option ByteArray :=
  match w.root.get? (place ++ [raw ".env"]) with
  | some (.file content) => some content
  | _ => none

/-- A place and the places above it, the nearest first. -/
def upwards : List RawText → List (List RawText)
  | [] => [[]]
  | name :: rest => (upwards rest).map (name :: ·) ++ [[]]

/-- The nearest file of variables, going up from the working directory. -/
def nearestVariables? (w : Workspace) : Option ByteArray :=
  (upwards w.workingDirectory).findSome? w.variablesAt?

/-- The environment after the nearest file of variables is loaded, and whether that failed. -/
def loadNearest (reader : VariableReader) (w : Workspace) : Environment × Option LoadingFault :=
  w.environment.load reader w.nearestVariables?

/-- The environment after the nearest file of variables and then that of the program are loaded, and what failed. -/
def loadBoth (reader : VariableReader) (w : Workspace) : Environment × Option LoadingFault :=
  match w.loadNearest reader with
  | (env, some fault) => (env, some fault)
  | (env, none) => env.load reader (w.variablesAt? w.packageRoot)

/-- What the reader has to say about the files that are loaded. -/
def complaints (reader : VariableReader) (w : Workspace) : List Record :=
  (reader w.environment w.nearestVariables?).records ++
    match w.loadNearest reader with
    | (_, some _) => []
    | (env, none) => (reader env (w.variablesAt? w.packageRoot)).records

def loadVariables (reader : VariableReader) (w : Workspace) : Workspace :=
  { w with environment := (w.loadBoth reader).1 }

end Workspace

end ClassOutline.Service
