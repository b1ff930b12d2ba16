import ClassOutline.Catalog.Basic
import ClassOutline.Catalog.Pool
import ClassOutline.Config.Settings
import ClassOutline.Files.Listing

/-!
The catalog of a file, of all files below a directory, or of whatever a path leads to.
-/
namespace ClassOutline.Catalog

open Config Files Log Outline

/-- The files that exist, and the directory in which relative paths start. -/
structure Site where
  root : Entry
  workingDirectory : List RawText

/-- What the work on a catalog depends on besides the files. -/
structure Method where
  read : Reader
  settings : Settings
  filter : Filter
  /-- Which of several files that are read at a time are finished first. -/
  schedule : List Nat

abbrev Result := Except PathFault (Logged Catalog)

namespace Site

def lookup (site : Site) (path : Path) : Lookup :=
  Files.lookup site.root site.workingDirectory path

def ofFile (site : Site) (method : Method) (path : Path) : Result :=
  let path := path.absolute site.workingDirectory
  match site.lookup path with
  | .missing => .error (.notFound path)
  | .tooLong => .error (.tooLong path)
  | .found (.directory _) => .error (.notFile path)
  | .found (.file content) =>
    .ok ((outlineContent method.read method.filter path content).map fun o => ⟨[(path.text, o)]⟩)

def outlineFound (method : Method) (file : FoundFile) : Logged (RawText × FileOutline) :=
  (outlineContent method.read method.filter file.path file.content).map fun o => (file.path.text, o)

/-- The outlines of files, in their order, with the records in the order in which the files are done. Several
workers are used only if there are several files. -/
def outlineAll (method : Method) (files : List FoundFile) : Logged Catalog :=
  let outlines := files.map (outlineFound method)
  let done :=
    if 1 < method.settings.maxWorkers ∧ 1 < files.length
    then Pool.order method.settings.maxWorkers.toNat method.schedule outlines
    else outlines
  ⟨⟨outlines.map Logged.value⟩, done.flatMap Logged.records⟩

def ofDirectory (site : Site) (method : Method) (path : Path) : Result :=
  let path := path.absolute site.workingDirectory
  match site.lookup path with
  | .missing => .error (.notFound path)
  | .tooLong => .error (.tooLong path)
  | .found (.file _) => .error (.notDirectory path)
  | .found e =>
    match listing method.settings.extensions path e with
    | .error path => .error (.tooLong path)
    | .ok files =>
      let start := Record.of .debug catalogLogger s!"Outlining {files.length} files under {path.text.shown}"
      let all := outlineAll method files
      .ok ⟨all.value, start :: all.records⟩

def ofPath (site : Site) (method : Method) (path : Path) : Result :=
  match site.lookup path with
  | .tooLong => .error (.tooLong path)
  | .found (.directory _) => site.ofDirectory method path
  | _ => site.ofFile method path

/-- The paths of the files that a listing of a path finds; there are none if it is not a directory. -/
def list (site : Site) (extensions : List String) (path : Path) : Except PathFault (List Path) :=
  match site.lookup path with
  | .tooLong => .error (.tooLong path)
  | .found e =>
    match listing extensions path e with
    | .error path => .error (.tooLong path)
    | .ok files => .ok (files.map FoundFile.path)
  | .missing => .ok []

end Site

end ClassOutline.Catalog
