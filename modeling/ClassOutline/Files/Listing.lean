import ClassOutline.Files.Tree
import ClassOutline.Text.Case

/-!
The files below a directory that have certain suffixes, in the order of their paths.
-/
namespace ClassOutline.Files

mutual

/-- Everything below an entry, with the names that lead to it: what a directory holds, then what is below that. -/
def Entry.descendants : Entry → List (List RawText × Entry)
  | .file _ => []
  | .directory entries => entries.map (fun x => ([x.1], x.2)) ++ Entry.descendantsAll entries

def Entry.descendantsAll : List (RawText × Entry) → List (List RawText × Entry)
  | [] => []
  | (name, e) :: rest => e.descendants.map (fun x => (name :: x.1, x.2)) ++ Entry.descendantsAll rest

end

structure FoundFile where
  path : Path
  content : ByteArray

/-- Whether a path has one of the suffixes, without regard to case. Suffixes are characters only. -/
def hasSuffix (extensions : List String) (p : Path) : Bool :=
  match p.suffix.chars? with
  | some suffix => (extensions.map fun e => Text.lower e.toList).contains (Text.lower suffix)
  | none => false

/-- An entry found below a directory, if it is a file with one of the suffixes. -/
def foundFile? (extensions : List String) (directory : Path) (x : List RawText × Entry) : Option FoundFile :=
  match x.2 with
  | .file content =>
    let path := directory.extend x.1
    if hasSuffix extensions path then some ⟨path, content⟩ else none
  | .directory _ => none

/-- The files with one of the suffixes below the entry at a path, by their paths in code point order. -/
def filesBelow (extensions : List String) (directory : Path) (e : Entry) : List FoundFile :=
  (e.descendants.filterMap (foundFile? extensions directory)).mergeSort fun a b => decide (a.path.text ≤ b.path.text)

/-- The first path below the entry at a path that is too long. -/
def overlong? (directory : Path) (e : Entry) : Option Path :=
  (e.descendants.map fun x => directory.extend x.1).find? Path.isTooLong

/-- The files below the entry at a path. To know what is a file everything below it is looked up, so none of the
paths may be too long, be it that of a file with another suffix or of a directory. -/
def listing (extensions : List String) (directory : Path) (e : Entry) : Except Path (List FoundFile) :=
  match overlong? directory e with
  | some path => .error path
  | none => .ok (filesBelow extensions directory e)

end ClassOutline.Files
