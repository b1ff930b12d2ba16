import ClassOutline.Files.Path

/-!
File systems of files and directories, and what a path leads to in them.
-/
namespace ClassOutline.Files

inductive Entry where
  | file (content : ByteArray)
  | directory (entries : List (RawText × Entry))

namespace Entry

def empty : Entry := directory []

def child? (name : RawText) : Entry → Option Entry
  | file _ => none
  | directory entries => entries.lookup name

/-- The entry at a place, given by the names that lead to it. -/
def get? (e : Entry) : List RawText → Option Entry
  | [] => some e
  | name :: rest =>
    match e.child? name with
    | some c => c.get? rest
    | none => none

/-- The directory with another entry in the place of one of its entries, or with none. -/
def setChild (name : RawText) (new : Option Entry) (entries : List (RawText × Entry)) : List (RawText × Entry) :=
  (new.map fun e => (name, e)).toList ++ entries.filter fun x => x.1 != name

/-- Put an entry at a place, making the directories that lead to it. Nothing can be put below a file. -/
def put (new : Entry) : List RawText → Entry → Entry
  | [], _ => new
  | _ :: _, file content => file content
  | name :: rest, directory entries =>
    directory (setChild name (some (put new rest ((entries.lookup name).getD empty))) entries)

/-- Make a directory at a place if nothing is there. -/
def makeDirectory (place : List RawText) (e : Entry) : Entry :=
  match e.get? place with
  | some _ => e
  | none => put empty place e

def remove : List RawText → Entry → Entry
  | [], e => e
  | _ :: _, file content => file content
  | [name], directory entries => directory (setChild name none entries)
  | name :: next :: rest, directory entries =>
    match entries.lookup name with
    | some c => directory (setChild name (some (remove (next :: rest) c)) entries)
    | none => directory entries

end Entry

inductive Lookup where
  | found (e : Entry)
  | missing
  /-- A name on the way, or the whole path, is too long. -/
  | tooLong

def maxNameBytes : Nat := 255

/-- The number of bytes from which on a path is too long. -/
def pathLimit : Nat := 4096

def Path.isTooLong (p : Path) : Bool :=
  decide (pathLimit ≤ p.text.size)

/-- Follow names from a place. Only a directory can be left for another place; two dots lead to the directory
above. -/
def walk (root : Entry) (place : List RawText) : List RawText → Lookup
  | [] =>
    match root.get? place with
    | some e => .found e
    | none => .missing
  | name :: rest =>
    match root.get? place with
    | some (.directory _) =>
      if name = raw ".." then walk root place.dropLast rest
      else if maxNameBytes < name.size then .tooLong
      else walk root (place ++ [name]) rest
    | _ => .missing

/-- What a path leads to from a working directory. A path with a null character leads nowhere. -/
def lookup (root : Entry) (workingDirectory : List RawText) (p : Path) : Lookup :=
  if p.text.contains (.char '\x00') then .missing
  else if p.isTooLong then .tooLong
  else walk root (if p.anchor = .relative then workingDirectory else []) p.parts

end ClassOutline.Files
