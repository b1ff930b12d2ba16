import ClassOutline.Text.Basic
import ClassOutline.Text.Raw

/-!
Paths: where they start, and the names on the way. Repeated slashes, a slash at the end and names that are a
single dot make no difference; two dots are kept, for only a file system knows what they lead to.
-/
namespace ClassOutline.Files

inductive Anchor where
  | relative
  | root
  /-- Exactly two slashes, which are kept. -/
  | doubleRoot
  deriving DecidableEq, Repr

def Anchor.text : Anchor → RawText
  | relative => ""
  | root => "/"
  | doubleRoot => "//"

structure Path where
  anchor : Anchor
  parts : List RawText
  deriving DecidableEq, Repr

namespace Path

def anchorOf (t : RawText) : Anchor :=
  match (t.takeWhile (· = .char '/')).length with
  | 0 => .relative
  | 2 => .doubleRoot
  | _ => .root

def ofText (t : RawText) : Path where
  anchor := anchorOf t
  parts := (Text.splitOn (.char '/') t).filter fun part => part ≠ [] ∧ part ≠ raw "."

/-- The text of a path; the empty relative path is a dot. -/
def text (p : Path) : RawText :=
  if p.anchor = .relative ∧ p.parts = [] then "." else p.anchor.text ++ [Letter.char '/'].intercalate p.parts

/-- The path from a working directory; an absolute path stays. -/
def absolute (workingDirectory : List RawText) (p : Path) : Path :=
  if p.anchor = .relative then ⟨.root, workingDirectory ++ p.parts⟩ else p

/-- The place that names lead to from another one; two dots take back the name before them. -/
def follow (place parts : List RawText) : List RawText :=
  parts.foldl (fun done part => if part = raw ".." then done.dropLast else done ++ [part]) place

def place (parts : List RawText) : List RawText :=
  follow [] parts

def extend (p : Path) (parts : List RawText) : Path :=
  ⟨p.anchor, p.parts ++ parts⟩

/-- The part of a name from its last dot on; there is none if that dot is the first or the last letter. -/
def suffixOf (name : RawText) : RawText :=
  let tail := name.reverse.takeWhile (· ≠ .char '.')
  if tail = [] ∨ name.length ≤ tail.length + 1 then [] else .char '.' :: tail.reverse

def suffix (p : Path) : RawText :=
  match p.parts.getLast? with
  | some name => suffixOf name
  | none => []

end Path

end ClassOutline.Files
