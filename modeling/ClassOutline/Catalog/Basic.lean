import ClassOutline.Catalog.Reading

/-!
Catalogs: the outlines of files by their absolute paths, and why there may be no catalog of a path.
-/
namespace ClassOutline.Catalog

open Files

/-- Why there is no catalog of a path. -/
inductive PathFault where
  | notFound (path : Path)
  | notFile (path : Path)
  | notDirectory (path : Path)
  | tooLong (path : Path)
  deriving DecidableEq, Repr

def PathFault.message : PathFault → RawText
  | notFound path => "Path not found: " ++ path.text
  | notFile path => "Path is not a file: " ++ path.text
  | notDirectory path => "Path is not a directory: " ++ path.text
  | tooLong path => "[Errno 36] File name too long: " ++ raw path.text.quoted

end ClassOutline.Catalog

namespace ClassOutline

/-- Files by their paths, with what is known of them. -/
structure Catalog where
  entries : List (RawText × Catalog.FileOutline)
  deriving DecidableEq, Repr

def Catalog.toJson (c : Catalog) : Json :=
  .object (c.entries.map fun e => (e.1, e.2.toJson))

end ClassOutline
