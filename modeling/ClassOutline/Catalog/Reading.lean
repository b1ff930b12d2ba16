import ClassOutline.Files.Path
import ClassOutline.Log.Record
import ClassOutline.Outline.Reduce

/-!
The outline of one file, or why there is none. A file that cannot be read never stops the work on others. The log shows
a byte of a path that is no character by its number.
-/
namespace ClassOutline.Catalog

open Files Log Outline

/-- Why a file gives no syntax tree. -/
inductive ReadFailure where
  /-- The system did not give the content. -/
  | unreadable (message : String)
  /-- The content is not well formed. -/
  | syntaxError (message : String)
  /-- The system refused something after the content was there. -/
  | system (message : String)
  /-- Anything else, by the name of its kind. -/
  | unexpected (kind message : String)
  deriving DecidableEq, Repr

/-- A reader of files, each by its path and its content. -/
abbrev Reader := Path → ByteArray → Except ReadFailure Syntax.Node

inductive FileOutline where
  | outlined (summary : ClassSummary)
  | noClass
  | failed (message : String)
  deriving DecidableEq, Repr

def FileOutline.ofSummary? : Option ClassSummary → FileOutline
  | some summary => outlined summary
  | none => noClass

def FileOutline.toJson : FileOutline → Json
  | outlined summary => summary.toJson
  | noClass => .null
  | failed message => .object [("error", .string message)]

def catalogLogger : String := "php_outline.outline.provider"

def readerLogger : String := "php_outline.outline.php_parser"

namespace ReadFailure

/-- What a catalog says about a failure. One without a message is called by its kind. -/
def text : ReadFailure → String
  | unreadable message => message
  | syntaxError message => message
  | system message => message
  | unexpected kind message => if message.isEmpty then kind else message

/-- What the log says about a failure. -/
def record (path : Path) : ReadFailure → Record
  | unexpected _ _ => .of .error catalogLogger s!"Unexpected failure outlining {path.text.shown}"
  | failure => .of .warning catalogLogger s!"Failed to outline {path.text.shown}: {failure.text}"

/-- Whether a failure comes before the content is there. -/
def precedesContent : ReadFailure → Bool
  | unreadable _ => true
  | _ => false

end ReadFailure

/-- The outline of a file with some content. That the work begins is said once the content is there. -/
def outlineContent (read : Reader) (filter : Filter) (path : Path) (content : ByteArray) : Logged FileOutline :=
  let start := Record.of .debug readerLogger s!"Parsing {path.text.shown} ({content.size} bytes)"
  match read path content with
  | .ok tree => ⟨.ofSummary? (Outline.ofTree filter (.node tree)), [start]⟩
  | .error failure =>
    ⟨.failed failure.text, (if failure.precedesContent then [] else [start]) ++ [failure.record path]⟩

end ClassOutline.Catalog
