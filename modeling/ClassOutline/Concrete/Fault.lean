import ClassOutline.Concrete.Tree
import ClassOutline.Text.Basic

/-!
Syntax errors of a concrete tree.

A tree whose root says that it has an error is refused. The error is the first node, in pre-order, that is
an error or a missing token; the search goes below a node only if that node says it has an error.
-/
namespace ClassOutline

inductive SyntaxFault where
  /-- A token of a type is missing. -/
  | missing (type : String) (line : Nat)
  /-- A text that does not belong there. -/
  | unexpected (token : String) (line : Nat)
  /-- The source ends too early. -/
  | endOfFile (line : Nat)
  /-- There is an error, but no node shows it. -/
  | unexplained (line : Nat)
  deriving DecidableEq, Repr

namespace SyntaxFault

def line : SyntaxFault → Nat
  | missing _ l => l
  | unexpected _ l => l
  | endOfFile l => l
  | unexplained l => l

def message : SyntaxFault → String
  | missing type l => s!"syntax error, missing '{type}' on line {l}"
  | unexpected token l => s!"syntax error, unexpected '{token}' on line {l}"
  | endOfFile l => s!"syntax error, unexpected end of file on line {l}"
  | unexplained l => s!"syntax error, unexpected input on line {l}"

end SyntaxFault

namespace Cst

def isFault (n : Cst) : Bool :=
  n.type == "ERROR" || n.head.missing

/-- The first error among the trees of a list, those in front first. -/
def firstFault? : List Cst → Option Cst
  | [] => none
  | n :: rest =>
    if n.isFault then some n
    else firstFault? ((if n.head.hasError then n.children else []) ++ rest)
termination_by ns => sizeAll ns
decreasing_by
  rw [sizeAll_append]
  have := size_eq n
  split <;> simp only [sizeAll] <;> omega

/-- How many characters of a token an error shows. -/
def maxTokenLength : Nat := 40

/-- The beginning of a node's first line that is not blank. -/
def faultToken (n : Cst) : List Char :=
  (Text.firstLine (Text.trim n.chars)).take maxTokenLength

def describeFault (n : Cst) : SyntaxFault :=
  if n.head.missing then .missing n.type n.line
  else match n.faultToken with
    | [] => .endOfFile n.line
    | token => .unexpected (String.ofList token) n.line

/-- The error for which a tree is refused. -/
def fault? (root : Cst) : Option SyntaxFault :=
  if root.head.hasError then
    match firstFault? [root] with
    | some n => some n.describeFault
    | none => some (.unexplained root.line)
  else none

end Cst

end ClassOutline
