import ClassOutline.Syntax.Tree
import ClassOutline.Syntax.TypeName
import ClassOutline.Syntax.TypeText

/-!
Type expressions whose nodes may be shared or contain themselves.

A graph numbers its nodes. The text of a type expression follows the graph from a node to its children; a
node that is already on the path, or that has 64 nodes above it, is `unknown`, so the text is finite.
-/
namespace ClassOutline.Syntax

inductive GraphChild where
  | node (id : Nat)
  | text (s : String)
  | number (n : Int)
  | other
  deriving DecidableEq, Repr, Inhabited

structure GraphNode where
  kind : Kind
  flags : Int
  children : List (Slot × GraphChild)

/-- Nodes numbered from 0 on. -/
structure TypeGraph where
  nodes : Array GraphNode

namespace TypeGraph

/-- The text of a type expression when `left` more nodes may follow those of `path`. -/
def typeText (g : TypeGraph) : Nat → List Nat → GraphChild → String
  | _, _, .text s => s
  | _, _, .number n => flagName n
  | _, _, .other => unknownType
  | 0, _, .node _ => unknownType
  | left + 1, path, .node id =>
    if path.contains id then unknownType
    else match g.nodes[id]? with
      | none => unknownType
      | some n =>
        match n.kind with
        | .type => flagName n.flags
        | .name =>
          match n.children.lookup (.named "name") with
          | some (.text s) => s
          | _ => unknownType
        | .nullableType =>
          "?" ++ ((n.children.lookup (.named "type")).map (g.typeText left (id :: path))).getD unknownType
        | .unionType => joinTypes "|" (n.children.map fun c => g.typeText left (id :: path) c.2)
        | .intersectionType => joinTypes "&" (n.children.map fun c => g.typeText left (id :: path) c.2)
        | _ => unknownType

def render (g : TypeGraph) (c : GraphChild) : String :=
  g.typeText maxTypeDepth [] c

end TypeGraph

end ClassOutline.Syntax
