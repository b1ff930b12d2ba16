import ClassOutline.Syntax.Tree
import ClassOutline.Syntax.TypeName

/-!
The text of a type expression in a syntax tree.

Members of unions and intersections are joined flat. A node with 64 or more nodes above it, and everything
that is no type expression, is `unknown`.
-/
namespace ClassOutline.Syntax

/-- The nodes that a type expression may have on one path. -/
def maxTypeDepth : Nat := 64

/-- A part of a type expression, joined to the others by this text. -/
def joinTypes (separator : String) (parts : List String) : String :=
  separator.intercalate parts

mutual

/-- The text of a type node that has `above` nodes above it. -/
def Node.typeText (above : Nat) : Node → String
  | .mk kind flags _ children =>
    if maxTypeDepth ≤ above then unknownType
    else match kind with
      | .type => flagName flags
      | .name =>
        match children.lookup (.named "name") with
        | some (.text s) => s
        | _ => unknownType
      | .nullableType => "?" ++ Child.typeTextIn (above + 1) (.named "type") children
      | .unionType => joinTypes "|" (Child.typeTexts (above + 1) children)
      | .intersectionType => joinTypes "&" (Child.typeTexts (above + 1) children)
      | _ => unknownType

/-- The text of a type expression below `above` nodes. -/
def Child.typeText (above : Nat) : Child → String
  | .node n => n.typeText above
  | .text s => s
  | .number n => flagName n
  | .absent => unknownType
  | .foreign _ => unknownType

/-- The text of the type expression in one slot. -/
def Child.typeTextIn (above : Nat) (slot : Slot) : List (Slot × Child) → String
  | [] => unknownType
  | (s, c) :: rest => if slot == s then c.typeText above else Child.typeTextIn above slot rest

def Child.typeTexts (above : Nat) : List (Slot × Child) → List String
  | [] => []
  | (_, c) :: rest => c.typeText above :: Child.typeTexts above rest

end

end ClassOutline.Syntax
