import ClassOutline.Syntax.Tree

/-!
The modifiers of a member, as the bits of its flags.

Flags are whole numbers of either sign, read as two's complement of unbounded width.
-/
namespace ClassOutline.Syntax

inductive Visibility where
  | isPublic
  | isProtected
  | isPrivate
  deriving DecidableEq, Repr

def Visibility.label : Visibility → String
  | isPublic => "public"
  | isProtected => "protected"
  | isPrivate => "private"

/-- A modifier that has a bit of its own. -/
inductive Modifier where
  | isPublic
  | isProtected
  | isPrivate
  | isStatic
  | isFinal
  | isAbstract
  | isReadonly
  deriving DecidableEq, Repr

def Modifier.place : Modifier → Nat
  | isPublic => 0
  | isProtected => 1
  | isPrivate => 2
  | isStatic => 4
  | isFinal => 5
  | isAbstract => 6
  | isReadonly => 7

def Modifier.mask (m : Modifier) : Nat :=
  Nat.pow 2 m.place

/-- The bit at a place of a number in two's complement. -/
def bitAt (flags : Int) (place : Nat) : Bool :=
  (flags >>> place) % 2 == 1

/-- The part of the modifiers that an outline shows or filters by. -/
structure Modifiers where
  visibility : Visibility
  isAbstract : Bool
  deriving DecidableEq, Repr

/-- Public wins over protected, and without either of them a member is private. -/
def Modifiers.ofFlags (flags : Int) : Modifiers where
  visibility :=
    if bitAt flags Modifier.isPublic.place then .isPublic
    else if bitAt flags Modifier.isProtected.place then .isProtected
    else .isPrivate
  isAbstract := bitAt flags Modifier.isAbstract.place

def Node.modifiers (n : Node) : Modifiers :=
  .ofFlags n.flags

end ClassOutline.Syntax
