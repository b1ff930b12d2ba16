import ClassOutline.Json.Print
import ClassOutline.Syntax.Modifiers

/-!
The outline of a class: its name, its interfaces, and its properties and methods in source order.
-/
namespace ClassOutline.Outline

open Syntax

structure PropertyEntry where
  name : String
  visibility : Visibility
  deriving DecidableEq, Repr

structure MethodEntry where
  name : String
  visibility : Visibility
  parameters : Nat
  returnType : String
  deriving DecidableEq, Repr

structure ClassSummary where
  name : String
  interfaces : List String
  properties : List PropertyEntry
  methods : List MethodEntry
  deriving DecidableEq, Repr

def PropertyEntry.toJson (p : PropertyEntry) : Json :=
  .object [("name", .string p.name), ("visibility", .string p.visibility.label)]

def MethodEntry.toJson (m : MethodEntry) : Json :=
  .object [("name", .string m.name), ("visibility", .string m.visibility.label),
    ("parameters", .number m.parameters), ("return_type", .string m.returnType)]

/-- The document of an outline. -/
def ClassSummary.toJson (c : ClassSummary) : Json :=
  .object [("type", .string "class_summary"), ("name", .string c.name),
    ("interfaces", .array (c.interfaces.map fun name => .string (raw name))),
    ("properties", .array (c.properties.map PropertyEntry.toJson)),
    ("methods", .array (c.methods.map MethodEntry.toJson))]

end ClassOutline.Outline
