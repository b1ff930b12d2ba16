import ClassOutline.Concrete.Tree
import ClassOutline.Syntax.Modifiers
import ClassOutline.Syntax.TypeName
import ClassOutline.Syntax.Tree
import ClassOutline.Text.Basic
import ClassOutline.Text.Case

/-!
From concrete nodes to the nodes of a syntax tree, for everything that has no body of its own: modifiers,
names, types, properties and parameters.

Trees of several versions of the grammar are read, so a part is looked for by its field first and by its
type after that.
-/
namespace ClassOutline.Cst

open Syntax

def typeNodeTypes : List String :=
  ["primitive_type", "bottom_type", "named_type", "optional_type", "union_type", "intersection_type",
    "disjunctive_normal_form_type", "type_list"]

def parameterTypes : List String :=
  ["simple_parameter", "variadic_parameter", "property_promotion_parameter"]

/-- The text without its first character if that is the given one. -/
def dropLeading (c : Char) (cs : List Char) : List Char :=
  match cs with
  | d :: rest => if d = c then rest else cs
  | [] => []

def variableName (n : Cst) : String :=
  String.ofList (dropLeading '$' n.chars)

/-! ### Modifiers -/

/-- The keyword of a visibility, in lower case and without what stands in brackets after it. -/
def visibilityWord (n : Cst) : String :=
  String.ofList (Text.lower (Text.trim (n.chars.takeWhile (· ≠ '('))))

def modifier? (n : Cst) : Option Modifier :=
  match n.type with
  | "visibility_modifier" =>
    match n.visibilityWord with
    | "public" => some .isPublic
    | "protected" => some .isProtected
    | "private" => some .isPrivate
    | _ => none
  | "static_modifier" => some .isStatic
  | "abstract_modifier" => some .isAbstract
  | "final_modifier" => some .isFinal
  | "readonly_modifier" => some .isReadonly
  | "var_modifier" => some .isPublic
  | _ => none

/-- The masks of all modifiers among the children. -/
def modifierMask (children : List Cst) : Nat :=
  (children.filterMap modifier?).foldl (fun mask m => mask ||| m.mask) 0

def visibilityMask : Nat :=
  Modifier.isPublic.mask ||| Modifier.isProtected.mask ||| Modifier.isPrivate.mask

/-- The flags of a member; without a visibility it is public. -/
def memberFlags (n : Cst) : Int :=
  let mask := modifierMask n.children
  if mask &&& visibilityMask = 0 then ((mask ||| Modifier.isPublic.mask : Nat) : Int) else (mask : Int)

/-! ### Names -/

/-- A node for a name, without one leading backslash. A named type stands for the name inside it. -/
def nameNode (n : Cst) : Node :=
  let inner :=
    if n.type == "named_type" then n.named.head?.getD n else n
  .mk .name 0 inner.line [(.named "name", .text (String.ofList (dropLeading '\\' inner.chars)))]

def nameTypes : List String := ["name", "qualified_name", "named_type"]

def clauseNames (clause : Cst) : List Node :=
  (clause.named.filter fun c => nameTypes.contains c.type).map nameNode

def nameList (clause : Cst) : Node :=
  .list .nameList (clause.clauseNames.map .node) clause.line

/-! ### Types -/

/-- The type expression of a node: its `type` field, or else its first named child that is one. -/
def typePart? (n : Cst) : Option Cst :=
  (n.field? "type").orElse fun _ => n.namedOf? typeNodeTypes

def simpleType (n : Cst) : Node :=
  match TypeKeyword.ofKeyword? (String.ofList (Text.lower (Text.trim n.chars))) with
  | some t => .mk .type t.flag n.line []
  | none => n.nameNode

/-- A list of types; a list of one type is that type. -/
def typeList (kind : Kind) (line : Nat) : List Child → Child
  | [member] => member
  | members => .node (.list kind members line)

mutual

/-- The type expression that a concrete node stands for. -/
def typeTree : Cst → Child
  | .node head children =>
    let line : Nat := head.row + 1
    match head.type with
    | "optional_type" => .node (.mk .nullableType 0 line [(.named "type", firstType children)])
    | "union_type" => typeList .unionType line (memberTypes children)
    | "disjunctive_normal_form_type" => typeList .unionType line (memberTypes children)
    | "type_list" => typeList .unionType line (memberTypes children)
    | "intersection_type" => typeList .intersectionType line (memberTypes children)
    | "primitive_type" => .node (simpleType (.node head children))
    | "bottom_type" => .node (simpleType (.node head children))
    | "named_type" => .node (simpleType (.node head children))
    | "name" => .node (simpleType (.node head children))
    | "qualified_name" => .node (simpleType (.node head children))
    | _ => .node (.mk .other 0 line [])

def firstType : List Cst → Child
  | [] => .absent
  | c :: rest => if c.head.named then c.typeTree else firstType rest

/-- The types that the named children other than comments stand for. -/
def memberTypes : List Cst → List Child
  | [] => []
  | c :: rest =>
    if c.head.named && c.head.type != "comment" then c.typeTree :: memberTypes rest else memberTypes rest

end

def typeTree? : Option Cst → Child
  | some n => n.typeTree
  | none => .absent

/-- The return type of a function or method: its field if that is a type expression, else the type
expression inside the field or, without the field, inside the node. -/
def returnTypePart? (n : Cst) : Option Cst :=
  match n.field? "return_type" with
  | some r => if typeNodeTypes.contains r.type then some r else r.typePart?
  | none => n.typePart?

/-! ### Properties and parameters -/

def propertyElement (n : Cst) : Node :=
  let nameNode? := (n.field? "name").orElse fun _ => n.namedOf? ["variable_name"]
  .mk .propElem 0 n.line
    [(.named "name", .ofText? (nameNode?.map variableName)), (.named "default", .absent),
      (.named "docComment", .absent)]

/-- A group of properties that share their modifiers and their type. -/
def propertyGroup (n : Cst) : Node :=
  let elements := n.named.filter fun c => c.type == "property_element"
  .mk .propGroup n.memberFlags n.line
    [(.named "type", typeTree? n.typePart?),
      (.named "props", .node (.list .propDecl (elements.map fun c => .node c.propertyElement) n.line)),
      (.named "attributes", .absent)]

/-- One parameter; only a promoted one has modifiers. -/
def parameter (n : Cst) : Node :=
  .mk .param (if n.type == "property_promotion_parameter" then n.memberFlags else 0) n.line
    [(.named "type", typeTree? n.typePart?), (.named "name", .ofText? ((n.field? "name").map variableName)),
      (.named "default", .absent)]

def parameterList (n : Cst) : Node :=
  .list .paramList ((n.named.filter fun c => parameterTypes.contains c.type).map fun c => .node c.parameter) n.line

end ClassOutline.Cst
