import ClassOutline.Outline.Filter
import ClassOutline.Outline.Summary
import ClassOutline.Syntax.TypeText
import ClassOutline.Syntax.Walk

/-!
From a syntax tree to the outline of its first class.

Every tree has a well-defined outline: a slot that is missing or holds the wrong kind of value counts as a
name that is not known, an empty list or no parameters.
-/
namespace ClassOutline.Outline

open Syntax

/-- The text, or the given one if it is missing or empty. -/
def orUnnamed (unnamed : String) : Option String → String
  | some s => if s.isEmpty then unnamed else s
  | none => unnamed

def className (decl : Node) : String :=
  orUnnamed "UnknownClass" (decl.text? "name")

/-- The names in the list of interfaces; entries without a name are passed over. -/
def interfaces (decl : Node) : List String :=
  match decl.node? "implements" with
  | some names => names.subnodes.filterMap (·.text? "name")
  | none => []

/-- The properties that a group declares. -/
def groupEntries (group : Node) : List PropertyEntry :=
  match group.node? "props" with
  | some props =>
    (props.subnodes.filterMap (·.text? "name")).map fun name => ⟨name, group.modifiers.visibility⟩
  | none => []

def parameterCount (method : Node) : Nat :=
  match method.node? "params" with
  | some params => params.children.length
  | none => 0

def returnType (method : Node) : String :=
  match method.child? (.named "returnType") with
  | none => "untyped"
  | some .absent => "untyped"
  | some type => type.typeText 0

def methodEntry (method : Node) : MethodEntry where
  name := orUnnamed "unknown" (method.text? "name")
  visibility := method.modifiers.visibility
  parameters := parameterCount method
  returnType := returnType method

/-- The properties that a node itself contributes. -/
def ownProperties (filter : Filter) (n : Node) : List PropertyEntry :=
  if n.kind = .propGroup ∧ filter.allows n.modifiers then groupEntries n else []

/-- The method that a node itself is. -/
def ownMethods (filter : Filter) (n : Node) : List MethodEntry :=
  if n.kind = .method ∧ filter.allows n.modifiers then [methodEntry n] else []

/-- The outline of a declaration, with its members in pre-order. -/
def summarize (filter : Filter) (decl : Node) : ClassSummary where
  name := className decl
  interfaces := interfaces decl
  properties := decl.nodes.flatMap (ownProperties filter)
  methods := decl.nodes.flatMap (ownMethods filter)

/-- The outline of the first class of a tree; what is not a node has none. -/
def ofTree (filter : Filter) (tree : Child) : Option ClassSummary :=
  tree.firstClass?.map (summarize filter)

end ClassOutline.Outline
