import ClassOutline.Concrete.Lowering
import ClassOutline.Php.Brackets
import ClassOutline.Php.Grammar
import ClassOutline.Php.Lexer

/-!
From the bytes of a PHP source to its concrete tree and on to its syntax tree.

The grammar here does not recover from errors, so it does not tell where a malformed source goes wrong: the tree of such
a source is a bare root with an error, and its fault names no token and always the first line. A parser that recovers
has error nodes and missing nodes in its tree, and the search for the first of them (`Concrete.Fault`) names its token
and its line. That much of a fault is not reproduced for sources that are read here.
-/
namespace ClassOutline.Php

/-- Calls and repetitions that may stand inside each other for each token of a source: more than the grammar
can reach without taking a token. -/
def fuelPerToken : Nat := 64

/-- The nodes of all statements of a source, if it is well formed. -/
def statements? (source : ByteArray) : Option (List Cst) :=
  match (tokens? source).map markTargets with
  | none => none
  | some tokens =>
    match Grammar.statements.run source Grammar.rules (fuelPerToken * (tokens.length + 1)) ⟨tokens, 0⟩ with
    | some (nodes, ⟨[], _⟩) => some nodes
    | _ => none

/-- The concrete tree of a source. One that is not well formed has a root that says so, and no nodes. -/
def concreteTree (source : ByteArray) : Cst :=
  let nodes? := statements? source
  .node { type := "program", field := none, row := 0, bytes := source, named := true, missing := false,
          hasError := nodes?.isNone } (nodes?.getD [])

/-- The syntax tree of a source. -/
def syntaxTree (source : ByteArray) : Except SyntaxFault Syntax.Node :=
  (concreteTree source).tree

end ClassOutline.Php
