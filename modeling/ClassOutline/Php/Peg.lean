import ClassOutline.Concrete.Tree
import ClassOutline.Php.Token

/-!
Parsing expressions over tokens.

An expression takes tokens from the front of a list, or fails. Choices are ordered: the second alternative is
tried only if the first one fails. What is taken becomes concrete nodes only where the expression says so.
-/
namespace ClassOutline.Php

/-- A parsing expression with rules named by `ρ`. -/
inductive Peg (ρ : Type) where
  | empty
  /-- One token, which leaves no node. -/
  | token (test : Lexeme → Bool)
  /-- One token as a node of a type. -/
  | leaf (type : String) (test : Lexeme → Bool)
  /-- Takes nothing; a comment before the next token becomes a node. -/
  | remark
  | seq (a b : Peg ρ)
  | choice (a b : Peg ρ)
  /-- The same as `choice (seq (silent a) dropped) (seq a kept)`, but `a` is taken only once. -/
  | fork (a dropped kept : Peg ρ)
  /-- As often as possible. -/
  | many (a : Peg ρ)
  /-- Takes nothing; succeeds if the expression does. -/
  | ahead (a : Peg ρ)
  /-- Takes nothing; succeeds if the expression fails. -/
  | notAhead (a : Peg ρ)
  /-- What is taken, as one node of a type. -/
  | node (type : String) (a : Peg ρ)
  /-- The nodes get a field. -/
  | field (name : String) (a : Peg ρ)
  /-- The nodes are left out. -/
  | silent (a : Peg ρ)
  | call (rule : ρ)

namespace Peg

variable {ρ : Type}

/-- One after the other. -/
def all : List (Peg ρ) → Peg ρ
  | [] => empty
  | [a] => a
  | a :: rest => seq a (all rest)

/-- The first one that succeeds. -/
def oneOf : List (Peg ρ) → Peg ρ
  | [] => notAhead empty
  | [a] => a
  | a :: rest => choice a (oneOf rest)

def opt (a : Peg ρ) : Peg ρ :=
  choice a empty

def many1 (a : Peg ρ) : Peg ρ :=
  seq a (many a)

/-- At least one, with separators between them. -/
def sepBy (separator a : Peg ρ) : Peg ρ :=
  seq a (many (seq separator a))

/-- At least one, with separators between them and perhaps one at the end. -/
def sepEndBy (separator a : Peg ρ) : Peg ρ :=
  seq (sepBy separator a) (opt separator)

end Peg

/-- The tokens that are left, and the offset behind the last one taken. -/
structure Cursor where
  rest : List Token
  reached : Nat

/-- A node for the tokens between two cursors. -/
def Cursor.node (source : ByteArray) (type : String) (before after : Cursor) (children : List Cst) : Cst :=
  let first := before.rest.head?
  .node { type := type, field := none, row := (first.map Token.row).getD 0,
          bytes := source.extract ((first.map Token.start).getD before.reached) after.reached,
          named := true, missing := false, hasError := false } children

/-- A node with a field. -/
def withField (name : String) : Cst → Cst
  | .node head children => .node { head with field := some name } children

/-- The nodes that an expression makes and what it leaves, if it succeeds with at most `fuel` calls and
repetitions inside each other. -/
def Peg.run {ρ : Type} (source : ByteArray) (rules : ρ → Peg ρ) (fuel : Nat) (e : Peg ρ) (here : Cursor) :
    Option (List Cst × Cursor) :=
  match e with
  | .empty => some ([], here)
  | .token test =>
    match here.rest with
    | [] => none
    | t :: ts => if test t.lexeme then some ([], ⟨ts, t.stop⟩) else none
  | .leaf type test =>
    match here.rest with
    | [] => none
    | t :: ts =>
      if test t.lexeme then some ([here.node source type ⟨ts, t.stop⟩ []], ⟨ts, t.stop⟩) else none
  | .remark =>
    let commented := (here.rest.head?.map Token.commented).getD false
    some (if commented then [here.node source "comment" here []] else [], here)
  | .seq a b =>
    match a.run source rules fuel here with
    | none => none
    | some (first, next) =>
      match b.run source rules fuel next with
      | none => none
      | some (second, last) => some (first ++ second, last)
  | .choice a b =>
    match a.run source rules fuel here with
    | some r => some r
    | none => b.run source rules fuel here
  | .fork a dropped kept =>
    match a.run source rules fuel here with
    | none => none
    | some (first, next) =>
      match dropped.run source rules fuel next with
      | some r => some r
      | none => (kept.run source rules fuel next).map fun r => (first ++ r.1, r.2)
  | .many a =>
    match fuel with
    | 0 => none
    | fuel' + 1 =>
      match a.run source rules (fuel' + 1) here with
      | none => some ([], here)
      | some (first, next) =>
        match (Peg.many a).run source rules fuel' next with
        | none => none
        | some (others, last) => some (first ++ others, last)
  | .ahead a => (a.run source rules fuel here).map fun _ => ([], here)
  | .notAhead a =>
    match a.run source rules fuel here with
    | some _ => none
    | none => some ([], here)
  | .node type a =>
    (a.run source rules fuel here).map fun r => ([here.node source type r.2 r.1], r.2)
  | .field name a => (a.run source rules fuel here).map fun r => (r.1.map (withField name), r.2)
  | .silent a => (a.run source rules fuel here).map fun r => ([], r.2)
  | .call rule =>
    match fuel with
    | 0 => none
    | fuel' + 1 => (rules rule).run source rules fuel' here
termination_by (fuel, sizeOf e)

end ClassOutline.Php
