import ClassOutline.Php.Token

/-!
Square brackets before an equals sign.

What stands between square brackets is a list of values, unless a plain equals sign follows: then it is a list of
places that get the parts of a value, or the subscript of a place. Only the token behind the closing bracket tells,
so the opening ones are marked in a pass of its own, from the end of a source to its beginning.
-/
namespace ClassOutline.Php

/-- Tokens with their brackets marked, and for each bracket that is closed among them but not opened, the innermost
first, whether an equals sign follows it. -/
structure Marked where
  tokens : List Token
  pending : List Bool

/-- Put a token in front. -/
def Marked.add (t : Token) (m : Marked) : Marked :=
  match t.lexeme with
  | .symbol "]" => ⟨t :: m.tokens, (m.tokens.head?.map Token.lexeme == some (.symbol "=")) :: m.pending⟩
  | .symbol "[" =>
    let target := m.pending.head?.getD false
    ⟨(if target then { t with lexeme := .targetBracket } else t) :: m.tokens, m.pending.tail⟩
  | .symbol "#[" => ⟨t :: m.tokens, m.pending.tail⟩
  | _ => ⟨t :: m.tokens, m.pending⟩

/-- The tokens with their brackets marked. -/
def markTargets (tokens : List Token) : List Token :=
  (tokens.foldr Marked.add ⟨[], []⟩).tokens

end ClassOutline.Php
