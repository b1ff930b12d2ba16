/-!
Tokens of a PHP source: what a token is, the bytes it covers and the row it starts on.
-/
namespace ClassOutline.Php

/-- What the code inside a template may be. -/
inductive Hole where
  /-- A variable or a part of one, between braces. -/
  | place
  /-- A subscript of a variable whose name stands before it. -/
  | subscript
  | expression
  deriving DecidableEq, Repr

/-- What a token is. -/
inductive Lexeme where
  /-- A keyword or a simple name, in lower case. -/
  | word (lower : String)
  /-- A name with a backslash in it. -/
  | qualifiedName
  /-- A name with a backslash in front. -/
  | rootedName
  /-- A qualified name whose first part stands for the current namespace. -/
  | relativeName
  | variableName
  | number
  /-- A quoted text without code in it. -/
  | text
  | templateStart
  /-- The beginning of a template that is a command of the system. -/
  | commandStart
  /-- The end of a template or of a command. -/
  | templateEnd
  /-- The beginning of code inside a template. -/
  | hole (kind : Hole)
  | symbol (s : String)
  /-- A square bracket that opens what a plain equals sign follows. -/
  | targetBracket
  deriving DecidableEq, Repr

/-- A token, with the offsets of its first byte and of the byte after it. -/
structure Token where
  lexeme : Lexeme
  start : Nat
  stop : Nat
  row : Nat
  /-- Whether a comment stands between this token and the one before it. -/
  commented : Bool
  deriving DecidableEq, Repr

end ClassOutline.Php
