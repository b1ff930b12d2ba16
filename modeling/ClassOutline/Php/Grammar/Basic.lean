import ClassOutline.Php.Peg

/-!
The rules of the grammar of PHP by name, and the expressions for its tokens and names.
-/
namespace ClassOutline.Php

/-- The rules of the grammar. -/
inductive Rule where
  -- statements
  | statement
  | block
  | conditional
  | switchCase
  -- declarations
  | function
  | classLike
  | member
  | enumMember
  | hook
  | modifier
  | parameter
  | attributes
  | type
  | storedType
  -- expressions
  | expression
  | tail
  | unary
  | operand
  | simpleVariable
  | arguments
  | place
  | afterPlace
  | afterValue
  | placeAfterPlace
  | placeAfterValue
  | valueStart
  | arrayTarget
  | listTarget
  | classReference
  | creation
  | closure
  | matchArm
  | template
  deriving DecidableEq, Repr

namespace Grammar

abbrev Expr := Peg Rule

open Peg

/-- Words that are neither names nor operands. -/
def reserved : List String :=
  ["abstract", "and", "array", "as", "break", "callable", "case", "catch", "class", "clone", "const", "continue",
    "declare", "default", "do", "echo", "else", "elseif", "enddeclare", "endfor", "endforeach", "endif",
    "endswitch", "endwhile", "extends", "final", "finally", "fn", "for", "foreach", "function", "global", "goto",
    "if", "implements", "include", "include_once", "instanceof", "insteadof", "interface", "list", "match",
    "namespace", "new", "or", "print", "private", "protected", "public", "readonly", "require", "require_once",
    "return", "static", "switch", "throw", "trait", "try", "unset", "use", "var", "while", "xor", "yield"]

def isWord : Lexeme → Bool
  | .word _ => true
  | _ => false

def isIdentifier : Lexeme → Bool
  | .word w => !reserved.contains w
  | _ => false

/-- Names of functions: one reserved word may name a function. -/
def isFunctionName (l : Lexeme) : Bool :=
  isIdentifier l || l == .word "readonly"

/-- Names of types of what is stored: identifiers and two words that are types. -/
def isStoredType : Lexeme → Bool
  | .word w => ["array", "callable"].contains w || !reserved.contains w
  | _ => false

/-- Names of types of results. -/
def isTypeWord (l : Lexeme) : Bool :=
  isStoredType l || l == .word "static"

def keyword (w : String) : Expr :=
  token (· == .word w)

def keywords (ws : List String) : Expr :=
  token fun
    | .word w => ws.contains w
    | _ => false

def symbol (s : String) : Expr :=
  token (· == .symbol s)

def symbols (ss : List String) : Expr :=
  token fun
    | .symbol s => ss.contains s
    | _ => false

def anyWord : Expr := token isWord

def identifier : Expr := token isIdentifier

def variableToken : Expr := token (· == .variableName)

def comma : Expr := symbol ","

def semicolon : Expr := symbol ";"

/-- Between round brackets. -/
def parens (e : Expr) : Expr := all [symbol "(", e, symbol ")"]

/-- Between curly braces. -/
def braces (e : Expr) : Expr := all [symbol "\x7b", e, symbol "\x7d"]

/-- A square bracket, whatever follows the one that closes it. -/
def openBracket : Expr :=
  token fun l => l == .symbol "[" || l == .targetBracket

/-- Between square brackets. -/
def brackets (e : Expr) : Expr := all [openBracket, e, symbol "]"]

/-- A name with a backslash in it. -/
def longName : Expr :=
  choice (leaf "qualified_name" fun l => l == .qualifiedName || l == .rootedName)
    (leaf "relative_name" (· == .relativeName))

/-- A name that may be qualified. -/
def name : Expr := choice (leaf "name" isIdentifier) longName

def names : Expr := sepBy comma name

def expression : Expr := call .expression

def expressions : Expr := sepBy comma expression

/-- An expression between round brackets. -/
def condition : Expr := parens expression

/-- An initial value. -/
def initial : Expr := seq (symbol "=") expression

def statements : Expr := many (call .statement)

end Grammar

end ClassOutline.Php
