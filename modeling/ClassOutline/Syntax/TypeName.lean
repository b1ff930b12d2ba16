/-!
The built-in types and their numbers.
-/
namespace ClassOutline.Syntax

/-- A type that is a keyword of the language. -/
inductive TypeKeyword where
  | null
  | false
  | true
  | bool
  | int
  | float
  | string
  | array
  | object
  | callable
  | iterable
  | void
  | static
  | mixed
  | never
  deriving DecidableEq, Repr

namespace TypeKeyword

def all : List TypeKeyword :=
  [null, .false, .true, bool, int, float, string, array, object, callable, iterable, void, static, mixed, never]

def flag : TypeKeyword → Nat
  | null => 1
  | .false => 2
  | .true => 3
  | int => 4
  | float => 5
  | string => 6
  | array => 7
  | object => 8
  | callable => 12
  | iterable => 13
  | void => 14
  | static => 15
  | mixed => 16
  | never => 17
  | bool => 18

def keyword : TypeKeyword → String
  | null => "null"
  | .false => "false"
  | .true => "true"
  | bool => "bool"
  | int => "int"
  | float => "float"
  | string => "string"
  | array => "array"
  | object => "object"
  | callable => "callable"
  | iterable => "iterable"
  | void => "void"
  | static => "static"
  | mixed => "mixed"
  | never => "never"

/-- Three keywords have no name in an outline. -/
def isNamed : TypeKeyword → Bool
  | .true => Bool.false
  | static => Bool.false
  | never => Bool.false
  | _ => Bool.true

def ofKeyword? (s : String) : Option TypeKeyword :=
  all.find? fun t => t.keyword == s

def ofFlag? (flag : Int) : Option TypeKeyword :=
  all.find? fun t => (t.flag : Int) == flag

end TypeKeyword

/-- What stands for a type that cannot be named. -/
def unknownType : String := "unknown"

/-- The name of the type with a number. -/
def flagName (flag : Int) : String :=
  match TypeKeyword.ofFlag? flag with
  | some t => if t.isNamed then t.keyword else unknownType
  | none => unknownType

end ClassOutline.Syntax
