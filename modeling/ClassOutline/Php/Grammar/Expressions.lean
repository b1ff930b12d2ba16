import ClassOutline.Php.Grammar.Basic

/-!
Expressions.

They leave only the nodes of the declarations inside them, and operators are taken in a row, without regard to
their strength. What matters is what each operand can be used for. A *place* can be assigned to: a variable, or
what a call, a subscript, a property or a static variable leads to. A *value* whose parts can be taken may begin
such a place: a name, a text, an array, an expression between brackets. All other operands, such as numbers and
closures, end where they end.

Each of the rules after a place or a value goes one step on, so that what an operand has become is known when it
ends, and nothing is read twice.
-/
namespace ClassOutline.Php.Grammar

open Peg

/-! ### Operators -/

def binaryOperators : List String :=
  ["+", "-", "*", "/", "%", "**", ".", "<<", ">>", "<", "<=", ">", ">=", "==", "!=", "===", "!==", "<>", "<=>", "&",
    "^", "|", "&&", "||", "??", "|>"]

def assignmentOperators : List String :=
  ["=", "+=", "-=", "*=", "/=", ".=", "%=", "**=", "&=", "|=", "^=", "<<=", ">>=", "??="]

def castTypes : List String :=
  ["int", "integer", "bool", "boolean", "float", "double", "string", "binary", "array", "object"]

def leadingOperator : Expr :=
  oneOf [symbols ["!", "~", "-", "+", "@"], keyword "clone", parens (keywords castTypes)]

def unary : Expr := seq (many leadingOperator) (call .operand)

/-- An operator and its right operand. -/
def tail : Expr :=
  oneOf [
    seq (choice (symbols binaryOperators) (keywords ["and", "or", "xor"])) (call .unary),
    seq (keyword "instanceof") (call .classReference),
    all [symbol "?", choice (symbol ":") (seq expression (symbol ":")), call .unary]]

/-! ### Steps to the parts of a value -/

def simpleVariable : Expr :=
  choice variableToken
    (seq (symbol "$") (choice (call .simpleVariable) (braces expression)))

/-- The step to a property. -/
def propertyStep : Expr :=
  seq (symbols ["->", "?->"]) (oneOf [anyWord, call .simpleVariable, braces expression])

def subscript : Expr := brackets (opt expression)

def staticVariableStep : Expr := seq (symbol "::") (call .simpleVariable)

/-- A step to a place. -/
def placeStep : Expr :=
  oneOf [call .arguments, subscript, propertyStep, staticVariableStep]

/-- The step to a constant of a class, or to a method if arguments follow; `called` and `plain` are what may come
then. -/
def scopeStep (called plain : Rule) : Expr :=
  all [symbol "::", choice anyWord (braces expression),
    choice (seq (call .arguments) (call called)) (seq (notAhead (symbol "(")) (call plain))]

/-- What makes a place an assignment. -/
def assignment : Expr :=
  choice (all [symbol "=", symbol "&", call .place]) (seq (symbols assignmentOperators) expression)

def steppers : Expr := symbols ["++", "--"]

/-- What may follow a place. -/
def afterPlace : Expr :=
  oneOf [
    seq placeStep (call .afterPlace),
    scopeStep .afterPlace .afterValue,
    assignment,
    steppers,
    empty]

/-- What may follow a value whose parts can be taken. -/
def afterValue : Expr :=
  oneOf [seq placeStep (call .afterPlace), scopeStep .afterPlace .afterValue, empty]

/-- The steps from a place to a place. -/
def placeAfterPlace : Expr :=
  oneOf [seq placeStep (call .placeAfterPlace), scopeStep .placeAfterPlace .placeAfterValue, empty]

/-- The steps from a value to a place. -/
def placeAfterValue : Expr :=
  choice (seq placeStep (call .placeAfterPlace)) (scopeStep .placeAfterPlace .placeAfterValue)

/-- A place and nothing else. -/
def place : Expr :=
  choice (seq (call .simpleVariable) (call .placeAfterPlace)) (seq (call .valueStart) (call .placeAfterValue))

/-! ### Calls -/

def argument : Expr :=
  oneOf [seq (symbol "...") expression, all [anyWord, symbol ":", expression], expression]

def arguments : Expr :=
  choice (parens (symbol "...")) (parens (opt (sepEndBy comma argument)))

/-! ### Arrays and targets -/

def reference : Expr := seq (symbol "&") (call .place)

def element : Expr :=
  oneOf [
    seq (symbol "...") expression,
    reference,
    seq expression (opt (seq (symbol "=>") (choice reference expression)))]

def elements : Expr := opt (sepEndBy comma element)

/-- Places that get the parts of a value, some of them left out; `nested` stands for targets inside. -/
def targets (nested : Rule) (closing : String) : Expr :=
  let target := oneOf [reference, call nested, call .place]
  let item :=
    choice (seq target (ahead (symbols [",", closing]))) (all [expression, symbol "=>", target])
  seq (opt item) (many (seq comma (opt item)))

def arrayTarget : Expr := brackets (targets .arrayTarget "]")

def listTarget : Expr := seq (keyword "list") (parens (targets .listTarget ")"))

/-- The assignment of the parts of a value. -/
def partsAssignment : Expr :=
  seq (choice (seq (ahead (token (· == .targetBracket))) (call .arrayTarget)) (call .listTarget)) initial

/-! ### Objects -/

/-- What names a class where an object is made or tested. -/
def classReference : Expr :=
  let steps := many (oneOf [subscript, propertyStep, staticVariableStep])
  oneOf [
    condition,
    all [choice (silent name) (keyword "static"), opt (seq staticVariableStep steps)],
    seq (call .simpleVariable) steps]

/-- What a class or an interface extends. -/
def extendsClause (parents : Expr) : Expr := node "base_clause" (seq (keyword "extends") parents)

def implementsClause : Expr := node "class_interface_clause" (seq (keyword "implements") names)

def classBody : Expr := field "body" (node "declaration_list" (braces (many (call .member))))

/-- A class after its name or its arguments. -/
def classRest : Expr := all [opt (extendsClause name), opt implementsClause, classBody]

def anonymousClass : Expr :=
  seq (silent (call .attributes)) (node "anonymous_class"
    (all [opt (keyword "readonly"), keyword "class", opt (node "arguments" (call .arguments)), classRest]))

/-- A new object. Steps to its parts may follow only behind arguments or the body of a class. -/
def creation : Expr :=
  seq (keyword "new") (choice
    (seq anonymousClass (call .afterValue))
    (seq (call .classReference) (opt (seq (call .arguments) (call .afterValue)))))

/-! ### Closures -/

/-- The parameters between their brackets. -/
def parameterList : Expr := parens (opt (sepEndBy comma (call .parameter)))

/-- The variables that a closure takes from outside. -/
def captures : Expr :=
  seq (keyword "use") (parens (sepEndBy comma (seq (opt (symbol "&")) variableToken)))

def closureType : Expr := opt (seq (symbol ":") (silent (call .type)))

/-- A closure after its attributes. -/
def closure : Expr :=
  seq (opt (keyword "static")) (choice
    (all [keyword "function", opt (symbol "&"), parameterList, opt captures, closureType, call .block])
    (all [keyword "fn", opt (symbol "&"), parameterList, closureType, symbol "=>", expression]))

/-! ### Operands -/

/-- What a generator hands out: all that another one does, a value that may have a key, or nothing. -/
def yielded : Expr :=
  choice (seq (keyword "from") expression)
    (seq (notAhead (keyword "from")) (opt (seq expression (opt (seq (symbol "=>") expression)))))

def matchArm : Expr :=
  all [choice (seq (keyword "default") (opt comma)) (sepEndBy comma expression), symbol "=>", expression]

def hole (kind : Hole) (e : Expr) : Expr :=
  all [token (· == .hole kind), e, symbol "\x7d"]

/-- A text with code in it. -/
def templateFrom (start : Lexeme) : Expr :=
  all [token (· == start),
    many (oneOf [hole .place (call .place), hole .subscript (brackets expression), hole .expression expression]),
    token (· == .templateEnd)]

/-- The beginning of an operand whose parts can be taken. -/
def valueStart : Expr :=
  oneOf [
    silent name,
    token (· == .text),
    call .template,
    condition,
    all [symbol "[", elements, symbol "]"],
    seq (keyword "array") (parens elements),
    seq (keyword "static") (ahead (symbol "::")),
    seq (keyword "readonly") (ahead (symbol "("))]

def operand : Expr :=
  oneOf [
    seq (call .simpleVariable) (call .afterPlace),
    seq (call .valueStart) (call .afterValue),
    token (· == .number),
    templateFrom .commandStart,
    partsAssignment,
    seq steppers (call .place),
    call .creation,
    all [keyword "match", condition, braces (opt (sepEndBy comma (call .matchArm)))],
    seq (keywords ["print", "throw", "include", "include_once", "require", "require_once"]) expression,
    seq (keyword "yield") yielded,
    seq (call .attributes) (call .closure)]

end ClassOutline.Php.Grammar
