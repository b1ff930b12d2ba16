import ClassOutline.Php.Grammar.Expressions

/-!
Declarations, which become concrete nodes, and the types in them.
-/
namespace ClassOutline.Php.Grammar

open Peg

/-! ### Classes and functions -/

/-- The declared name. -/
def declaredName (test : Lexeme → Bool) : Expr := field "name" (leaf "name" test)

def className : Expr := declaredName isIdentifier

def enumBody : Expr := field "body" (node "enum_declaration_list" (braces (many (call .enumMember))))

def classModifiers : Expr := many (keywords ["abstract", "final", "readonly"])

def classLike : Expr :=
  oneOf [
    node "class_declaration" (all [classModifiers, keyword "class", className, classRest]),
    node "interface_declaration" (all [keyword "interface", className, opt (extendsClause names), classBody]),
    node "trait_declaration" (all [keyword "trait", className, classBody]),
    node "enum_declaration"
      (all [keyword "enum", className, opt (seq (symbol ":") (call .type)), opt implementsClause, enumBody])]

def parameters : Expr := field "parameters" (node "formal_parameters" parameterList)

def returnType : Expr := seq (symbol ":") (field "return_type" (call .type))

def callableBody : Expr := field "body" (node "compound_statement" (call .block))

def function : Expr :=
  node "function_definition"
    (all [keyword "function", opt (symbol "&"), declaredName isFunctionName, parameters, opt returnType, callableBody])

/-- Groups of attributes, perhaps none. -/
def attributes : Expr :=
  many (all [symbol "#[", sepEndBy comma (seq (silent name) (opt (call .arguments))), symbol "]"])

/-! ### Members -/

def visibilityWords : List String := ["public", "protected", "private"]

def visibility : Expr :=
  node "visibility_modifier" (seq (keywords visibilityWords) (opt (parens (keyword "set"))))

def readonly : Expr := leaf "readonly_modifier" (· == .word "readonly")

def modifier : Expr :=
  oneOf [
    visibility,
    leaf "static_modifier" (· == .word "static"),
    leaf "abstract_modifier" (· == .word "abstract"),
    leaf "final_modifier" (· == .word "final"),
    readonly,
    leaf "var_modifier" (· == .word "var")]

def method : Expr :=
  node "method_declaration"
    (all [many (call .modifier), keyword "function", opt (symbol "&"), declaredName isWord, parameters,
      opt returnType, choice callableBody semicolon])

def variableField : Expr := field "name" (leaf "variable_name" (· == .variableName))

def propertyElement : Expr := node "property_element" (seq variableField (opt initial))

/-- The hooks of a property. -/
def hooks : Expr := braces (many1 (call .hook))

def property : Expr :=
  node "property_declaration"
    (all [many1 (call .modifier), opt (call .storedType), sepBy comma propertyElement, choice semicolon hooks])

def hook : Expr :=
  all [call .attributes, silent (many (call .modifier)), opt (symbol "&"), identifier, opt parameterList,
    oneOf [all [symbol "=>", expression, semicolon], call .block, semicolon]]

def constant : Expr :=
  all [silent (many (call .modifier)), keyword "const",
    choice (ahead (seq anyWord (symbol "="))) (silent (call .type)), sepBy comma (seq anyWord initial), semicolon]

def enumCase : Expr :=
  all [keyword "case", anyWord, opt initial, semicolon]

/-- A method of a certain trait. -/
def traitMethod : Expr := all [name, symbol "::", anyWord]

/-- The words that say how a member behaves. -/
def modifierWords : List String := visibilityWords ++ ["static", "abstract", "final", "readonly"]

/-- A rule that settles which of several methods of one name is used, or renames one or changes its visibility. -/
def adaptation : Expr :=
  seq (choice
    (all [traitMethod, keyword "insteadof", names])
    (all [choice traitMethod anyWord, keyword "as", choice (seq (keywords modifierWords) (opt anyWord)) anyWord]))
    semicolon

def traitUse : Expr :=
  silent (all [keyword "use", names, choice semicolon (braces (many adaptation))])

/-- A member of a class. The attributes of a constant are searched for declarations, those of other members are
not. -/
def member : Expr :=
  choice traitUse (fork (call .attributes) (choice method property) constant)

/-- A member of an enumeration. -/
def enumMember : Expr :=
  choice traitUse (fork (call .attributes) method (choice enumCase constant))

/-- One parameter; with a visibility it is a property as well. -/
def parameter : Expr :=
  let byReference := opt (symbol "&")
  seq (call .attributes) (oneOf [
    node "property_promotion_parameter"
      (all [many1 visibility, opt readonly, opt (call .storedType), byReference, variableField, opt initial,
        opt hooks]),
    node "variadic_parameter" (all [opt (call .storedType), byReference, symbol "...", variableField]),
    node "simple_parameter" (all [opt (call .storedType), byReference, variableField, opt initial])])

/-! ### Types -/

/-- A type with a name, of which the simple ones are those that pass a test. -/
def namedType (test : Lexeme → Bool) : Expr :=
  node "named_type" (choice (leaf "name" test) longName)

/-- An ampersand between two types, not one that marks a reference. -/
def typeAmpersand : Expr :=
  seq (symbol "&") (notAhead (oneOf [variableToken, symbol "...", symbol "&"]))

/-- A type of which the simple names pass a test. -/
def type (test : Lexeme → Bool) : Expr :=
  let named := namedType test
  let intersection := node "intersection_type" (seq named (many1 (seq typeAmpersand named)))
  let unionMember := choice (parens intersection) named
  oneOf [
    node "optional_type" (all [symbol "?", remark, named]),
    node "union_type" (seq unionMember (many1 (seq (symbol "|") unionMember))),
    intersection,
    named]

end ClassOutline.Php.Grammar
