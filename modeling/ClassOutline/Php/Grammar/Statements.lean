import ClassOutline.Php.Grammar.Expressions

/-!
Statements, which leave only the nodes of the declarations inside them.
-/
namespace ClassOutline.Php.Grammar

open Peg

/-- A statement, or statements between a colon and a closing keyword. -/
def blockOrUntil (closing : String) : Expr :=
  choice (all [symbol ":", statements, keyword closing, semicolon]) (call .statement)

/-- The parts of a conditional after its condition, with colons or without them. An `else` before a colon never
belongs to a conditional without colons. -/
def conditionalBody : Expr :=
  choice
    (all [symbol ":", statements, many (all [keyword "elseif", condition, symbol ":", statements]),
      opt (all [keyword "else", symbol ":", statements]), keyword "endif", semicolon])
    (all [call .statement, many (all [keyword "elseif", condition, call .statement]),
      opt (all [keyword "else", notAhead (symbol ":"), call .statement])])

/-- What a loop binds in each round besides a plain place. -/
def loopTargets : Expr :=
  oneOf [reference, call .arrayTarget, call .listTarget]

/-- What a loop binds in each round; only a plain place may get the key. -/
def loopBinding : Expr :=
  choice loopTargets (seq (call .place) (opt (seq (symbol "=>") (choice loopTargets (call .place)))))

def switchBody : Expr := seq (opt semicolon) (many (call .switchCase))

def switchCase : Expr :=
  all [choice (seq (keyword "case") expression) (keyword "default"), symbols [":", ";"], statements]

def catchClause : Expr :=
  all [keyword "catch", parens (seq (silent (sepBy (symbol "|") name)) (opt variableToken)), call .block]

def finallyClause : Expr := seq (keyword "finally") (call .block)

def constantItem : Expr := seq identifier initial

def staticItem : Expr := seq variableToken (opt initial)

def simpleStatement : Expr :=
  oneOf [
    semicolon,
    call .block,
    all [keyword "if", condition, call .conditional],
    all [keyword "while", condition, blockOrUntil "endwhile"],
    all [keyword "do", call .statement, keyword "while", condition, semicolon],
    all [keyword "for",
      parens (all [opt expressions, semicolon, opt expressions, semicolon, opt expressions]), blockOrUntil "endfor"],
    all [keyword "foreach",
      parens (all [expression, keyword "as", loopBinding]), blockOrUntil "endforeach"],
    all [keyword "switch", condition,
      choice (braces switchBody) (all [symbol ":", switchBody, keyword "endswitch", semicolon])],
    all [keyword "try", call .block, choice (seq (many1 catchClause) (opt finallyClause)) finallyClause],
    all [keyword "declare", parens (sepBy comma constantItem), blockOrUntil "enddeclare"],
    all [keywords ["return", "break", "continue"], opt expression, semicolon],
    all [keyword "echo", expressions, semicolon],
    all [keyword "global", sepBy comma (call .simpleVariable), semicolon],
    all [keyword "unset", parens (sepEndBy comma (call .place)), semicolon],
    all [keyword "static", sepBy comma staticItem, semicolon],
    all [keyword "goto", identifier, semicolon]]

/-! ### Names -/

/-- A name below those of a group. -/
def innerName : Expr := token fun l => isIdentifier l || l == .qualifiedName

/-- A name as an import gives it. -/
def importedName : Expr := choice innerName (token (· == .rootedName))

def importKind : Expr := keywords ["function", "const"]

def importAlias : Expr := opt (seq (keyword "as") identifier)

/-- Several imported names of one namespace. -/
def importGroup (item : Expr) : Expr :=
  all [importedName, symbol "\\", braces (sepEndBy comma item)]

/-- What an import names: one group, or names between commas. -/
def imports : Expr :=
  let innerItem := seq innerName importAlias
  oneOf [
    seq importKind (importGroup innerItem),
    importGroup (seq (opt importKind) innerItem),
    seq (opt importKind) (sepBy comma (seq importedName importAlias))]

/-- The name of a namespace, which may be a reserved word. -/
def namespaceName : Expr := token fun l => isWord l || l == .qualifiedName

/-- Statements that concern names. -/
def nameStatement : Expr :=
  oneOf [
    seq (keyword "namespace") (choice (seq namespaceName (choice semicolon (call .block))) (call .block)),
    all [keyword "use", imports, semicolon],
    all [keyword "const", sepBy comma constantItem, semicolon]]

/-- A statement that may begin with attributes: the declaration of a function or a class, or a closure that begins
an expression. -/
def attributedStatement : Expr :=
  fork (call .attributes) (choice (call .function) (call .classLike))
    (all [call .closure, many (call .tail), semicolon])

def statement : Expr :=
  oneOf [
    simpleStatement,
    nameStatement,
    attributedStatement,
    seq identifier (symbol ":"),
    all [notAhead (symbol "#["), expression, semicolon]]

end ClassOutline.Php.Grammar
