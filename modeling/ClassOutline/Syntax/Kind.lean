/-!
The kinds of nodes in a syntax tree.
-/
namespace ClassOutline.Syntax

/-- What a node stands for. `other` is any construct that an outline never looks into. -/
inductive Kind where
  | classDecl
  | name
  | nameList
  | stmtList
  | propGroup
  | propDecl
  | propElem
  | method
  | funcDecl
  | paramList
  | param
  | type
  | nullableType
  | unionType
  | intersectionType
  | other
  deriving DecidableEq, Repr

namespace Kind

def all : List Kind :=
  [classDecl, name, nameList, stmtList, propGroup, propDecl, propElem, method, funcDecl, paramList, param,
    type, nullableType, unionType, intersectionType, other]

def label : Kind → String
  | classDecl => "AST_CLASS"
  | name => "AST_NAME"
  | nameList => "AST_NAME_LIST"
  | stmtList => "AST_STMT_LIST"
  | propGroup => "AST_PROP_GROUP"
  | propDecl => "AST_PROP_DECL"
  | propElem => "AST_PROP_ELEM"
  | method => "AST_METHOD"
  | funcDecl => "AST_FUNC_DECL"
  | paramList => "AST_PARAM_LIST"
  | param => "AST_PARAM"
  | type => "AST_TYPE"
  | nullableType => "AST_NULLABLE_TYPE"
  | unionType => "AST_TYPE_UNION"
  | intersectionType => "AST_TYPE_INTERSECTION"
  | other => "AST_OTHER"

def ofLabel? (s : String) : Option Kind :=
  all.find? fun k => k.label == s

end Kind

end ClassOutline.Syntax
