import ClassOutline.Php.Grammar.Declarations
import ClassOutline.Php.Grammar.Statements

/-!
The grammar of PHP, as far as it decides where declarations stand and whether a source is well formed.
-/
namespace ClassOutline.Php.Grammar

open Peg

/-- What each rule stands for. -/
def rules : Rule → Expr
  | .statement => statement
  | .block => braces statements
  | .conditional => conditionalBody
  | .switchCase => switchCase
  | .function => function
  | .classLike => classLike
  | .member => member
  | .enumMember => enumMember
  | .hook => hook
  | .modifier => modifier
  | .parameter => parameter
  | .attributes => attributes
  | .type => type isTypeWord
  | .storedType => type isStoredType
  | .expression => seq (call .unary) (many (call .tail))
  | .tail => tail
  | .unary => unary
  | .operand => operand
  | .simpleVariable => simpleVariable
  | .arguments => arguments
  | .place => place
  | .afterPlace => afterPlace
  | .afterValue => afterValue
  | .placeAfterPlace => placeAfterPlace
  | .placeAfterValue => placeAfterValue
  | .valueStart => valueStart
  | .arrayTarget => arrayTarget
  | .listTarget => listTarget
  | .classReference => classReference
  | .creation => creation
  | .closure => closure
  | .matchArm => matchArm
  | .template => templateFrom .templateStart

end ClassOutline.Php.Grammar
