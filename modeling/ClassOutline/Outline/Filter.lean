import ClassOutline.Syntax.Modifiers

/-!
Which members an outline keeps.
-/
namespace ClassOutline.Outline

open Syntax

/-- Every member, or the public ones that are not abstract. -/
inductive Filter where
  | all
  | publicOnly
  deriving DecidableEq, Repr

namespace Filter

def allows : Filter → Modifiers → Bool
  | all, _ => true
  | publicOnly, m => m.visibility == .isPublic && !m.isAbstract

/-- The written name of a filter. -/
def label : Filter → String
  | all => "ALL"
  | publicOnly => "PUBLIC"

/-- The filter with a written name. -/
def ofLabel? (s : String) : Option Filter :=
  [all, publicOnly].find? fun f => f.label == s

/-- The public filter if asked for. -/
def ofPublic (isPublic : Bool) : Filter :=
  if isPublic then publicOnly else all

end Filter

end ClassOutline.Outline
