import ClassOutline.Text.Basic
import ClassOutline.Text.Quoted

/-!
Integers as settings write them: blanks around, perhaps a sign, and decimal digits of any script with single
underscores between them.
-/
namespace ClassOutline.Config

inductive IntegerFault where
  | malformed (text : String)
  | tooManyDigits (count : Nat)
  deriving DecidableEq, Repr

def maxDigits : Nat := 4300

/-- How many characters of a malformed text, in its quotes, a message shows. -/
def maxShownText : Nat := 200

def IntegerFault.message : IntegerFault → String
  | malformed text =>
    "invalid literal for int() with base 10: " ++ String.ofList ((Text.quoted text).toList.take maxShownText)
  | tooManyDigits count =>
    s!"Exceeds the limit ({maxDigits} digits) for integer string conversion: value has {count} digits; " ++
      "use sys.set_int_max_str_digits() to increase the limit"

/-- Blanks that may stand around an integer: all but the four separators U+001C to U+001F. -/
def isIntegerBlank (c : Char) : Bool :=
  Text.isBlank c && !(0x1C ≤ c.toNat && c.toNat ≤ 0x1F)

def isIntegerBody (c : Char) : Bool :=
  c == '_' || (Text.digitValue? c).isSome

def digitsValue (cs : List Char) : Nat :=
  (cs.filterMap Text.digitValue?).foldl (fun n d => 10 * n + d) 0

def splitSign : List Char → Bool × List Char
  | '-' :: cs => (true, cs)
  | '+' :: cs => (false, cs)
  | cs => (false, cs)

/-- Between the underscores of a body there is always a digit. -/
def underscoresSeparate (body : List Char) : Bool :=
  (Text.splitOn '_' body).all fun group => !group.isEmpty

def integer (text : String) : Except IntegerFault Int :=
  let signed := splitSign (text.toList.dropWhile isIntegerBlank)
  let body := signed.2.takeWhile isIntegerBody
  let digits := (body.filterMap Text.digitValue?).length
  if !underscoresSeparate body then .error (.malformed text)
  else if maxDigits < digits then .error (.tooManyDigits digits)
  else if !(signed.2.dropWhile isIntegerBody).all isIntegerBlank then .error (.malformed text)
  else .ok (if signed.1 then -(digitsValue body : Int) else digitsValue body)

end ClassOutline.Config
