/-!
Lengths of the numerals of a PHP source.

A numeral is a whole number in one of four bases, or a decimal number with a fraction or an exponent. Single
underscores may stand between its digits. The longest numeral counts, so that a letter right behind one begins
something else.
-/
namespace ClassOutline.Php.Numeral

/-- The length of digits of which the first one may have an underscore in front. -/
def moreDigits (digit : Char → Bool) : List Char → Nat
  | '_' :: c :: cs => if digit c then moreDigits digit cs + 2 else 0
  | c :: cs => if digit c then moreDigits digit cs + 1 else 0
  | [] => 0

/-- The length of digits with single underscores between them. -/
def digits (digit : Char → Bool) : List Char → Nat
  | [] => 0
  | c :: cs => if digit c then moreDigits digit cs + 1 else 0

/-- The digits of the base that a letter after a zero names. -/
def baseDigit? (letter : Char) : Option (Char → Bool) :=
  match letter.toLower with
  | 'x' => some fun c => c.isDigit || ('a' ≤ c.toLower && c.toLower ≤ 'f')
  | 'o' => some fun c => '0' ≤ c && c ≤ '7'
  | 'b' => some fun c => c == '0' || c == '1'
  | _ => none

/-- The length of a whole number whose base is named. -/
def basedLength? : List Char → Option Nat
  | '0' :: letter :: cs =>
    match baseDigit? letter with
    | none => none
    | some digit =>
      let n := digits digit cs
      if n = 0 then none else some (n + 2)
  | _ => none

/-- The length of a whole number in any base; zero if there is none. -/
def wholeLength (cs : List Char) : Nat :=
  (basedLength? cs).getD (digits Char.isDigit cs)

/-- The length of a fraction with its point; after a whole part it may have no digits. -/
def fractionLength (afterWhole : Bool) : List Char → Nat
  | '.' :: cs =>
    let n := digits Char.isDigit cs
    if afterWhole || n != 0 then n + 1 else 0
  | _ => 0

/-- The length of an exponent with its letter; zero if there is none. -/
def exponentLength : List Char → Nat
  | [] => 0
  | c :: cs =>
    let sign := (cs.takeWhile fun d => d == '+' || d == '-').take 1
    let n := digits Char.isDigit (cs.drop sign.length)
    if (c == 'e' || c == 'E') && n != 0 then 1 + sign.length + n else 0

/-- The length of the numeral in front. There is none if a zero, which names the base eight, comes before a digit
that this base does not have. -/
def length? (cs : List Char) : Option Nat :=
  match basedLength? cs with
  | some n => some n
  | none =>
    let whole := digits Char.isDigit cs
    let mantissa := whole + fractionLength (whole != 0) (cs.drop whole)
    let n := mantissa + exponentLength (cs.drop mantissa)
    let octal := n == whole && cs.head? == some '0'
    if n = 0 || (octal && (cs.take n).any fun c => c == '8' || c == '9') then none else some n

end ClassOutline.Php.Numeral
