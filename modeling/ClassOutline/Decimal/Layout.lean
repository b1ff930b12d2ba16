import ClassOutline.Decimal.Shortest

/-!
The text of a number: positional while the decimal point stands near the digits, else with an exponent.
-/
namespace ClassOutline.Decimal

structure Layout where
  /-- The point may stand this many places before the first digit, and no more. -/
  leadingZeros : Nat
  /-- The point may stand this many places after the first digit's left side, and no more. -/
  wholeDigits : Nat
  /-- The least number of digits of an exponent. -/
  exponentWidth : Nat

def padZeros (width : Nat) (cs : List Char) : List Char :=
  List.replicate (width - cs.length) '0' ++ cs

def dropTrailingZeros (cs : List Char) : List Char :=
  match (cs.reverse.dropWhile (· == '0')).reverse with
  | [] => ['0']
  | kept => kept

/-- The significant digits and the place of the point, counted from the left of the first digit. -/
def ShortDecimal.significant (d : ShortDecimal) : List Char × Int :=
  let cs := Nat.toDigits 10 d.digits
  (dropTrailingZeros cs, d.scale + cs.length)

/-- Digits with the point at a place inside, before or after them; a digit stands on both sides of it. -/
def positional (cs : List Char) (point : Int) : List Char :=
  if point ≤ 0 then '0' :: '.' :: List.replicate (-point).toNat '0' ++ cs
  else if cs.length ≤ point.toNat then cs ++ List.replicate (point.toNat - cs.length) '0' ++ ['.', '0']
  else cs.take point.toNat ++ '.' :: cs.drop point.toNat

/-- One digit, the point and the other digits if there are any, and the exponent with its sign. -/
def scientific (layout : Layout) (cs : List Char) (point : Int) : List Char :=
  let exponent := point - 1
  let fraction := match cs.drop 1 with
    | [] => []
    | rest => '.' :: rest
  let sign := if exponent < 0 then '-' else '+'
  cs.take 1 ++ fraction ++ 'e' :: sign :: padZeros layout.exponentWidth (Nat.toDigits 10 exponent.natAbs)

def Layout.decimal (layout : Layout) (d : ShortDecimal) : List Char :=
  let (cs, point) := d.significant
  if -(layout.leadingZeros : Int) ≤ point ∧ point ≤ layout.wholeDigits then positional cs point
  else scientific layout cs point

def Layout.binary64 (layout : Layout) : Binary64 → List Char
  | .nan => ['n', 'a', 'n']
  | .infinite negative => (if negative then ['-'] else []) ++ ['i', 'n', 'f']
  | .finite negative m e =>
    (if negative then ['-'] else []) ++
      (if m = 0 then ['0', '.', '0'] else layout.decimal (Binary64.shortest m e))

end ClassOutline.Decimal
