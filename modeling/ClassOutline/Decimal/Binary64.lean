/-!
Numbers in double precision, as a sign, a significand below `2 ^ 53` and a power of two that is at least
`-1074`. A significand below `2 ^ 52` occurs with the least exponent only, so each value has one form.
-/
namespace ClassOutline.Decimal

/-- The whole number nearest to `num / den`; a half goes to the even neighbour. -/
def roundHalfEven (num den : Nat) : Nat :=
  let q := num / den
  let twice := 2 * (num % den)
  if twice < den then q
  else if den < twice then q + 1
  else if q % 2 = 0 then q else q + 1

inductive Binary64 where
  | finite (negative : Bool) (significand : Nat) (exponent : Int)
  | infinite (negative : Bool)
  | nan
  deriving DecidableEq, Repr

namespace Binary64

def minExponent : Int := -1074

/-- The greatest exponent of a significand of full width. -/
def maxExponent : Int := 971

/-- Read the 64 bits: a sign, eleven bits of exponent and 52 bits of fraction. -/
def ofBits (bits : Nat) : Binary64 :=
  let negative := bits / Nat.pow 2 63 % 2 == 1
  let exponent : Nat := bits / Nat.pow 2 52 % Nat.pow 2 11
  let fraction := bits % Nat.pow 2 52
  if exponent = 2047 then
    if fraction = 0 then .infinite negative else .nan
  else if exponent = 0 then .finite negative fraction minExponent
  else .finite negative (Nat.pow 2 52 + fraction) ((exponent : Int) - 1075)

/-- The numerator of `n * 2 ^ e` over `scaleDen e`. -/
def scaleNum (n : Nat) (e : Int) : Nat :=
  n * Nat.pow 2 e.toNat

def scaleDen (e : Int) : Nat :=
  Nat.pow 2 (-e).toNat

/-- The exponent at which the significand of `num / den` has 53 bits, or the least exponent. -/
def exponentFor (num den : Nat) : Int :=
  let guess : Int := (num.log2 : Int) - den.log2 - 52
  let e := if num * scaleDen guess < scaleNum den guess * Nat.pow 2 52 then guess - 1 else guess
  max e minExponent

/-- The magnitude nearest to `num / den`, halves to the even significand; `none` when it is too large. -/
def nearest? (num den : Nat) : Option (Nat × Int) :=
  if num = 0 then some (0, minExponent)
  else
    let e := exponentFor num den
    let m := roundHalfEven (num * scaleDen e) (scaleNum den e)
    let (m, e) := if m = Nat.pow 2 53 then (Nat.pow 2 52, e + 1) else (m, e)
    if maxExponent < e then none else some (m, e)

def nearest (negative : Bool) (num den : Nat) : Binary64 :=
  match nearest? num den with
  | some (m, e) => .finite negative m e
  | none => .infinite negative

/-- A finite value rounded to `places` decimal places, halves to even, as the number nearest to that decimal. -/
def roundPlaces (places : Nat) : Binary64 → Binary64
  | .finite negative m e =>
    nearest negative (roundHalfEven (scaleNum m e * Nat.pow 10 places) (scaleDen e)) (Nat.pow 10 places)
  | other => other

end Binary64

end ClassOutline.Decimal
