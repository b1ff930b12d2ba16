import ClassOutline.Decimal.Binary64

/-!
The shortest decimal that reads back as a given number.

The reals that read back as `m * 2 ^ e` are those within half a unit of the last bit (a quarter below a
power of two), ends included when `m` is even. On the grid of `n` significant digits only the two
neighbours of the value have to be tried; the first `n` with a neighbour inside wins, and of two the nearer.
-/
namespace ClassOutline.Decimal

/-- The decimal `digits * 10 ^ scale`. -/
structure ShortDecimal where
  digits : Nat
  scale : Int
  deriving DecidableEq, Repr

def decimalLength (n : Nat) : Nat :=
  (Nat.toDigits 10 n).length

/-- The `k` with `10 ^ (k - 1) ≤ num / den < 10 ^ k`, for a positive quotient. -/
def decimalPoint (num den : Nat) : Int :=
  if den ≤ num then decimalLength (num / den) else 1 - decimalLength ((den - 1) / num)

namespace Binary64

def readsBack (m : Nat) (e : Int) (num den : Nat) : Bool :=
  -- the two ends are counted in quarters of a unit of the last bit
  let below := if m = Nat.pow 2 52 ∧ minExponent < e then 1 else 2
  let low := scaleNum (4 * m - below) e * den
  let high := scaleNum (4 * m + 2) e * den
  let value := num * (4 * scaleDen e)
  if m % 2 = 0 then low ≤ value && value ≤ high else low < value && value < high

/-- The decimal of `n` digits nearest to `m * 2 ^ e` among those that read back. -/
def withDigits? (m : Nat) (e : Int) (n : Nat) : Option ShortDecimal :=
  let num := scaleNum m e
  let den := scaleDen e
  let scale := decimalPoint num den - n
  let gridNum := num * Nat.pow 10 (-scale).toNat
  let gridDen := den * Nat.pow 10 scale.toNat
  let low := gridNum / gridDen
  let fits (digits : Nat) := readsBack m e (digits * Nat.pow 10 scale.toNat) (Nat.pow 10 (-scale).toNat)
  match fits low, fits (low + 1) with
  | true, true => some ⟨roundHalfEven gridNum gridDen, scale⟩
  | true, false => some ⟨low, scale⟩
  | false, true => some ⟨low + 1, scale⟩
  | false, false => none

/-- The shortest decimal that reads back as a positive `m * 2 ^ e`; seventeen digits always do. -/
def shortest (m : Nat) (e : Int) : ShortDecimal :=
  ((List.range' 1 17).findSome? (withDigits? m e)).getD ⟨scaleNum m e / scaleDen e, 0⟩

end Binary64

end ClassOutline.Decimal
