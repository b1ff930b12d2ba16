import ClassOutline.Decimal.Layout

/-!
The two measures that stand in the lines about a request: memory in megabytes and time in seconds.
-/
namespace ClassOutline.Report

open Decimal

/-- Measures are positional with up to sixteen digits before the point and three zeros after it. -/
def metricLayout : Layout := ⟨3, 16, 2⟩

structure TooLarge where
  deriving DecidableEq, Repr

def TooLarge.message (_ : TooLarge) : String :=
  "integer division result too large for a float"

/-- A number of bytes divided by 1024, in double precision. -/
def kibibytes (n : Int) : Except TooLarge Binary64 :=
  match Binary64.nearest? n.natAbs 1024 with
  | some (m, e) => .ok (.finite (n < 0) m e)
  | none => .error ⟨⟩

/-- A number divided by 1024; only the exponent changes, for no measure is near the least exponent. -/
def perKibi : Binary64 → Binary64
  | .finite negative m e => Binary64.nearest negative (Binary64.scaleNum m e) (Binary64.scaleDen e * 1024)
  | other => other

def megabytes (n : Int) : Except TooLarge String := do
  let value := (perKibi (← kibibytes n)).roundPlaces 2
  return String.ofList (metricLayout.binary64 value ++ ['M', 'B'])

def seconds (x : Binary64) : String :=
  String.ofList (metricLayout.binary64 (x.roundPlaces 3) ++ ['s'])

def wholeSeconds (n : Int) : String :=
  toString n ++ "s"

end ClassOutline.Report
