import CodeRetrieval.Decimal.Binary
import CodeRetrieval.Decimal.Rounding

/-!
# Decimals with a set number of places

The exact value of a machine number is rounded to the given number of places, a half
going to the even neighbour. What rounds to zero is written without a sign.
-/

namespace CodeRetrieval.Decimal

/-- The whole number of units `10 ^ (-places)` nearest to `x`. -/
def Binary.units (x : Binary) (places : Nat) : Nat :=
  roundedQuotient (x.m * Nat.pow 2 x.q.toNat * Nat.pow 10 places) (Nat.pow 2 (-x.q).toNat)

def pointed (units places : Nat) : List Char :=
  let ds := Nat.toDigits 10 units
  let ds := List.replicate (places + 1 - ds.length) '0' ++ ds
  let whole := ds.length - places
  ds.take whole ++ '.' :: ds.drop whole

/-- The whole number nearest to a finite machine number, a half going to the even
neighbour. -/
def nearestInt (x : Float) : Int :=
  let n : Int := (Binary.ofBits x.toBits).units 0
  if isNegative x then -n else n

/-- A machine number with `places` digits behind the point. -/
def fixedText (places : Nat) (x : Float) : String :=
  if x.isNaN then "nan"
  else if x.isInf then (if x < 0 then "-inf" else "inf")
  else
    let units := (Binary.ofBits x.toBits).units places
    String.ofList ((if isNegative x && units != 0 then ['-'] else []) ++
      pointed units places)

end CodeRetrieval.Decimal
