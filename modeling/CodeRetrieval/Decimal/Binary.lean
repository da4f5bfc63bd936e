/-!
# Exact value of a machine number

A finite machine number of 64 bits is a whole number times a power of two. Decimal texts
are made from, and rounded against, this exact value.
-/

namespace CodeRetrieval.Decimal

/-- The magnitude `m * 2 ^ q` of a finite machine number. -/
structure Binary where
  m : Nat
  q : Int
  /-- The gap to the value below is half the gap to the value above. -/
  narrowBelow : Bool
deriving Repr

/-- The magnitude with the given bits, which must be those of a finite number. -/
def Binary.ofBits (bits : UInt64) : Binary :=
  let exponent := ((bits >>> 52) &&& 0x7FF).toNat
  let fraction := (bits &&& 0xFFFFFFFFFFFFF).toNat
  if exponent == 0 then ⟨fraction, -1074, false⟩
  else ⟨0x10000000000000 + fraction, (exponent : Int) - 1075, fraction == 0 &&
    decide (1 < exponent)⟩

def isNegative (x : Float) : Bool :=
  x.toBits >>> 63 == 1

def wholePart (x : Float) : Int :=
  let b := Binary.ofBits x.toBits
  let size := b.m * Nat.pow 2 b.q.toNat / Nat.pow 2 (-b.q).toNat
  let n : Int := size
  if isNegative x then -n else n

/-- The order of `a * 10 ^ i` and `n * 2 ^ j`. -/
def compareScaled (a : Nat) (i : Int) (n : Nat) (j : Int) : Ordering :=
  compare (a * Nat.pow 10 i.toNat * Nat.pow 2 (-j).toNat)
    (n * Nat.pow 2 j.toNat * Nat.pow 10 (-i).toNat)

end CodeRetrieval.Decimal
