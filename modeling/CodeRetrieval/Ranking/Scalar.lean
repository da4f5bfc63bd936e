import CodeRetrieval.Decimal.Reading

/-!
# Numbers of scores

Scores are computed with machine numbers, and what is said about them is said of exact
numbers. The definitions of this library ask only for the operations of a scalar, so
that both read the same formulas.
-/

namespace CodeRetrieval

/-- Numbers that scores are computed with. -/
class Scalar (R : Type) extends Zero R, Add R, Sub R, Mul R, Div R where
  ofInt : Int → R
  sqrt : R → R
  log : R → R
  /-- The first number is at most the second. Nothing compares with what is no number. -/
  le : R → R → Bool

namespace Scalar

variable {R : Type} [Scalar R]

def lt (a b : R) : Bool :=
  le a b && !le b a

def isZero (a : R) : Bool :=
  le a 0 && le 0 a

def ratio (num den : Int) : R :=
  ofInt num / ofInt den

def ofNat (n : Nat) : R :=
  ofInt n

def sum (xs : List R) : R :=
  xs.foldl (· + ·) 0

end Scalar

instance : Scalar Float where
  ofInt n := Decimal.toFloat (decide (n < 0)) n.natAbs 0
  sqrt := Float.sqrt
  log := Float.log
  le a b := decide (a ≤ b)
  zero := 0.0

instance : Scalar Float32 where
  ofInt n := (Decimal.toFloat (decide (n < 0)) n.natAbs 0).toFloat32
  sqrt := Float32.sqrt
  log := Float32.log
  le a b := decide (a ≤ b)
  zero := 0.0

/-- Numbers of one kind kept as numbers of another kind, possibly rounded. -/
class Storage (S R : Type) where
  store : R → S
  load : S → R

instance : Storage Float32 Float where
  store := Float.toFloat32
  load := Float32.toFloat

end CodeRetrieval
