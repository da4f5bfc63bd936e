import CodeRetrieval.Decimal.Binary

/-!
# Shortest decimal text of a machine number

The digits are the fewest that read back to the number, and of those the nearest to it.
They are written positionally from `0.0001` up to sixteen places before the point, and
with an exponent of at least two digits otherwise.
-/

namespace CodeRetrieval.Decimal

/-- The decimal `digits * 10 ^ exponent`. -/
structure Scaled where
  digits : Nat
  exponent : Int
deriving Repr, DecidableEq

/-- The decimal lies among the numbers that round to `x`: between the midpoints to its
neighbours, which count as well when the last bit of `x` is zero. -/
def Binary.readsBack (x : Binary) (d : Scaled) : Bool :=
  let low := if x.narrowBelow then 4 * x.m - 1 else 4 * x.m - 2
  let high := 4 * x.m + 2
  let ends := x.m % 2 == 0
  let atLow := compareScaled d.digits d.exponent low (x.q - 2)
  let atHigh := compareScaled d.digits d.exponent high (x.q - 2)
  (atLow == .gt || (ends && atLow == .eq)) && (atHigh == .lt || (ends && atHigh == .eq))

/-- The whole number of grid steps `10 ^ step` in `x`, rounded down. -/
def Binary.stepsBelow (x : Binary) (step : Int) : Nat :=
  (x.m * Nat.pow 2 x.q.toNat * Nat.pow 10 (-step).toNat) /
    (Nat.pow 2 (-x.q).toNat * Nat.pow 10 step.toNat)

/-- The decimal of the grid `10 ^ step` that reads back to `x` and lies nearest, the
even one of two equally near. -/
def Binary.onGrid? (x : Binary) (step : Int) : Option Scaled :=
  let below := x.stepsBelow step
  let lower : Scaled := ⟨below, step⟩
  let upper : Scaled := ⟨below + 1, step⟩
  match x.readsBack lower, x.readsBack upper with
  | true, false => some lower
  | false, true => some upper
  | false, false => none
  | true, true =>
    match compareScaled (2 * below + 1) step (2 * x.m) x.q with
    | .gt => some lower
    | .lt => some upper
    | .eq => some (if below % 2 == 0 then lower else upper)

/-- The least `k` with `x < 10 ^ k`, counted up from `start`. -/
def Binary.scaleFrom (x : Binary) : Nat → Int → Int
  | 0, k => k
  | n + 1, k => if compareScaled 1 k x.m x.q == .gt then k else x.scaleFrom n (k + 1)

/-- The least `k` with `x < 10 ^ k`, for `x` other than zero. -/
def Binary.scale (x : Binary) : Int :=
  let bits : Int := x.m.log2 + x.q
  x.scaleFrom 8 (Int.fdiv (bits * 30103) 100000 - 2)

def Scaled.strip : Nat → Scaled → Scaled
  | 0, d => d
  | n + 1, d =>
    if d.digits % 10 == 0 && d.digits != 0 then strip n ⟨d.digits / 10, d.exponent + 1⟩
    else d

/-- The shortest decimal that reads back to `x`. -/
def Binary.shortest (x : Binary) : Scaled :=
  let scale := x.scale
  let found := (List.range 17).findSome? fun n : Nat => x.onGrid? (scale - (n + 1))
  (found.getD ⟨x.m * Nat.pow 2 x.q.toNat * Nat.pow 5 (-x.q).toNat, -(-x.q).toNat⟩).strip
    1100

/-- The exponents of the leading digit that are written positionally. -/
def isPositional (leading : Int) : Bool :=
  decide (-4 ≤ leading) && decide (leading < 16)

/-- A decimal other than zero, written out. -/
def Scaled.text (d : Scaled) : String :=
  let ds := Nat.toDigits 10 d.digits
  let count : Int := ds.length
  let leading := d.exponent + count - 1
  if isPositional leading then
    if 0 ≤ d.exponent then String.ofList (ds ++ List.replicate d.exponent.toNat '0') ++ ".0"
    else if 0 ≤ leading then
      let before := (leading + 1).toNat
      String.ofList (ds.take before) ++ "." ++ String.ofList (ds.drop before)
    else "0." ++ String.ofList (List.replicate (-leading - 1).toNat '0' ++ ds)
  else
    let fraction := if ds.length == 1 then [] else '.' :: ds.tail
    let exponent := Nat.toDigits 10 leading.natAbs
    let exponent := if exponent.length < 2 then '0' :: exponent else exponent
    String.ofList (ds.take 1 ++ fraction ++ ['e', if leading < 0 then '-'
      else '+'] ++ exponent)

def shortestText (x : Float) : String :=
  if x.isNaN then "nan"
  else
    let sign := if isNegative x then "-" else ""
    if x.isInf then sign ++ "inf"
    else if x == 0.0 then sign ++ "0.0"
    else sign ++ (Binary.ofBits x.toBits).shortest.text

end CodeRetrieval.Decimal
