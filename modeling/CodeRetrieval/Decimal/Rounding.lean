/-!
# Rounded quotients

A quotient of whole numbers is rounded to the nearest whole number, a half going to the
even neighbour.
-/

namespace CodeRetrieval.Decimal

/-- The quotient rounded to the nearest whole number, a half going to the even neighbour. -/
def roundedQuotient (num den : Nat) : Nat :=
  let q := num / den
  match compare (2 * (num % den)) den with
  | .lt => q
  | .gt => q + 1
  | .eq => if q % 2 == 0 then q else q + 1

end CodeRetrieval.Decimal
