/-!
# Binary floating-point numbers

A number of double precision, without its sign, is `m · 2 ^ q` with a
significand `m` below `2 ^ 53` and an exponent `q` from -1074 to 971. A
product or a quotient of two such numbers is in general no such number, and
the nearest one is taken, of two equally near the one with the even
significand. Everything here is done with natural numbers and is exact up to
that one rounding.
-/

namespace WidgetMarkup.Decimal

/-- **A number of double precision**, without its sign. -/
structure Binary where
  /-- The significand, below `2 ^ 53`. It is at least `2 ^ 52` unless the
  exponent is the least one. -/
  significand : Nat
  /-- The power of two that the significand is multiplied by. -/
  exponent : Int
deriving DecidableEq, Repr

namespace Binary

/-- Zero. -/
def zero : Binary := ⟨0, -1074⟩

/-- The quotient rounded to the nearest natural number, a half going to the
even neighbour. -/
def roundDiv (num den : Nat) : Nat :=
  let quotient := num / den
  let twice := 2 * (num % den)
  if twice < den then quotient
  else if den < twice then quotient + 1
  else quotient + quotient % 2

/-- The numerator and the denominator of `num / den · 2 ^ (-q)`. -/
def scale (num den : Nat) (q : Int) : Nat × Nat :=
  if 0 ≤ q then (num, den * Nat.pow 2 q.toNat) else (num * Nat.pow 2 (-q).toNat, den)

/-- **The number nearest to a quotient**, or nothing where that lies beyond
the largest number. -/
def ofQuotient? (num den : Nat) : Option Binary :=
  if num = 0 then some zero
  else
    let low := max ((num.log2 : Int) - den.log2 - 53) (-1074)
    let (n, d) := scale num den low
    let q := if n / d < Nat.pow 2 53 then low else low + 1
    let (n, d) := scale num den q
    let m := roundDiv n d
    let (m, q) := if m = Nat.pow 2 53 then (Nat.pow 2 52, q + 1) else (m, q)
    if q ≤ 971 then some ⟨m, q⟩ else none

/-- The numerator and the denominator of the number. -/
def toQuotient (b : Binary) : Nat × Nat :=
  if 0 ≤ b.exponent then (b.significand * Nat.pow 2 b.exponent.toNat, 1)
  else (b.significand, Nat.pow 2 (-b.exponent).toNat)

/-- The number nearest to a natural number below `2 ^ 64`. -/
def ofNat (n : Nat) : Binary :=
  (ofQuotient? n 1).getD zero

/-- The number nearest to a power of ten, up to the 308th. -/
def powerOfTen (k : Nat) : Binary :=
  ofNat (Nat.pow 10 k)

/-- The product, unless it is too large. -/
def mul? (a b : Binary) : Option Binary :=
  let (n, d) := a.toQuotient
  let (n', d') := b.toQuotient
  ofQuotient? (n * n') (d * d')

/-- The quotient by a number that is not zero. -/
def div (a b : Binary) : Binary :=
  let (n, d) := a.toQuotient
  let (n', d') := b.toQuotient
  (ofQuotient? (n * d') (d * n')).getD zero

/-- Divides by `10 ^ k`, in steps of at most 308 places. Rounding happens at
each step, and once nothing is left no further step is made. -/
def divPowerOfTen (b : Binary) (k : Nat) : Binary :=
  if k ≤ 308 then b.div (powerOfTen k)
  else if b.significand = 0 then b
  else (b.div (powerOfTen 308)).divPowerOfTen (k - 308)
termination_by k

/-- **The number written as digits and a power of ten**: the digits are
rounded first, and then the product or quotient with the power. Nothing is
the answer where the number is too large. -/
def ofScientific? (digits : Nat) (exponent : Int) : Option Binary :=
  let b := ofNat digits
  if exponent < 0 then some (b.divPowerOfTen (-exponent).toNat)
  else if exponent ≤ 308 then b.mul? (powerOfTen exponent.toNat)
  else if digits = 0 then some zero
  else none

/-- One tenth, the least number, and the largest. -/
example : ofScientific? 1 (-1) = some ⟨0x1999999999999A, -56⟩
    ∧ ofScientific? 5 (-324) = some ⟨1, -1074⟩
    ∧ ofScientific? 17976931348623157 292 = some ⟨0x1FFFFFFFFFFFFF, 971⟩
    ∧ ofScientific? 2 308 = none := by
  decide +kernel

end Binary

end WidgetMarkup.Decimal
