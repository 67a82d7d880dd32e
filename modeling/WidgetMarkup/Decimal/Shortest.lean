import WidgetMarkup.Decimal.Binary

/-!
# The shortest decimal that reads back

Of all decimals that are nearer to a given binary number than to any other –
or half way, where rounding comes back to it – one with the fewest digits is
taken, and among those the nearest. It is found on the decimal grids, coarse
to fine: on each grid only the two neighbours of the number can be the
answer, and seventeen digits always suffice.

`Scientific.render` writes it down: in positional notation as long as that
takes no more than sixteen places before the point and no more than four
zeros after it, and with a signed power of ten otherwise. A point always has
a digit on both sides.
-/

namespace WidgetMarkup.Decimal

/-- Digits and the power of ten that they are multiplied by. -/
structure Scientific where
  /-- The digits, as a natural number. -/
  digits : Nat
  /-- The power of ten. -/
  exponent : Int
deriving DecidableEq, Repr

namespace Scientific

/-- The numerator and the denominator of the decimal. -/
def toQuotient (s : Scientific) : Nat × Nat :=
  if 0 ≤ s.exponent then (s.digits * Nat.pow 10 s.exponent.toNat, 1)
  else (s.digits, Nat.pow 10 (-s.exponent).toNat)

/-- The same decimal without zeros at the end of its digits. Seventeen
rounds take off every zero that a shortest decimal can have. -/
def dropZeros : Nat → Scientific → Scientific
  | 0, s => s
  | n + 1, s =>
    if s.digits ≠ 0 ∧ s.digits % 10 = 0 then dropZeros n ⟨s.digits / 10, s.exponent + 1⟩
    else s

end Scientific

/-- Does the decimal read back as the number? The bounds are half way to the
neighbours, and belong to the number if its significand is even. -/
def readsBack (b : Binary) (s : Scientific) : Bool :=
  let (n, d) := s.toQuotient
  -- the number and its bounds in quarters of its unit in the last place
  let value := 4 * b.significand
  let below := if b.significand = Nat.pow 2 52 ∧ -1074 < b.exponent then value - 1 else value - 2
  let above := value + 2
  let (un, ud) := Binary.toQuotient ⟨1, b.exponent⟩
  -- `n / d` compared with `k / 4` units
  let left := 4 * n * ud
  let unit := d * un
  if b.significand % 2 = 0 then below * unit ≤ left && left ≤ above * unit
  else below * unit < left && left < above * unit

/-- The distance between the decimal and the number, as a multiple of a unit
that depends on the number and on the power of ten alone. -/
def distance (b : Binary) (s : Scientific) : Nat :=
  let (n, d) := s.toQuotient
  let (bn, bd) := b.toQuotient
  let x := n * bd
  let y := bn * d
  max x y - min x y

/-- The better of the two neighbours on one decimal grid, if any of them
reads back: the nearer one, and of two equally near ones the even one. -/
def onGrid? (b : Binary) (exponent : Int) : Option Scientific :=
  let (bn, bd) := b.toQuotient
  let floor :=
    if 0 ≤ exponent then bn / (bd * Nat.pow 10 exponent.toNat)
    else bn * Nat.pow 10 (-exponent).toNat / bd
  let low : Scientific := ⟨floor, exponent⟩
  let high : Scientific := ⟨floor + 1, exponent⟩
  match readsBack b low, readsBack b high with
  | false, false => none
  | true, false => some low
  | false, true => some high
  | true, true =>
    let l := distance b low
    let h := distance b high
    if l < h then some low
    else if h < l then some high
    else if floor % 2 = 0 then some low
    else some high

/-- The power of ten of the leading digit of a number that is not zero. -/
def leadingPower (b : Binary) : Int :=
  let (n, d) := b.toQuotient
  if d ≤ n then ((toString (n / d)).length : Int) - 1
  else
    let places := (toString (d / n)).length
    if n * Nat.pow 10 (places - 1) < d then -(places : Int) else -(places : Int) + 1

/-- Looks on the grids of the given exponent and of the `n` below it, and
takes the first answer. -/
def firstOnGrids? (b : Binary) : Nat → Int → Option Scientific
  | 0, _ => none
  | n + 1, exponent => (onGrid? b exponent).or (firstOnGrids? b n (exponent - 1))

/-- **The shortest decimal that reads back** as the number. -/
def shortest (b : Binary) : Scientific :=
  if b.significand = 0 then ⟨0, 0⟩
  else ((firstOnGrids? b 18 (leadingPower b)).getD ⟨0, 0⟩).dropZeros 18

/-- Zeros to fill up a row of digits. -/
def zeros (n : Nat) : String :=
  String.ofList (List.replicate n '0')

/-- A power of ten as it is written behind the digits, always with its
sign. -/
def powerText (exponent : Int) : String :=
  "e" ++ (if 0 ≤ exponent then "+" else "") ++ toString exponent

/-- **The text of a decimal.** -/
def Scientific.render (s : Scientific) : String :=
  let digits := toString s.digits
  let length : Int := digits.length
  let point := length + s.exponent
  if s.digits = 0 then "0.0"
  else if 0 ≤ s.exponent ∧ point ≤ 16 then digits ++ zeros s.exponent.toNat ++ ".0"
  else if 0 < point ∧ point ≤ 16 then
    String.ofList (digits.toList.take point.toNat) ++ "."
      ++ String.ofList (digits.toList.drop point.toNat)
  else if -5 < point ∧ point ≤ 0 then "0." ++ zeros (-point).toNat ++ digits
  else if length = 1 then digits ++ powerText (point - 1)
  else
    String.ofList (digits.toList.take 1) ++ "." ++ String.ofList (digits.toList.drop 1)
      ++ powerText (point - 1)

/-- The text of a number of double precision with the given sign. -/
def render (negative : Bool) (b : Binary) : String :=
  (if negative then "-" else "") ++ (shortest b).render

/-- Where positional notation ends on either side, and a tie that goes to the
even digit. -/
example : ([(9999999999999998, 0), (1, 16), (25, 16), (1, -5), (1, -6),
    (12345678901234567, -1)].map fun (digits, exponent) =>
      (Binary.ofScientific? digits exponent).map (render false))
    = ["9999999999999998.0", "1e+16", "2.5e+17", "0.00001", "1e-6",
      "1234567890123456.8"].map some := by
  decide +kernel

end WidgetMarkup.Decimal
