import WidgetMarkup.Decimal.Shortest
import WidgetMarkup.Json.Cursor

/-!
# Numbers

A number is never wanted in a configuration, and so it is read for one of
two reasons only: to say what was found in the place of something else, or
to go past it under an unknown key. In the first case its value matters.
Whole numbers are shown in full as long as they fit 64 bits, with the sign
counted in, and everything else is a number of double precision.

Digits are collected as long as they fit 64 bits. Those before the point
that do not fit count as a power of ten, and those after it do not count.
-/

namespace WidgetMarkup.Json

/-- Collects digits behind those collected so far, as long as the number
stays below the bound, and gives the digits that are left. -/
def collect (bound value : Nat) : List Char → Nat × List Char
  | [] => (value, [])
  | c :: rest =>
    let next := value * 10 + (c.toNat - '0'.toNat)
    if next < bound then collect bound next rest else (value, c :: rest)

/-- The value of a number that is not whole. -/
def decimalFound (negative : Bool) (digits : Nat) (exponent : Int) : Reader Found :=
  match Decimal.Binary.ofScientific? digits exponent with
  | some b => return .decimal (Decimal.render negative b)
  | none => failHere .numberOutOfRange

/-- Takes the sign of a power of ten, and tells whether it is negative. -/
def takeExponentSign : Reader Bool := do
  match ← peek with
  | some '+' =>
    take 1
    return false
  | some '-' =>
    take 1
    return true
  | _ => return false

/-- Takes the power of ten, behind its letter, and completes the number. -/
def takeExponent (negative : Bool) (digits : Nat) (start : Int) : Reader Found := do
  take 1
  let down ← takeExponentSign
  match ← peek with
  | none => failHere .endInValue
  | some c =>
    if !c.isDigit then failAhead .invalidNumber
    else
      let before ← get
      let row ← takeWhile Char.isDigit
      match collect (Nat.pow 2 31) 0 row with
      | (power, []) =>
        decimalFound negative digits (if down then start - power else start + power)
      | (_, _ :: left) =>
        if digits ≠ 0 ∧ !down then
          set (before.skip (row.length - left.length))
          failHere .numberOutOfRange
        else return .decimal (Decimal.render negative Decimal.Binary.zero)

/-- Takes the power of ten if there is one, and completes the number. -/
def takeOptionalExponent (negative : Bool) (digits : Nat) (start : Int) : Reader Found := do
  match ← peek with
  | some 'e' | some 'E' => takeExponent negative digits start
  | _ => decimalFound negative digits start

/-- Takes the places behind the point, and completes the number. -/
def takeFraction (negative : Bool) (digits : Nat) (start : Int) : Reader Found := do
  take 1
  let row ← takeWhile Char.isDigit
  match row with
  | [] =>
    match ← peek with
    | none => failHere .endInValue
    | some _ => failAhead .invalidNumber
  | _ :: _ =>
    let (digits, left) := collect (Nat.pow 2 64) digits row
    takeOptionalExponent negative digits (start - (row.length - left.length : Nat))

/-- A whole number, unless it does not fit 64 bits or is minus zero. -/
def wholeFound (negative : Bool) (digits : Nat) : Reader Found :=
  if !negative then return .integer digits
  else if 0 < digits ∧ digits ≤ Nat.pow 2 63 then return .integer (-(digits : Int))
  else return .decimal (Decimal.render true (Decimal.Binary.ofNat digits))

/-- Completes a number behind its whole digits, of which those that are left
did not fit. -/
def completeNumber (negative : Bool) (digits : Nat) (left : List Char) : Reader Found := do
  match ← peek, left with
  | some '.', _ => takeFraction negative digits left.length
  | some 'e', _ | some 'E', _ => takeExponent negative digits left.length
  | _, [] => wholeFound negative digits
  | _, _ :: _ => decimalFound negative digits left.length

/-- **Takes a number**, behind its sign if it has one. A zero in front is
followed by no other digit. -/
def takeNumber (negative : Bool) : Reader Found := do
  match ← peek with
  | none => failHere .endInValue
  | some '0' =>
    take 1
    if (← peek).any Char.isDigit then failAhead .invalidNumber
    else completeNumber negative 0 []
  | some c =>
    if c.isDigit then
      let (digits, left) := collect (Nat.pow 2 64) 0 (← takeWhile Char.isDigit)
      completeNumber negative digits left
    else failAhead .invalidNumber

/-- Takes at least one digit. -/
def skipDigits : Reader Unit := do
  match ← takeWhile Char.isDigit with
  | [] => failAhead .invalidNumber
  | _ :: _ => return ()

/-- **Goes past a number**, behind its sign if it has one. -/
def skipNumber : Reader Unit := do
  if (← peek) = some '0' then
    take 1
    if (← peek).any Char.isDigit then failAhead .invalidNumber
  else skipDigits
  if (← peek) = some '.' then
    take 1
    skipDigits
  match ← peek with
  | some 'e' | some 'E' =>
    take 1
    let _ ← takeExponentSign
    skipDigits
  | _ => return ()

end WidgetMarkup.Json
