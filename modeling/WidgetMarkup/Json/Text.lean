import WidgetMarkup.Json.Cursor
import WidgetMarkup.Text.Place

/-!
# Strings

A string ends at the next quote that no backslash protects. A backslash
protects itself and the quote, stands for a control character together with
a letter, and with `u` and four hexadecimal digits for a character by its
number. A character beyond the basic plane is written as a pair of such
numbers, a high and a low one, and neither half may stand alone.

Where only the end of a string is wanted, halves of pairs are not looked
at.
-/

namespace WidgetMarkup.Json

/-- The value of a hexadecimal digit. -/
def hexDigit? (c : Char) : Option Nat :=
  if '0' ≤ c ∧ c ≤ '9' then some (c.toNat - '0'.toNat)
  else if 'a' ≤ c ∧ c ≤ 'f' then some (c.toNat - 'a'.toNat + 10)
  else if 'A' ≤ c ∧ c ≤ 'F' then some (c.toNat - 'A'.toNat + 10)
  else none

/-- Takes four hexadecimal digits. They are taken as four bytes, and a fault
in them is put behind the fourth. -/
def takeHex : Reader Nat := do
  let c ← get
  match (c.rest.take 4).map hexDigit? with
  | [some a, some b, some d, some e] =>
    take 4
    return ((a * 16 + b) * 16 + d) * 16 + e
  | _ =>
    if 4 ≤ Text.byteLength (c.rest.take 4) then
      fun c => .error ⟨.invalidEscape, c.place.bytesBehind 4 c.rest⟩
    else
      set (c.skip c.rest.length)
      failHere .endInText

/-- Takes a character that must come next if a pair of escapes is to go
on. -/
def takeOfPair (expected : Char) : Reader Unit := do
  match ← peek with
  | none => failHere .endInText
  | some c => if c = expected then take 1 else failAhead .brokenPair

/-- Takes the number of a character, behind `u`, and the second half of the
pair if it is the first half of one. -/
def takeNumbered : Reader Char := do
  let high ← takeHex
  if 0xDC00 ≤ high ∧ high ≤ 0xDFFF then failHere .loneSurrogate
  else if 0xD800 ≤ high ∧ high ≤ 0xDBFF then
    takeOfPair '\\'
    takeOfPair 'u'
    let low ← takeHex
    if 0xDC00 ≤ low ∧ low ≤ 0xDFFF then
      return Char.ofNat (0x10000 + (high - 0xD800) * 0x400 + (low - 0xDC00))
    else failHere .loneSurrogate
  else return Char.ofNat high

/-- The character that a backslash and a letter stand for. -/
def escaped? (c : Char) : Option Char :=
  if c = '"' ∨ c = '\\' ∨ c = '/' then some c
  else if c = 'b' then some '\x08'
  else if c = 'f' then some '\x0c'
  else if c = 'n' then some '\n'
  else if c = 'r' then some '\r'
  else if c = 't' then some '\t'
  else none

/-- Takes what is protected by a backslash; `numbered` reads on behind a
`u`. -/
def takeEscape {α : Type} (numbered : Reader α) (plain : Char → α) : Reader α := do
  match ← peek with
  | none => failHere .endInText
  | some 'u' =>
    take 1
    numbered
  | some c =>
    match escaped? c with
    | some d =>
      take 1
      return plain d
    | none => failAhead .invalidEscape

/-- **Takes the rest of a string**, behind the quote that begins it. -/
def takeText : Reader String :=
  untilAnswer (fun (before : List Char) => do
    match ← peek with
    | none => failHere .endInText
    | some '"' =>
      take 1
      return .inr (String.ofList before.reverse)
    | some '\\' =>
      take 1
      return .inl ((← takeEscape takeNumbered id) :: before)
    | some c =>
      if c < ' ' then failAhead .controlCharacter
      else
        take 1
        return .inl (c :: before)) []

/-- Goes to the end of a string, behind the quote that begins it. -/
def skipText : Reader Unit :=
  untilAnswer (fun (_ : Unit) => do
    match ← peek with
    | none => failHere .endInText
    | some '"' =>
      take 1
      return .inr ()
    | some '\\' =>
      take 1
      takeEscape (do let _ ← takeHex) (fun _ => ())
      return .inl ()
    | some c =>
      if c < ' ' then failHere .controlCharacter
      else
        take 1
        return .inl ()) ()

end WidgetMarkup.Json
