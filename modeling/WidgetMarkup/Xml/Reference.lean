import WidgetMarkup.Text.Place
import WidgetMarkup.Xml.Fault

/-!
# Character references

In the text of an element and in the value of an attribute, `&` begins a
reference and `;` ends it. Between the two stands one of five names, or `#`
and a number, decimal or – after an `x` – hexadecimal. `expand` puts the
characters meant in the place of the references, and nothing else is
changed: line ends and other white space stay as they were written.

A reference is read up to the next `&` or `;`, and if that is not a `;` the
reference has no end.
-/

namespace WidgetMarkup.Xml

open Text (byteLength)

/-- The character that a name stands for. -/
def namedCharacter? (name : List Char) : Option Char :=
  if name = ['l', 't'] then some '<'
  else if name = ['g', 't'] then some '>'
  else if name = ['a', 'm', 'p'] then some '&'
  else if name = ['a', 'p', 'o', 's'] then some '\''
  else if name = ['q', 'u', 'o', 't'] then some '"'
  else none

/-- The value of a digit, if it is one in the given base of at most
sixteen. -/
def digit? (base : Nat) (c : Char) : Option Nat :=
  let value :=
    if '0' ≤ c ∧ c ≤ '9' then c.toNat - '0'.toNat
    else if 'a' ≤ c ∧ c ≤ 'f' then c.toNat - 'a'.toNat + 10
    else if 'A' ≤ c ∧ c ≤ 'F' then c.toNat - 'A'.toNat + 10
    else base
  if value < base then some value else none

/-- Reads the remaining digits of a number of at most 32 bits, of which
`value` is read so far. The first character at which it goes wrong decides
how. -/
def readDigits (base value : Nat) : List Char → Except NumberFault Nat
  | [] => .ok value
  | c :: rest =>
    match digit? base c with
    | none => .error .invalidDigit
    | some d =>
      if value * base + d < Nat.pow 2 32 then readDigits base (value * base + d) rest
      else .error .tooLarge

/-- Reads a number without a sign. -/
def readNumber (base : Nat) (s : List Char) : Except NumberFault Nat :=
  match s with
  | [] => .error .empty
  | c :: _ => if c = '+' ∨ c = '-' then .error .sign else readDigits base 0 s

/-- The character with the number that is written between `#` and `;`. -/
def numberedCharacter (s : List Char) : Except NumberFault Char :=
  let number :=
    match s with
    | 'x' :: digits => readNumber 16 digits
    | digits => readNumber 10 digits
  match number with
  | .error fault => .error fault
  | .ok code =>
    if code = 0 then .error .zero
    else if code.isValidChar then .ok (Char.ofNat code)
    else .error (.noCharacter code)

/-- The character that is meant by what stands between `&` and `;`, which
begins at the given offset. -/
def character (start : Nat) (name : List Char) : Except ReferenceFault Char :=
  match name with
  | '#' :: number => (numberedCharacter number).mapError .number
  | _ =>
    match namedCharacter? name with
    | some c => .ok c
    | none => .error (.unrecognized start (start + byteLength name) (String.ofList name))

/-- Expands the references in what is left of a text, from the given offset
to the offset `stop` of its end. -/
def expandFrom (stop start : Nat) (s : List Char) : Except ReferenceFault (List Char) :=
  let plain := s.takeWhile (· != '&')
  let place := start + byteLength plain
  match _h : s.dropWhile (· != '&') with
  | [] => .ok plain
  | _ :: inside =>
    let name := inside.takeWhile (fun c => c != '&' && c != ';')
    match _hn : inside.dropWhile (fun c => c != '&' && c != ';') with
    | ';' :: rest =>
      match character (place + 1) name with
      | .error fault => .error fault
      | .ok c =>
        match expandFrom stop (place + 1 + byteLength name + 1) rest with
        | .error fault => .error fault
        | .ok more => .ok (plain ++ c :: more)
    | _ => .error (.unterminated place stop)
termination_by s.length
decreasing_by
  have hs := (List.dropWhile_suffix (l := s) (· != '&')).length_le
  have hi := (List.dropWhile_suffix (l := inside)
    (fun c => c != '&' && c != ';')).length_le
  simp only [_h, _hn, List.length_cons] at hs hi
  omega

/-- **The text with every reference replaced** by the character it stands
for. -/
def expand (s : List Char) : Except ReferenceFault (List Char) :=
  expandFrom (byteLength s) 0 s

end WidgetMarkup.Xml
