import WidgetMarkup.Json.Number
import WidgetMarkup.Json.Text

/-!
# Values

What stands under a known key must be of a certain kind, and is read as
that; `wrongKind` reads what stands there instead, to say what it is. What
stands under an unknown key may be anything, but it must be JSON:
`skipValue` goes past it. There the arrays and objects that are open stand
on a stack, so that no depth is too deep.
-/

namespace WidgetMarkup.Json

/-- **Ends with the fault that a value is of the wrong kind**, or with the
fault in it. An array or an object is not looked into. -/
def wrongKind {α : Type} (expected : Expected) : Reader α := do
  let found ←
    match ← peek with
    | some 'n' =>
      takeWord ['n', 'u', 'l', 'l']
      pure Found.null
    | some 't' =>
      takeWord ['t', 'r', 'u', 'e']
      pure (Found.flag true)
    | some 'f' =>
      takeWord ['f', 'a', 'l', 's', 'e']
      pure (Found.flag false)
    | some '-' =>
      take 1
      takeNumber true
    | some '"' =>
      take 1
      pure (Found.text (← takeText))
    | some '[' => pure Found.list
    | some '{' => pure Found.record
    | some c => if c.isDigit then takeNumber false else failAhead .expectedValue
    | none => failAhead .expectedValue
  failHere (.wrongKind found expected)

/-- Takes a string. -/
def expectText : Reader String := do
  match ← peekToken with
  | none => failHere .endInValue
  | some '"' =>
    take 1
    takeText
  | some _ => wrongKind .text

/-- Takes a truth value. -/
def expectFlag : Reader Bool := do
  match ← peekToken with
  | none => failHere .endInValue
  | some 't' =>
    takeWord ['t', 'r', 'u', 'e']
    return true
  | some 'f' =>
    takeWord ['f', 'a', 'l', 's', 'e']
    return false
  | some _ => wrongKind .flag

/-- Looks whether an array goes on with another element, and if so takes the
comma in front of it. -/
def nextElement (first : Bool) : Reader Bool := do
  match ← peekToken with
  | none => failHere .endInList
  | some ']' => return false
  | some c =>
    if first then return true
    else if c = ',' then
      take 1
      match ← peekToken with
      | none => failHere .endInValue
      | some ']' => failAhead .trailingComma
      | some _ => return true
    else failAhead .expectedListSeparator

/-- Takes the bracket that ends an array. -/
def endList : Reader Unit := do
  match ← peekToken with
  | none => failHere .endInList
  | some ']' => take 1
  | some ',' =>
    take 1
    match ← peekToken with
    | some ']' => failAhead .trailingComma
    | _ => failAhead .trailingText
  | some _ => failAhead .trailingText

/-- Takes an array of strings. -/
def expectTexts : Reader (List String) := do
  match ← peekToken with
  | none => failHere .endInValue
  | some '[' =>
    take 1
    let texts ← untilAnswer (fun (before : List String) => do
      if ← nextElement before.isEmpty then
        return .inl ((← expectText) :: before)
      else return .inr before.reverse) []
    endList
    return texts
  | some _ => wrongKind .list

/-- Takes the colon behind a key. -/
def expectColon : Reader Unit := do
  match ← peekToken with
  | none => failHere .endInRecord
  | some ':' => take 1
  | some _ => failAhead .expectedColon

/-! ## Going past a value -/

/-- What holds values inside it. -/
inductive Container where
  /-- An array. -/
  | list
  /-- An object. -/
  | record
deriving DecidableEq

/-- The bracket that ends a container. -/
def Container.close : Container → Char
  | .list => ']'
  | .record => '}'

/-- The fault of a text that ends inside a container. -/
def Container.ended : Container → Cause
  | .list => .endInList
  | .record => .endInRecord

/-- The fault of a container that neither goes on nor ends. -/
def Container.unseparated : Container → Cause
  | .list => .expectedListSeparator
  | .record => .expectedRecordSeparator

/-- Goes past the key and the colon, if values in the container have one. -/
def skipKey : Container → Reader Unit
  | .list => return ()
  | .record => do
    match ← peekToken with
    | none => failHere .endInRecord
    | some '"' =>
      take 1
      skipText
      expectColon
    | some _ => failAhead .keyNotText

/-- Where the way past a value has come to: the open containers, innermost
first, and whether a value comes next or one has just ended. -/
inductive Position where
  /-- A value comes next. -/
  | before (inside : List Container)
  /-- A value has ended. -/
  | behind (inside : List Container)

/-- Opens a container, which may be empty. -/
def openContainer (c : Container) (inside : List Container) : Reader Position := do
  take 1
  match ← peekToken with
  | none => failHere c.ended
  | some d =>
    if d = c.close then
      take 1
      return .behind inside
    else
      skipKey c
      return .before (c :: inside)

/-- One step on the way past a value. -/
def skipStep : Position → Reader (Position ⊕ Unit)
  | .before inside => do
    match ← peekToken with
    | none => failHere .endInValue
    | some 'n' =>
      takeWord ['n', 'u', 'l', 'l']
      return .inl (.behind inside)
    | some 't' =>
      takeWord ['t', 'r', 'u', 'e']
      return .inl (.behind inside)
    | some 'f' =>
      takeWord ['f', 'a', 'l', 's', 'e']
      return .inl (.behind inside)
    | some '-' =>
      take 1
      skipNumber
      return .inl (.behind inside)
    | some '"' =>
      take 1
      skipText
      return .inl (.behind inside)
    | some '[' => return .inl (← openContainer .list inside)
    | some '{' => return .inl (← openContainer .record inside)
    | some c =>
      if c.isDigit then
        skipNumber
        return .inl (.behind inside)
      else failAhead .expectedValue
  | .behind [] => return .inr ()
  | .behind (c :: inside) => do
    match ← peekToken with
    | none => failHere c.ended
    | some d =>
      if d = ',' then
        take 1
        skipKey c
        return .inl (.before (c :: inside))
      else if d = c.close then
        take 1
        return .inl (.behind inside)
      else failAhead c.unseparated

/-- **Goes past a value** of any kind. -/
def skipValue : Reader Unit :=
  untilAnswer skipStep (.before [])

end WidgetMarkup.Json
