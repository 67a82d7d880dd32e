import WidgetMarkup.Json.Value

/-!
# Settings

How pages are loaded can be set in three ways: which tags are leaves, whether
style rules accumulate from one page to the next, and the name under which
pages are fetched. Settings are read from a JSON text, an object with the
keys `leafTags`, `accumulateStyles` and `userAgent`, or an array that gives
their values in this order. What is not set keeps its default. Other keys
mean nothing, and a known key may be given once.
-/

namespace WidgetMarkup

/-- **Settings for loading pages.** -/
structure Settings where
  /-- The tags whose elements take their leading text as their value. -/
  leafTags : List String := ["text", "textinput"]
  /-- Whether the rules of earlier pages stay in force for later ones. -/
  accumulateStyles : Bool := true
  /-- The name under which pages are fetched. -/
  userAgent : String := "mini-markup/0.1.0"
deriving DecidableEq, Repr, Inhabited

namespace Settings

open Json

/-- The settings given so far. -/
structure Given where
  /-- The leaf tags, if they are given. -/
  leafTags : Option (List String) := none
  /-- Whether rules accumulate, if it is given. -/
  accumulateStyles : Option Bool := none
  /-- The name for fetching, if it is given. -/
  userAgent : Option String := none

/-- The settings, with the defaults for what is not given. -/
def Given.complete (p : Given) : Settings :=
  let defaults : Settings := {}
  { leafTags := p.leafTags.getD defaults.leafTags
    accumulateStyles := p.accumulateStyles.getD defaults.accumulateStyles
    userAgent := p.userAgent.getD defaults.userAgent }

/-- Ends with the fault that a field is given again. The place is where the
object would end if it ended behind the key. -/
def failDuplicate {α : Type} (name : String) : Reader α := do
  if (← peekToken) = some '}' then take 1
  failHere (.duplicateField name)

/-- Takes the value of a field, unless the field is given already. -/
def takeField {α : Type} (name : String) (given : Option α) (value : Reader α) :
    Reader (Option α) := do
  if given.isSome then failDuplicate name
  expectColon
  return some (← value)

/-- Looks whether an object goes on with another field, and if so goes to
its key. -/
def nextField (first : Bool) : Reader Bool := do
  match ← peekToken with
  | none => failHere .endInRecord
  | some '}' => return false
  | some c =>
    if first then
      if c = '"' then return true else failAhead .keyNotText
    else if c = ',' then
      take 1
      match ← peekToken with
      | none => failHere .endInValue
      | some '"' => return true
      | some '}' => failAhead .trailingComma
      | some _ => failAhead .keyNotText
    else failAhead .expectedRecordSeparator

/-- Takes one field of the object, with its key. -/
def takeKeyed (p : Given) : Reader Given := do
  take 1
  let key ← takeText
  if key = "leafTags" then
    return { p with leafTags := ← takeField key p.leafTags expectTexts }
  else if key = "accumulateStyles" then
    return { p with accumulateStyles := ← takeField key p.accumulateStyles expectFlag }
  else if key = "userAgent" then
    return { p with userAgent := ← takeField key p.userAgent expectText }
  else
    expectColon
    skipValue
    return p

/-- Takes the fields of an object, behind its opening brace. -/
def takeRecord : Reader Given := do
  let p ← untilAnswer (fun (first, (p : Given)) => do
    if ← nextField first then return .inl (false, ← takeKeyed p)
    else return .inr p) (true, {})
  take 1
  return p

/-- Takes the values of an array, behind its opening bracket. -/
def takeList : Reader Given := do
  let leafTags ← if ← nextElement true then some <$> expectTexts else pure none
  let accumulateStyles ←
    if ← nextElement leafTags.isNone then some <$> expectFlag else pure none
  let userAgent ←
    if ← nextElement (leafTags.isNone && accumulateStyles.isNone) then some <$> expectText
    else pure none
  endList
  return { leafTags, accumulateStyles, userAgent }

/-- Takes the settings, and nothing may follow them. -/
def reader : Reader Settings := do
  let p ←
    match ← peekToken with
    | none => failHere .endInValue
    | some '{' =>
      take 1
      takeRecord
    | some '[' =>
      take 1
      takeList
    | some _ => wrongKind .settings
  match ← peekToken with
  | none => return p.complete
  | some _ => failAhead .trailingText

/-- **Reads settings from a JSON text.** -/
def parse (text : String) : Except Json.Fault Settings :=
  (reader.run (Cursor.start text)).map Prod.fst

/-- What is not set keeps its default, and other keys mean nothing. -/
example : (parse "\x7b \"x\": [1, \x7b\x7d], \"leafTags\": [\"b\"] \x7d").toOption
    = some { leafTags := ["b"] } := by
  decide +kernel

/-- The place of a wrong kind is behind the value. -/
example : (parse "\x7b\n\"userAgent\": 1.5\x7d").toOption = none ∧
    (match parse "\x7b\n\"userAgent\": 1.5\x7d" with
      | .ok _ => ""
      | .error fault => fault.message)
    = "invalid type: floating point `1.5`, expected a string at line 2 column 16" := by
  decide +kernel

end Settings

end WidgetMarkup
