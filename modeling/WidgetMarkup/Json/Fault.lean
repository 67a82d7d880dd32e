import WidgetMarkup.Text.Quoted

/-!
# What can be wrong with a configuration text

A configuration is a JSON text, and is refused with the reason and the place.
A place is a line, counted from one, and the number of bytes of that line
that have been read. Most faults are found in looking at the next character,
and their place is behind the first byte of it; a fault found when something
has been read to its end has the place behind that.
-/

namespace WidgetMarkup.Json

/-- A place in a text. -/
structure Place where
  /-- The line, counted from one. -/
  line : Nat
  /-- How many bytes of the line come before the place. -/
  column : Nat
deriving DecidableEq, Repr

/-- What was found where something else was expected. -/
inductive Found where
  /-- The word `null`. -/
  | null
  /-- A truth value. -/
  | flag (value : Bool)
  /-- A whole number. -/
  | integer (value : Int)
  /-- A number with a fraction or of a large size, as it is written for the
  reader. -/
  | decimal (text : String)
  /-- A string. -/
  | text (value : String)
  /-- An array. -/
  | list
  /-- An object. -/
  | record
deriving DecidableEq, Repr

/-- What was expected. -/
inductive Expected where
  /-- The configuration as a whole. -/
  | settings
  /-- An array. -/
  | list
  /-- A string. -/
  | text
  /-- A truth value. -/
  | flag
deriving DecidableEq, Repr

/-- What is wrong. -/
inductive Cause where
  /-- The text ends where a value must come. -/
  | endInValue
  /-- The text ends inside an object. -/
  | endInRecord
  /-- The text ends inside an array. -/
  | endInList
  /-- The text ends inside a string. -/
  | endInText
  /-- No colon after a key. -/
  | expectedColon
  /-- Neither a comma nor the end after a field of an object. -/
  | expectedRecordSeparator
  /-- Neither a comma nor the end after an element of an array. -/
  | expectedListSeparator
  /-- No value begins here. -/
  | expectedValue
  /-- A word that begins like `null`, `true` or `false` and is none of
  them. -/
  | expectedWord
  /-- A backslash protects nothing that it can. -/
  | invalidEscape
  /-- A number is not written as numbers are. -/
  | invalidNumber
  /-- A number is beyond the largest one. -/
  | numberOutOfRange
  /-- A key is not a string. -/
  | keyNotText
  /-- A comma with nothing after it. -/
  | trailingComma
  /-- More text after the end. -/
  | trailingText
  /-- A control character in a string. -/
  | controlCharacter
  /-- Half of a pair of escapes stands where it cannot. -/
  | loneSurrogate
  /-- A pair of escapes breaks off after its first half. -/
  | brokenPair
  /-- A value of the wrong kind. -/
  | wrongKind (found : Found) (expected : Expected)
  /-- A field that has been given before. -/
  | duplicateField (name : String)
deriving DecidableEq, Repr

/-- **A fault in a configuration text.** -/
structure Fault where
  /-- What is wrong. -/
  cause : Cause
  /-- Where. -/
  place : Place
deriving DecidableEq, Repr

/-- How a value of the wrong kind is described. -/
def Found.describe : Found → String
  | .null => "null"
  | .flag value => s!"boolean `{value}`"
  | .integer value => s!"integer `{value}`"
  | .decimal written => s!"floating point `{written}`"
  | .text value => "string " ++ Text.quoted value
  | .list => "sequence"
  | .record => "map"

/-- How the expected kind is described. -/
def Expected.describe : Expected → String
  | .settings => "struct LoaderConfig"
  | .list => "a sequence"
  | .text => "a string"
  | .flag => "a boolean"

/-- The text of a cause. -/
def Cause.message : Cause → String
  | .endInValue => "EOF while parsing a value"
  | .endInRecord => "EOF while parsing an object"
  | .endInList => "EOF while parsing a list"
  | .endInText => "EOF while parsing a string"
  | .expectedColon => "expected `:`"
  | .expectedRecordSeparator => "expected `,` or `\x7d`"
  | .expectedListSeparator => "expected `,` or `]`"
  | .expectedValue => "expected value"
  | .expectedWord => "expected ident"
  | .invalidEscape => "invalid escape"
  | .invalidNumber => "invalid number"
  | .numberOutOfRange => "number out of range"
  | .keyNotText => "key must be a string"
  | .trailingComma => "trailing comma"
  | .trailingText => "trailing characters"
  | .controlCharacter => "control character (\\u0000-\\u001F) found while parsing a string"
  | .loneSurrogate => "lone leading surrogate in hex escape"
  | .brokenPair => "unexpected end of hex escape"
  | .wrongKind found expected =>
    "invalid type: " ++ found.describe ++ ", expected " ++ expected.describe
  | .duplicateField name => s!"duplicate field `{name}`"

/-- **The text of a fault**: what, and where. -/
def Fault.message (f : Fault) : String :=
  f.cause.message ++ s!" at line {f.place.line} column {f.place.column}"

end WidgetMarkup.Json
