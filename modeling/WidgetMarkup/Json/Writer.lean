/-!
# Writing JSON

Values are written in one of two layouts. The compact one has nothing but
what JSON needs; the indented one puts every element on a line of its own,
two spaces further in than what it belongs to, and a space behind a colon.
In either layout an empty array is `[]` and an empty object two braces.

In strings the quote, the backslash and the controls are escaped, five of
the controls by a letter and the others by their number, and nothing else.
-/

namespace WidgetMarkup.Json

/-- How values are laid out. -/
inductive Layout where
  /-- On one line, without spaces. -/
  | compact
  /-- On lines of their own, at this many levels of indentation. -/
  | indented (level : Nat)
deriving DecidableEq

/-- How one character is written in a string. -/
def escape (c : Char) : List Char :=
  if c = '"' then ['\\', '"']
  else if c = '\\' then ['\\', '\\']
  else if c = '\x08' then ['\\', 'b']
  else if c = '\t' then ['\\', 't']
  else if c = '\n' then ['\\', 'n']
  else if c = '\x0c' then ['\\', 'f']
  else if c = '\r' then ['\\', 'r']
  else if c < ' ' then
    ['\\', 'u', '0', '0', (c.toNat / 16).digitChar, (c.toNat % 16).digitChar]
  else [c]

/-- **A string.** -/
def writeText (s : String) : String :=
  String.ofList ('"' :: s.toList.flatMap escape ++ ['"'])

namespace Layout

/-- The layout of what is inside. -/
def inner : Layout → Layout
  | .compact => .compact
  | .indented level => .indented (level + 1)

/-- What stands in front of each element, and of the end. -/
def lineStart : Layout → String
  | .compact => ""
  | .indented level => "\n" ++ String.ofList (List.replicate (2 * level) ' ')

/-- Brackets around elements that are written already. -/
def enclose (layout : Layout) (opening closing : String) (elements : List String) :
    String :=
  match elements with
  | [] => opening ++ closing
  | _ :: _ =>
    opening ++ String.intercalate "," (elements.map (layout.inner.lineStart ++ ·))
      ++ layout.lineStart ++ closing

/-- **An array** of elements that are written already. -/
def list (layout : Layout) (elements : List String) : String :=
  layout.enclose "[" "]" elements

/-- **An object**, from its keys and the values that are written already. -/
def record (layout : Layout) (fields : List (String × String)) : String :=
  let colon := if layout = .compact then ":" else ": "
  layout.enclose "\x7b" "\x7d" (fields.map fun (key, value) => writeText key ++ colon ++ value)

end Layout

end WidgetMarkup.Json
