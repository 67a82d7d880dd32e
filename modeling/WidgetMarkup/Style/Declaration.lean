import WidgetMarkup.Style.Properties
import WidgetMarkup.Text.Blank
import WidgetMarkup.Text.LetterCase
import WidgetMarkup.Text.Split

/-!
# Declarations

The body of a rule is a sequence of declarations `name: value` with
semicolons between them. The value begins after the *first* colon, so it may
hold colons of its own. White space around a name or a value does not count.
Of two declarations of one name the later one holds.

A style sheet may write a property as `margin-top`; the table knows it as
`marginTop`. A run of dashes, however long, is dropped and the character
after it put into upper case. A run of dashes at the end has no character to
act on and is dropped all the same, so a property name holds no dash.

A piece without a colon, or with nothing for a name, declares nothing and
disturbs nothing.
-/

namespace WidgetMarkup.Style

/-! ## Names -/

/-- Dropping the dashes at the front makes no text longer. -/
theorem length_dropWhile_dash (s : List Char) :
    (s.dropWhile (· == '-')).length ≤ s.length :=
  (List.dropWhile_suffix _).length_le

/-- **A name without its dashes**: each run of dashes gives way to the upper
case of the character after it. -/
def camelCase : List Char → List Char
  | [] => []
  | c :: rest =>
    if c = '-' then
      match _h : rest.dropWhile (· == '-') with
      | [] => []
      | next :: more => Text.uppercase next ++ camelCase more
    else c :: camelCase rest
termination_by s => s.length
decreasing_by
  · have := length_dropWhile_dash rest
    simp only [_h, List.length_cons] at this ⊢
    omega
  · simp

/-- Runs inside, in front and at the end. -/
example : camelCase "border--top-width".toList = "borderTopWidth".toList
    ∧ camelCase "-webkit-box".toList = "WebkitBox".toList
    ∧ camelCase "trailing--".toList = "trailing".toList
    ∧ camelCase "stra-ße".toList = "straSSe".toList := by
  decide +kernel

/-! ## Declarations of a body -/

/-- What one piece between semicolons declares, if anything: a name and a
value. -/
def declaration? (piece : List Char) : Option (String × String) :=
  match Text.splitOnce ':' piece with
  | none => none
  | some (name, value) =>
    match camelCase (Text.trim name) with
    | [] => none
    | n => some (String.ofList n, String.ofList (Text.trim value))

/-- The declarations of a body, in the order in which they are written. -/
def declarations (body : List Char) : List (String × String) :=
  (body.splitOn ';').filterMap declaration?

/-- **The table that a body declares.** -/
def parseDeclarations (body : List Char) : Properties :=
  Properties.ofEntries (declarations body)

/-- A value keeps its colons, a later declaration overrides an earlier one,
and pieces that declare nothing are passed over. -/
example : (parseDeclarations "a-b: 1 :2 ;; x ; : y; a-b:3;c:u:v".toList).entries
    = [("aB", "3"), ("c", "u:v")] := by
  decide +kernel

end WidgetMarkup.Style
