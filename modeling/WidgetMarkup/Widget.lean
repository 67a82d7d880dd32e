import WidgetMarkup.Selector.Matching
import WidgetMarkup.Style.Properties
import WidgetMarkup.Text.Quoted

/-!
# Widgets

A widget is what an element of a page becomes. Its kind is decided by its
tag when it is made and never changes, and only some kinds can show a value.
A widget knows its parent and its children by their numbers.
-/

namespace WidgetMarkup

/-- The kinds of widget. -/
inductive WidgetKind where
  /-- The place where pages are attached. There is one, and no tag makes
  another. -/
  | root
  /-- An area that arranges what is in it. -/
  | view
  /-- A text that is shown. -/
  | text
  /-- A text that can be edited. -/
  | textInput
  /-- Something to press. -/
  | button
  /-- A picture. -/
  | image
  /-- Whatever else a tag may stand for. -/
  | custom
deriving DecidableEq, Repr, Inhabited

namespace WidgetKind

/-- **The kind that a tag stands for**, up to the case of ASCII letters. -/
def ofTag (tag : String) : WidgetKind :=
  let name := Text.foldCase tag
  if name ∈ ["VIEW", "PANEL", "BLOCK", "BOX", "SCROLL-VIEW"] then .view
  else if name ∈ ["TEXT", "LABEL"] then .text
  else if name ∈ ["TEXTINPUT", "INPUT", "TEXTAREA"] then .textInput
  else if name = "BUTTON" then .button
  else if name ∈ ["IMAGE", "IMG"] then .image
  else .custom

/-- Can a widget of this kind show a value? -/
def holdsValue : WidgetKind → Bool
  | .text | .textInput | .button | .custom => true
  | .root | .view | .image => false

end WidgetKind

/-- The number of a widget. -/
abbrev WidgetId := Nat

/-- **A widget.** -/
structure Widget where
  /-- What kind of widget it is. -/
  kind : WidgetKind
  /-- The tag it was made for, as it was written. -/
  tag : String
  /-- Its attributes, in the order in which they were first set. -/
  attributes : List (String × String) := []
  /-- The value it shows. -/
  value : Option String := none
  /-- The style it has come to wear. -/
  style : Style.Properties := .empty
  /-- The widget it is attached to. -/
  parent : Option WidgetId := none
  /-- The widgets attached to it, in order. -/
  children : List WidgetId := []
deriving DecidableEq, Inhabited

/-- Sets the value of a name in a list of attributes, in its place if it has
one and at the end if it has none. -/
def setEntry (name value : String) : List (String × String) → List (String × String)
  | [] => [(name, value)]
  | (n, v) :: more =>
    if n = name then (n, value) :: more else (n, v) :: setEntry name value more

namespace Widget

/-- A new widget for a tag, attached to nothing. -/
def ofTag (tag : String) : Widget :=
  { kind := .ofTag tag, tag }

/-- What selectors see of the widget. -/
def element (w : Widget) : Element :=
  ⟨w.tag, w.attributes⟩

/-- The value of an attribute. -/
def attribute? (w : Widget) (name : String) : Option String :=
  w.attributes.lookup name

/-- The widget with an attribute set. -/
def setAttribute (w : Widget) (name value : String) : Widget :=
  { w with attributes := setEntry name value w.attributes }

/-- The widget with a value, if its kind can show one. -/
def setValue (w : Widget) (value : String) : Widget :=
  if w.kind.holdsValue then { w with value := some value } else w

/-- The widget with its style overridden by further properties. -/
def mergeStyle (w : Widget) (properties : Style.Properties) : Widget :=
  { w with style := w.style.merge properties }

/-- **The line that shows a widget**: its tag and attributes, its value in
quotes, and its style in braces, the last two only if there is one. -/
def line (w : Widget) : String :=
  "<" ++ w.tag
    ++ String.join (w.attributes.map fun (name, value) => " " ++ name ++ "=\"" ++ value ++ "\"")
    ++ ">"
    ++ (match w.value with
      | none => ""
      | some value => " " ++ Text.quoted value)
    ++ (if w.style.entries.isEmpty then "" else " \x7b" ++ w.style.render ++ "\x7d")

end Widget

end WidgetMarkup
