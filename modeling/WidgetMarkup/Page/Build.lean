import WidgetMarkup.Markup.Node
import WidgetMarkup.Page.RuleBook
import WidgetMarkup.Page.TagRole
import WidgetMarkup.Scene.Basic

/-!
# Building a page

A document is built into a scene by going through its elements in document
order. What an element does is the role of its tag: a container becomes a
widget, and its element children are built into that; a leaf becomes a
widget with a value, and what is inside it is not visited; a style element
puts rules into the book, and a flush element signals, and neither becomes a
widget or is looked into any further.

Three things grow on the way, and `Construction` holds them together: the
scene, the rule book, and the tally of what was done.
-/

namespace WidgetMarkup

/-- **The tally of a page**: how much it was made of. -/
structure Tally where
  /-- The widgets made. -/
  widgets : Nat := 0
  /-- The rules added to the book. -/
  rules : Nat := 0
  /-- The signals given. -/
  flushes : Nat := 0
deriving DecidableEq, Repr, Inhabited

/-- **A page in the making.** -/
structure Construction where
  /-- The widgets. -/
  scene : Scene
  /-- The rules. -/
  book : RuleBook
  /-- What was done so far. -/
  tally : Tally := {}

namespace Construction

/-- Makes a widget with attributes, at the end of the children of
`parent`. -/
def addWidget (c : Construction) (parent : WidgetId) (tag : String)
    (attributes : List (String × String)) : Construction :=
  let id := c.scene.nextId
  let attached := (c.scene.create tag).append parent id
  { c with
    scene := attributes.foldl (fun s (name, value) => s.setAttribute id name value) attached
    tally := { c.tally with widgets := c.tally.widgets + 1 } }

/-- Sets the value of a widget, if there is one to set. -/
def setValue (c : Construction) (id : WidgetId) : Option String → Construction
  | none => c
  | some value => { c with scene := c.scene.setValue id value }

/-- Puts the rules of a style sheet into the book, if there is one. -/
def addSheet (c : Construction) : Option String → Construction
  | none => c
  | some text =>
    { c with
      book := c.book.addSheet text
      tally := { c.tally with rules := c.tally.rules + (Style.Sheet.rules text).length } }

/-- Signals diagnostics. -/
def signal (c : Construction) : Construction :=
  { c with
    scene := c.scene.signal
    tally := { c.tally with flushes := c.tally.flushes + 1 } }

mutual

/-- **Builds an element** under a widget. Other nodes build nothing. -/
def build (roles : TagRoles) (parent : WidgetId) (c : Construction) : Node → Construction
  | .element tag attributes children =>
    match roles.role tag with
    | .style => c.addSheet (Node.leadingTextOf? children)
    | .flush => c.signal
    | .leaf =>
      (c.addWidget parent tag attributes).setValue c.scene.nextId
        (Node.leadingTextOf? children)
    | .container =>
      buildAll roles c.scene.nextId (c.addWidget parent tag attributes) children
  | .text _ => c
  | .comment _ => c

/-- Builds the elements of a row of nodes, in order. -/
def buildAll (roles : TagRoles) (parent : WidgetId) (c : Construction) :
    List Node → Construction
  | [] => c
  | n :: more => buildAll roles parent (build roles parent c n) more

end

/-- **Builds what is inside a node** under a widget; the node itself becomes
nothing. -/
def buildInside (roles : TagRoles) (parent : WidgetId) (c : Construction) (n : Node) :
    Construction :=
  buildAll roles parent c n.children

end Construction

end WidgetMarkup
