import WidgetMarkup.Widget

/-!
# The scene

A scene holds every widget that has been made, by its number. The first,
number 0, is the root; a widget belongs to what is shown when its parents
lead to the root, and until it is attached it belongs to nothing. Widgets
are never taken out of the scene, only moved.

Attaching a widget moves it: it leaves its old parent and becomes the last
child of the new one. Nothing keeps a widget from being attached below
itself. It then leaves what is shown, together with all that is below it,
and the loop so made stays apart until one of its members is moved out.
-/

namespace WidgetMarkup

/-- **All widgets there are**, and how often diagnostics were signalled. -/
structure Scene where
  /-- The widgets, each at its number. -/
  widgets : Array Widget
  /-- How many signals there were. -/
  flushes : Nat
deriving DecidableEq, Inhabited

namespace Scene

/-- The number of the root. -/
def root : WidgetId := 0

/-- The scene with the root only. -/
def new : Scene :=
  { widgets := #[{ kind := .root, tag := "root" }], flushes := 0 }

/-- How many widgets there are besides the root. -/
def count (s : Scene) : Nat :=
  s.widgets.size - 1

/-- The widget with a number. -/
def widget? (s : Scene) (id : WidgetId) : Option Widget :=
  s.widgets[id]?

/-- The children of a widget. -/
def children (s : Scene) (id : WidgetId) : List WidgetId :=
  match s.widget? id with
  | some w => w.children
  | none => []

/-- The parent of a widget. -/
def parent? (s : Scene) (id : WidgetId) : Option WidgetId :=
  (s.widget? id).bind Widget.parent

/-- The scene with one widget changed. -/
def update (s : Scene) (id : WidgetId) (f : Widget → Widget) : Scene :=
  { s with widgets := s.widgets.modify id f }

/-- The number that the next new widget will have. -/
def nextId (s : Scene) : WidgetId :=
  s.widgets.size

/-- Makes a widget for a tag. Its number is `nextId`. -/
def create (s : Scene) (tag : String) : Scene :=
  { s with widgets := s.widgets.push (.ofTag tag) }

/-- Takes a widget off its parent, if it has one. -/
def detach (s : Scene) (id : WidgetId) : Scene :=
  match s.parent? id with
  | none => s
  | some old =>
    (s.update id ({ · with parent := none })).update old
      fun w => { w with children := w.children.filter (· != id) }

/-- **Moves a widget** to the end of the children of another. -/
def append (s : Scene) (parent child : WidgetId) : Scene :=
  ((s.detach child).update child ({ · with parent := some parent })).update parent
    fun w => { w with children := w.children ++ [child] }

/-- Sets an attribute of a widget. -/
def setAttribute (s : Scene) (id : WidgetId) (name value : String) : Scene :=
  s.update id (·.setAttribute name value)

/-- Sets the value of a widget, if its kind can show one. -/
def setValue (s : Scene) (id : WidgetId) (value : String) : Scene :=
  s.update id (·.setValue value)

/-- Overrides the style of a widget. -/
def mergeStyle (s : Scene) (id : WidgetId) (properties : Style.Properties) : Scene :=
  s.update id (·.mergeStyle properties)

/-- Counts a diagnostic signal. -/
def signal (s : Scene) : Scene :=
  { s with flushes := s.flushes + 1 }

/-! ## What the operations do to a single widget -/

@[simp]
theorem widget?_update (s : Scene) (id other : WidgetId) (f : Widget → Widget) :
    (s.update id f).widget? other
      = if id = other then (s.widget? other).map f else s.widget? other := by
  simp [widget?, update, Array.getElem?_modify]

@[simp]
theorem nextId_update (s : Scene) (id : WidgetId) (f : Widget → Widget) :
    (s.update id f).nextId = s.nextId := by
  simp [nextId, update]

@[simp]
theorem flushes_update (s : Scene) (id : WidgetId) (f : Widget → Widget) :
    (s.update id f).flushes = s.flushes := rfl

@[simp]
theorem widget?_create (s : Scene) (tag : String) (id : WidgetId) :
    (s.create tag).widget? id
      = if id = s.nextId then some (.ofTag tag) else s.widget? id := by
  simp only [widget?, create, nextId, Array.getElem?_push]
  rfl

@[simp]
theorem nextId_create (s : Scene) (tag : String) : (s.create tag).nextId = s.nextId + 1 := by
  simp [nextId, create]

end Scene

end WidgetMarkup
