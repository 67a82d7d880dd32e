import WidgetMarkup.Scene.Basic
import WidgetMarkup.Selector.Parser

/-!
# Document order and queries

What is shown is read in document order: a widget, then all that is below
it, then its next sibling. The walk keeps the widgets that are still to be
visited in a list; the children of a widget are put in front of what was
there.

Where parents form a loop there is no such order, and a walk into the loop
would not end. So the walk is given a number of visits that it may make, and
answers nothing when they do not suffice. From the root no walk comes into a
loop, and as many visits as there are widgets are enough.

A query is a selector text, and its answer the widgets shown that at least
one of the selectors selects, in document order. The root is never an
answer, but it is an element all the same, and may meet a condition on the
ancestors of another. A text that is no selector list selects nothing.
-/

namespace WidgetMarkup.Scene

/-! ## Document order -/

/-- Visits the widgets in the list and all that is below them, if the number
of visits allows it. -/
def walk? (s : Scene) : Nat → List WidgetId → Option (List WidgetId)
  | _, [] => some []
  | 0, _ :: _ => none
  | visits + 1, id :: more => (s.walk? visits (s.children id ++ more)).map (id :: ·)

/-- **What is below a widget**, in document order. -/
def descendants? (s : Scene) (id : WidgetId) : Option (List WidgetId) :=
  s.walk? s.widgets.size (s.children id)

/-- **What is shown**, in document order: everything below the root. -/
def shown (s : Scene) : List WidgetId :=
  (s.descendants? root).getD []

/-- The widgets outside a widget, nearest first, as far as the number of
steps allows. -/
def outward (s : Scene) : Nat → WidgetId → List WidgetId
  | 0, _ => []
  | steps + 1, id =>
    match s.parent? id with
    | none => []
    | some p => p :: s.outward steps p

/-- **The ancestors of a widget**, nearest first. The root, if it is among
them, is the last. -/
def ancestors (s : Scene) (id : WidgetId) : List WidgetId :=
  s.outward s.widgets.size id

/-! ## Queries -/

/-- What selectors see of the widgets with these numbers. -/
def elements (s : Scene) (ids : List WidgetId) : List Element :=
  ids.filterMap fun id => (s.widget? id).map Widget.element

/-- Is the widget selected by one of the selectors? -/
def selects (s : Scene) (selectors : List Selector) (id : WidgetId) : Bool :=
  match s.widget? id with
  | none => false
  | some w =>
    let outside := s.elements (s.ancestors id)
    selectors.any (·.accepts w.element outside)

/-- **The widgets that a selector text selects**, in document order. -/
def query (s : Scene) (text : String) : List WidgetId :=
  match Selector.parseList? text with
  | none => []
  | some selectors => s.shown.filter (s.selects selectors)

/-- The first widget shown that has this value in its attribute `id`. -/
def findById? (s : Scene) (value : String) : Option WidgetId :=
  s.shown.find? fun id => ((s.widget? id).bind (·.attribute? "id")) == some value

end WidgetMarkup.Scene
