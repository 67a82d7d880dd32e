import WidgetMarkup.Scene.Query

/-!
# The outline of a scene

A scene is shown to a reader as an outline: a line for each widget that is
shown, with everything below a widget indented under it by two spaces more.
The outline follows the children lists downward. It is given a depth that it
may reach, and answers nothing where that does not suffice; below the root
nothing lies deeper than there are widgets.
-/

namespace WidgetMarkup.Scene

/-- Two spaces for each level. -/
def indentation (depth : Nat) : String :=
  String.ofList (List.replicate (2 * depth) ' ')

/-- The line of a widget at a depth, with its line end. -/
def outlineLine (depth : Nat) (w : Widget) : String :=
  indentation depth ++ w.line ++ "\n"

/-- The line of a widget and the lines of all that is below it, if no more
levels are needed than allowed. -/
def linesOf? (s : Scene) : Nat → Nat → WidgetId → Option (List String)
  | 0, _, _ => none
  | levels + 1, depth, id =>
    match s.widget? id with
    | none => some []
    | some w =>
      (w.children.mapM (s.linesOf? levels (depth + 1))).map fun below =>
        outlineLine depth w :: below.flatten

/-- The lines of what is shown, if they have an end. -/
def lines? (s : Scene) : Option (List String) :=
  ((s.children root).mapM (s.linesOf? s.widgets.size 0)).map List.flatten

/-- **The outline of what is shown.** -/
def outline (s : Scene) : String :=
  String.join (s.lines?.getD [])

/-- What is below a widget is indented, and what is attached to nothing is
not shown. -/
example :
    ((((new.create "panel").create "text").create "img").append root 1 |>.append 1 2
      |>.setValue 2 "hi").outline = "<panel>\n  <text> \"hi\"\n" := by
  decide +kernel

/-- A widget attached below itself is no longer shown. -/
example :
    ((((new.create "a").create "b").append root 1).append 1 2 |>.append 2 1).outline
      = "" := by
  decide +kernel

end WidgetMarkup.Scene
