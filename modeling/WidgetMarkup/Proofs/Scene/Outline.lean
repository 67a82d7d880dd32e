import Mathlib.Data.List.Forall2
import WidgetMarkup.Proofs.Scene.Answers
import WidgetMarkup.Scene.Outline

/-!
# The outline follows the document order

The outline is written downward, from a widget to its children one level deeper,
and the depth is handed down on the way. What is shown is listed by a walk that
knows nothing of depths. Both go through the same widgets in the same order: the
outline is a line for each widget shown, and the depth at which a line stands is
how far the widget is from the root (`Outlines`).

The two meet in `ReadsAs`, by induction on how a row reads. A row of siblings at
some depth has one parent, and the way out from this parent is as long as the
row is deep; one level further down this way is longer by the parent. Because a
way out passes no widget twice, the levels that the outline allows for are never
used up.
-/

namespace WidgetMarkup.Scene

variable {s : Scene}

/-- **The line of a widget in the outline**: two spaces for each step on its way
out but the last, which comes to the root; the tag with its attributes in
order; the value in quotes, if there is one; the style in braces, if there is
one, its names in order; and the end of the line. -/
def Outlines (s : Scene) (id : WidgetId) (line : String) : Prop :=
  ∃ w way, s.widget? id = some w ∧ s.LeadsOut id way ∧ way.getLast? = some root
    ∧ w.style.entries.Pairwise (fun a b => a.1 < b.1)
    ∧ line = String.join (List.replicate (way.length - 1) "  ")
        ++ ("<" ++ w.tag
          ++ String.join (w.attributes.map fun a => " " ++ a.1 ++ "=\"" ++ a.2 ++ "\"") ++ ">")
        ++ w.value.elim "" (fun value => " " ++ Text.quoted value)
        ++ (if w.style.entries = [] then ""
          else " \x7b" ++ "; ".intercalate (w.style.entries.map fun p => p.1 ++ ": " ++ p.2)
            ++ "\x7d")
        ++ "\n"

/-- Two spaces for each level. -/
theorem indentation_eq_join (depth : Nat) :
    indentation depth = String.join (List.replicate depth "  ") := by
  have hspaces : List.replicate (2 * depth) ' ' = (List.replicate depth [' ', ' ']).flatten := by
    rw [show [' ', ' '] = List.replicate 2 ' ' from rfl, List.flatten_replicate_replicate,
      Nat.mul_comm]
  rw [indentation, hspaces]
  apply String.toList_injective
  simp [List.flatMap_def]

theorem outlines_outlineLine {id p : WidgetId} {way : List WidgetId} {w : Widget}
    (hw : s.widget? id = some w) (hout : s.LeadsOut id (p :: way))
    (hlast : (p :: way).getLast? = some root) : s.Outlines id (outlineLine way.length w) := by
  refine ⟨w, p :: way, hw, hout, hlast, w.style.sorted, ?_⟩
  unfold outlineLine Widget.line Style.Properties.render
  rw [indentation_eq_join]
  cases w.value <;> cases w.style.entries <;> simp [String.append_assoc]

/-- **A row of siblings is written line for line**, with all that is below them,
at the depth of its parent's way out. -/
theorem ReadsAs.exists_lines (hs : s.Linked) {row l : List WidgetId} (h : s.ReadsAs row l)
    {p : WidgetId} {way : List WidgetId} {levels : Nat}
    (hrow : ∀ id ∈ row, s.parent? id = some p) (hout : s.LeadsOut p way)
    (hlast : (p :: way).getLast? = some root) (hlevels : s.widgets.size ≤ levels + way.length) :
    ∃ parts, row.mapM (s.linesOf? levels way.length) = some parts
      ∧ List.Forall₂ s.Outlines l parts.flatten := by
  induction h generalizing p way levels with
  | nil => exact ⟨[], rfl, .nil⟩
  | @cons id row below after _ _ ihbelow ihafter =>
    obtain ⟨hid, hrow'⟩ := List.forall_mem_cons.mp hrow
    have hout' : s.LeadsOut id (p :: way) := .step hid hout
    obtain ⟨w, hw⟩ := widget?_eq_some_of_lt (lt_nextId_of_parent? hid)
    have hlength := hout'.length_lt hs (lt_nextId_of_parent? hid)
    -- the way out is shorter than there are widgets, so a level is left
    obtain ⟨levels, rfl⟩ : ∃ n, levels = n + 1 :=
      Nat.exists_eq_add_one.mpr (by rw [List.length_cons] at hlength; omega)
    have hdeep : s.widgets.size ≤ levels + (p :: way).length := by
      rw [List.length_cons]
      omega
    obtain ⟨inside, hinside, hbelow⟩ := ihbelow
      (fun c hc => (hs.mem_children_iff id c).mp hc) hout' (by rwa [List.getLast?_cons_cons]) hdeep
    obtain ⟨parts, hparts, hafter⟩ := ihafter hrow' hout hlast hlevels
    have hhead : s.linesOf? (levels + 1) way.length id
        = some (outlineLine way.length w :: inside.flatten) := by
      rw [children_of_widget? hw, List.length_cons] at hinside
      simp only [linesOf?, hw, hinside, Option.map_some]
    refine ⟨(outlineLine way.length w :: inside.flatten) :: parts, ?_, ?_⟩
    · rw [List.mapM_cons, hhead, hparts]
      rfl
    · rw [List.flatten_cons, List.cons_append]
      exact .cons (outlines_outlineLine hw hout' hlast) (List.rel_append hbelow hafter)

/-- **The outline is what is shown, line for line.** Let `l` be what is shown, in
document order. The outline has an end, and it is a row of lines one after
another, of which the first stands for the first widget of `l`, the second for
the second, and so on to the last. Each line is what `Outlines` says. In `l` is
every widget whose parents lead to the root, once, and no other. -/
theorem outline_eq_join_lines (h : s.Reachable) :
    ∃ l lines, s.descendants? root = some l ∧ s.lines? = some lines
      ∧ s.outline = String.join lines ∧ List.Forall₂ s.Outlines l lines
      ∧ l.Nodup ∧ ∀ id, id ∈ l ↔ s.Below root id := by
  have hs := h.linked
  obtain ⟨parts, hparts, hlines⟩ := hs.readsAs_shown.exists_lines hs
    (fun id hid => (hs.mem_children_iff root id).mp hid) (.stop hs.parent?_root) rfl
    (Nat.le_add_right s.widgets.size _)
  have hall : s.lines? = some parts.flatten := by
    rw [lines?, ← List.length_nil (α := WidgetId), hparts]
    rfl
  refine ⟨s.shown, parts.flatten, hs.descendants?_root, hall, ?_, hlines, hs.nodup_shown,
    fun _ => hs.mem_shown_iff⟩
  rw [outline, hall, Option.getD_some]

/-- A view that is shown with a text in it, and a loop beside them. -/
def labelled : Scene :=
  ((besideLoop.setAttribute 2 "id" "a").setValue 2 "it's \"b\"").mergeStyle 2
    (.ofEntries [("margin", "0"), ("color", "red")])

theorem reachable_labelled : labelled.Reachable :=
  ((reachable_besideLoop.setAttribute (by decide) "id" "a").setValue (by decide) _).mergeStyle
    (by decide) _

/-- The text is one level deeper than the view, and the widgets on the loop have
no lines. -/
theorem outline_eq_join_lines_labelled :
    labelled.Reachable
      ∧ List.Forall₂ labelled.Outlines [1, 2]
          ["<view>\n", "  <text id=\"a\"> \"it's \\\"b\\\"\" \x7bcolor: red; margin: 0\x7d\n"]
      ∧ ¬ labelled.Below root 3 ∧ ¬ labelled.Below root 4 := by
  obtain ⟨l, lines, hl, hlines, -, hall, -, hmem⟩ := outline_eq_join_lines reachable_labelled
  have hshown : labelled.descendants? root = some [1, 2] := by decide +kernel
  have hwritten : labelled.lines? = some
      ["<view>\n", "  <text id=\"a\"> \"it's \\\"b\\\"\" \x7bcolor: red; margin: 0\x7d\n"] := by
    decide +kernel
  rw [hshown, Option.some.injEq] at hl
  rw [hwritten, Option.some.injEq] at hlines
  subst hl hlines
  exact ⟨reachable_labelled, hall, fun h => absurd ((hmem 3).mpr h) (by decide),
    fun h => absurd ((hmem 4).mpr h) (by decide)⟩

end WidgetMarkup.Scene
