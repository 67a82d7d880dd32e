import WidgetMarkup.Page.RuleBook
import WidgetMarkup.Proofs.Scene.Redrawing

/-!
# Scenes without their styles

A rule looks at tags, attributes and links, and changes styles. To say that
it never sees what it changes, a scene is taken without its styles:
`Scene.bare`. What is shown, the ancestors of a widget and the answers to
queries are all read off the bare scene, and merging a style leaves the bare
scene as it is. So every rule of a book meets the widgets that it would have
met before the first of them was applied.

Making a scene bare also goes past every edit that is not about styles: it
makes no difference whether a widget is made, moved or given an attribute
before or after the styles are taken off.
-/

namespace WidgetMarkup

/-- The widget without its style. -/
def Widget.bare (w : Widget) : Widget :=
  { w with style := .empty }

namespace Scene

/-- **The scene without its styles.** -/
def bare (s : Scene) : Scene :=
  { s with widgets := s.widgets.map Widget.bare }

@[simp]
theorem widget?_bare (s : Scene) (id : WidgetId) :
    s.bare.widget? id = (s.widget? id).map Widget.bare :=
  widget?_mapWidgets Widget.bare s id

@[simp]
theorem nextId_bare (s : Scene) : s.bare.nextId = s.nextId :=
  nextId_mapWidgets Widget.bare s

@[simp]
theorem flushes_bare (s : Scene) : s.bare.flushes = s.flushes :=
  flushes_mapWidgets Widget.bare s

/-- **A scene is its bare scene and its styles.** -/
theorem eq_of_bare {s t : Scene} (h : s.bare = t.bare)
    (hstyle : ∀ id w v, s.widget? id = some w → t.widget? id = some v → w.style = v.style) :
    s = t := by
  have hflushes : s.flushes = t.flushes := by
    rw [← flushes_bare, h, flushes_bare]
  refine ext_widget? (fun id => ?_) hflushes
  have hwidget : (s.widget? id).map Widget.bare = (t.widget? id).map Widget.bare := by
    rw [← widget?_bare, h, widget?_bare]
  cases hw : s.widget? id with
  | none =>
    rw [hw, Option.map_none] at hwidget
    exact (Option.map_eq_none_iff.mp hwidget.symm).symm
  | some w =>
    rw [hw, Option.map_some] at hwidget
    obtain ⟨v, hv, hbare⟩ := Option.map_eq_some_iff.mp hwidget.symm
    rw [hv, Option.some.injEq]
    calc w = { w.bare with style := w.style } := rfl
      _ = { v.bare with style := v.style } := by rw [hbare, hstyle id w v hw hv]
      _ = v := rfl

/-! ## What is read off the bare scene -/

theorem keepsLinks_bare : KeepsLinks Widget.bare where
  parent _ _ := rfl
  children _ _ := rfl

/-- **A query does not see styles.** -/
theorem query_bare (s : Scene) (text : String) : s.bare.query text = s.query text :=
  query_mapWidgets keepsLinks_bare (g := id) (fun _ => rfl)
    (fun selector e chain => by rw [List.map_id, id]) s text

/-! ## Edits of the bare scene -/

/-- A change of a widget may be made before or after styles are taken off,
if it does not matter to the widget. -/
theorem bare_update (s : Scene) (id : WidgetId) {f g : Widget → Widget}
    (h : ∀ w, (f w).bare = g w.bare) : (s.update id f).bare = s.bare.update id g :=
  mapWidgets_update s id h

theorem bare_create (s : Scene) (tag : String) : (s.create tag).bare = s.bare.create tag :=
  mapWidgets_create s rfl

theorem bare_append (s : Scene) (p c : WidgetId) : (s.append p c).bare = s.bare.append p c :=
  mapWidgets_append keepsLinks_bare s p c

theorem bare_setValue (s : Scene) (id : WidgetId) (value : String) :
    (s.setValue id value).bare = s.bare.setValue id value := by
  refine bare_update s id (fun w => ?_)
  unfold Widget.setValue
  rw [apply_ite Widget.bare]
  rfl

/-- **Merging a style leaves the bare scene as it is.** -/
theorem bare_mergeStyle (s : Scene) (id : WidgetId) (properties : Style.Properties) :
    (s.mergeStyle id properties).bare = s.bare :=
  mapWidgets_update_eq s id (fun _ => rfl)

end Scene

end WidgetMarkup
