import WidgetMarkup.Proofs.Page.Bare
import WidgetMarkup.Proofs.Page.NewWidget

/-!
# Building does not see styles

Two pages in the making are alike if their scenes differ in styles only and
their books are equal. What is built into them makes them no less alike:
building looks at the number of widgets and at nothing that they look like.
So it makes no difference to what is built next whether the rules met so far
have been applied.
-/

namespace WidgetMarkup.Construction

/-- **Two pages in the making differ in styles only**, and perhaps in what
was counted. -/
structure Alike (c c' : Construction) : Prop where
  /-- The scenes are the same without styles. -/
  bare : c.scene.bare = c'.scene.bare
  /-- The books are the same. -/
  book : c.book = c'.book

namespace Alike

variable {c c' : Construction}

theorem nextId (h : c.Alike c') : c.scene.nextId = c'.scene.nextId := by
  rw [← Scene.nextId_bare c.scene, h.bare, Scene.nextId_bare]

theorem addWidget (h : c.Alike c') (p : WidgetId) (tag : String)
    (attributes : List (String × String)) :
    (c.addWidget p tag attributes).Alike (c'.addWidget p tag attributes) where
  bare := by
    have hbare : ∀ c : Construction, (c.addWidget p tag attributes).scene.bare
        = ((c.scene.bare.create tag).append p c.scene.nextId).update c.scene.nextId
            (Widget.setAttributes attributes) := by
      intro c
      rw [scene_addWidget, ← Scene.bare_create, ← Scene.bare_append]
      exact Scene.bare_update _ _ (fun _ => rfl)
    rw [hbare, hbare, h.bare, h.nextId]
  book := h.book

theorem setValue (h : c.Alike c') (id : WidgetId) (value : Option String) :
    (c.setValue id value).Alike (c'.setValue id value) := by
  cases value with
  | none => exact h
  | some value =>
    refine ⟨?_, h.book⟩
    show (c.scene.setValue id value).bare = (c'.scene.setValue id value).bare
    rw [Scene.bare_setValue, h.bare, Scene.bare_setValue]

theorem addSheet (h : c.Alike c') (text : Option String) :
    (c.addSheet text).Alike (c'.addSheet text) := by
  cases text with
  | none => exact h
  | some text => exact ⟨h.bare, congrArg (·.addSheet text) h.book⟩

theorem signal (h : c.Alike c') : c.signal.Alike c'.signal :=
  ⟨congrArg Scene.signal h.bare, h.book⟩

mutual

theorem build (roles : TagRoles) (p : WidgetId) {c c' : Construction} (h : c.Alike c') (n : Node) :
    (build roles p c n).Alike (build roles p c' n) := by
  match n with
  | .text _ => exact h
  | .comment _ => exact h
  | .element tag attributes children =>
    rw [Construction.build, Construction.build]
    cases roles.role tag with
    | style => exact h.addSheet _
    | flush => exact h.signal
    | leaf =>
      dsimp only
      rw [h.nextId]
      exact (h.addWidget p tag attributes).setValue _ _
    | container =>
      dsimp only
      rw [h.nextId]
      exact buildAll roles _ (h.addWidget p tag attributes) children

/-- **What is built into pages that are alike leaves them alike.** -/
theorem buildAll (roles : TagRoles) (p : WidgetId) {c c' : Construction} (h : c.Alike c')
    (row : List Node) : (buildAll roles p c row).Alike (buildAll roles p c' row) := by
  match row with
  | [] => exact h
  | n :: more =>
    rw [Construction.buildAll, Construction.buildAll]
    exact buildAll roles p (build roles p h n) more

end

end Alike

/-- Building one row after another is building one long row. -/
theorem buildAll_append (roles : TagRoles) (p : WidgetId) (c : Construction)
    (row more : List Node) :
    buildAll roles p c (row ++ more) = buildAll roles p (buildAll roles p c row) more := by
  induction row generalizing c with
  | nil => rw [List.nil_append, buildAll]
  | cons n row ih => rw [List.cons_append, buildAll, buildAll, ih]

end WidgetMarkup.Construction
