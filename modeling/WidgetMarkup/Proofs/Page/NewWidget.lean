import WidgetMarkup.Page.Build
import WidgetMarkup.Proofs.Scene.Links

/-!
# A new widget of a page

A container and a leaf become a widget in the same way: it is made, put at
the end of the children of its parent, and gets its attributes one after
another. Here this is one change of the scene, said widget by widget. Setting
attributes one after another keeps the first place and the last value of each
name (`settle`), so attributes with different names stay as they are.
-/

namespace WidgetMarkup

/-- The attributes that a widget ends up with when these are set one after
another. -/
def settle (attributes : List (String × String)) : List (String × String) :=
  attributes.foldl (fun entries (name, value) => setEntry name value entries) []

/-- The widget with these attributes set, one after another. -/
def Widget.setAttributes (attributes : List (String × String)) (w : Widget) : Widget :=
  { w with
    attributes := attributes.foldl
      (fun entries (name, value) => setEntry name value entries) w.attributes }

/-- Setting an entry of a new name adds it at the end. -/
theorem setEntry_of_notMem {name value : String} {entries : List (String × String)}
    (h : name ∉ entries.map Prod.fst) :
    setEntry name value entries = entries ++ [(name, value)] := by
  induction entries with
  | nil => rfl
  | cons entry more ih =>
    obtain ⟨n, v⟩ := entry
    rw [List.map_cons, List.mem_cons, not_or] at h
    rw [setEntry, if_neg (Ne.symm h.1), ih h.2]
    rfl

/-- **Attributes with different names stay as they are.** -/
theorem settle_of_nodup {attributes : List (String × String)}
    (h : (attributes.map Prod.fst).Nodup) : settle attributes = attributes := by
  -- what is set before stands in front, and the rest has no name of it
  have key : ∀ rest before : List (String × String), ((before ++ rest).map Prod.fst).Nodup →
      rest.foldl (fun entries (name, value) => setEntry name value entries) before
        = before ++ rest := by
    intro rest
    induction rest with
    | nil => exact fun before _ => (List.append_nil before).symm
    | cons entry rest ih =>
      intro before hnodup
      obtain ⟨name, value⟩ := entry
      have hfresh : name ∉ before.map Prod.fst := by
        rw [List.map_append, List.map_cons] at hnodup
        intro hmem
        exact (List.nodup_append.mp hnodup).2.2 name hmem name List.mem_cons_self rfl
      rw [List.foldl_cons]
      show rest.foldl _ (setEntry name value before) = _
      rw [setEntry_of_notMem hfresh, ih _ (by rwa [List.append_assoc]), List.append_assoc]
      rfl
  exact key attributes [] h

namespace Scene

theorem update_update (s : Scene) (id : WidgetId) (f g : Widget → Widget) :
    (s.update id f).update id g = s.update id (g ∘ f) := by
  refine ext_widget? (fun x => ?_) rfl
  rw [widget?_update, widget?_update, widget?_update]
  split
  · rw [Option.map_map]
  · rfl

/-- Setting attributes one after another is one change of the widget. -/
theorem foldl_setAttribute (s : Scene) (id : WidgetId) (attributes : List (String × String)) :
    attributes.foldl (fun s (name, value) => s.setAttribute id name value) s
      = s.update id (Widget.setAttributes attributes) := by
  induction attributes generalizing s with
  | nil =>
    refine ext_widget? (fun x => ?_) rfl
    rw [List.foldl_nil, widget?_update]
    cases s.widget? x <;> simp [Widget.setAttributes]
  | cons entry more ih =>
    rw [List.foldl_cons, ih]
    exact update_update s id _ _

theorem Reachable.foldl_setAttribute {s : Scene} (h : s.Reachable) {id : WidgetId}
    (hid : id < s.nextId) (attributes : List (String × String)) :
    (attributes.foldl (fun s (name, value) => s.setAttribute id name value) s).Reachable := by
  induction attributes generalizing s with
  | nil => exact h
  | cons entry more ih =>
    exact ih (h.setAttribute hid entry.1 entry.2) (by rwa [(sameLinks_setAttribute s id _ _).nextId])

end Scene

namespace Construction

variable {c : Construction} {p : WidgetId}

theorem scene_addWidget (c : Construction) (p : WidgetId) (tag : String)
    (attributes : List (String × String)) :
    (c.addWidget p tag attributes).scene
      = ((c.scene.create tag).append p c.scene.nextId).update c.scene.nextId
          (Widget.setAttributes attributes) :=
  Scene.foldl_setAttribute _ _ attributes

/-- **A new widget** stands at the end of the children of its parent, and
nothing else changes. -/
theorem widget?_addWidget (hs : c.scene.Linked) (hp : p < c.scene.nextId) (tag : String)
    (attributes : List (String × String)) (x : WidgetId) :
    (c.addWidget p tag attributes).scene.widget? x
      = if x = c.scene.nextId then
          some { Widget.ofTag tag with attributes := settle attributes, parent := some p }
        else (c.scene.widget? x).map fun w =>
          { w with children := w.children ++ if p = x then [c.scene.nextId] else [] } := by
  rw [scene_addWidget, Scene.widget?_update, Scene.widget?_append (hs.create tag),
    Scene.widget?_create]
  by_cases hx : x = c.scene.nextId
  · subst hx
    have hne : p ≠ c.scene.nextId := Nat.ne_of_lt hp
    simp [hne, Widget.ofTag, Widget.setAttributes, settle]
  · rw [if_neg hx, if_neg hx, if_neg (Ne.symm hx)]
    cases hw : c.scene.widget? x with
    | none => rfl
    | some w =>
      have hfilter : w.children.filter (· != c.scene.nextId) = w.children := by
        rw [← Scene.children_of_widget? hw]
        refine hs.filter_children ?_
        rw [Scene.parent?_of_nextId_le (Nat.le_refl _)]
        exact (Option.some_ne_none x).symm
      simp [Ne.symm hx, hfilter]

theorem nextId_addWidget (c : Construction) (p : WidgetId) (tag : String)
    (attributes : List (String × String)) :
    (c.addWidget p tag attributes).scene.nextId = c.scene.nextId + 1 := by
  rw [scene_addWidget, Scene.nextId_update, Scene.nextId_append, Scene.nextId_create]

theorem flushes_addWidget (c : Construction) (p : WidgetId) (tag : String)
    (attributes : List (String × String)) :
    (c.addWidget p tag attributes).scene.flushes = c.scene.flushes := by
  rw [scene_addWidget, Scene.flushes_update, Scene.flushes_append]
  rfl

theorem reachable_addWidget (h : c.scene.Reachable) (hp : p < c.scene.nextId) (tag : String)
    (attributes : List (String × String)) : (c.addWidget p tag attributes).scene.Reachable := by
  have hlt : c.scene.nextId < (c.scene.create tag).nextId := by
    rw [Scene.nextId_create]
    exact Nat.lt_succ_self _
  refine ((h.create tag).append (Nat.lt_trans hp hlt) hlt ?_).foldl_setAttribute ?_ attributes
  · exact Nat.ne_of_gt h.linked.root_lt
  · rwa [Scene.nextId_append]

end Construction

end WidgetMarkup
