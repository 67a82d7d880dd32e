import WidgetMarkup.Scene.Query

/-!
# Edits of a scene

Whatever is done to a scene is a row of single edits: a widget is made,
moved, given an attribute, a value or a style, or a signal is counted. The
scenes that can come about in this way are the `Reachable` ones, and what is
said of scenes elsewhere is said of those.

An edit is permitted if the widgets that it names exist and if it does not
move the root. Nothing else is asked: a widget may be appended to itself or
below itself.

Most edits leave the links between widgets alone. Two scenes with the same
links are `SameLinks`, and whatever only follows links cannot tell them
apart.
-/

namespace WidgetMarkup

/-- **A single edit of a scene.** -/
inductive Edit where
  /-- Makes a widget for a tag. -/
  | create (tag : String)
  /-- Moves a widget to the end of the children of another. -/
  | append (parent child : WidgetId)
  /-- Sets an attribute. -/
  | setAttribute (id : WidgetId) (name value : String)
  /-- Sets a value. -/
  | setValue (id : WidgetId) (value : String)
  /-- Overrides a style. -/
  | mergeStyle (id : WidgetId) (properties : Style.Properties)
  /-- Counts a signal. -/
  | signal

namespace Scene

/-- The scene after an edit. -/
def perform (s : Scene) : Edit → Scene
  | .create tag => s.create tag
  | .append parent child => s.append parent child
  | .setAttribute id name value => s.setAttribute id name value
  | .setValue id value => s.setValue id value
  | .mergeStyle id properties => s.mergeStyle id properties
  | .signal => s.signal

/-- **What may be done to a scene**: the widgets named exist, and the root
stays where it is. -/
def Permits (s : Scene) : Edit → Prop
  | .create _ => True
  | .append parent child => parent < s.nextId ∧ child < s.nextId ∧ child ≠ root
  | .setAttribute id _ _ => id < s.nextId
  | .setValue id _ => id < s.nextId
  | .mergeStyle id _ => id < s.nextId
  | .signal => True

instance (s : Scene) : DecidablePred s.Permits := fun e => by
  cases e <;> unfold Permits <;> infer_instance

/-- **The scenes that come about**: the new one, and any that a permitted
edit makes of another. -/
inductive Reachable : Scene → Prop where
  /-- The scene with the root only. -/
  | new : Reachable Scene.new
  /-- One edit more. -/
  | perform {s : Scene} {e : Edit} : Reachable s → s.Permits e → Reachable (s.perform e)

namespace Reachable

variable {s : Scene}

theorem create (h : s.Reachable) (tag : String) : (s.create tag).Reachable :=
  h.perform (e := .create tag) trivial

theorem append (h : s.Reachable) {p c : WidgetId} (hp : p < s.nextId) (hc : c < s.nextId)
    (hroot : c ≠ root) : (s.append p c).Reachable :=
  h.perform (e := .append p c) ⟨hp, hc, hroot⟩

theorem setAttribute (h : s.Reachable) {id : WidgetId} (hid : id < s.nextId)
    (name value : String) : (s.setAttribute id name value).Reachable :=
  h.perform (e := .setAttribute id name value) hid

theorem setValue (h : s.Reachable) {id : WidgetId} (hid : id < s.nextId) (value : String) :
    (s.setValue id value).Reachable :=
  h.perform (e := .setValue id value) hid

theorem mergeStyle (h : s.Reachable) {id : WidgetId} (hid : id < s.nextId)
    (properties : Style.Properties) : (s.mergeStyle id properties).Reachable :=
  h.perform (e := .mergeStyle id properties) hid

theorem signal (h : s.Reachable) : s.signal.Reachable :=
  h.perform (e := .signal) trivial

end Reachable

/-! ## Which widgets exist -/

theorem widget?_eq_some_of_lt {s : Scene} {id : WidgetId} (h : id < s.nextId) :
    ∃ w, s.widget? id = some w :=
  ⟨s.widgets[id], Array.getElem?_eq_getElem h⟩

theorem lt_nextId_of_widget? {s : Scene} {id : WidgetId} {w : Widget}
    (h : s.widget? id = some w) : id < s.nextId :=
  (Array.getElem?_eq_some_iff.mp h).1

theorem widget?_eq_none_iff {s : Scene} {id : WidgetId} :
    s.widget? id = none ↔ s.nextId ≤ id :=
  Array.getElem?_eq_none_iff

/-- **A scene is what it holds**: the widgets by number, and the count of
signals. -/
theorem ext_widget? {s t : Scene} (hw : ∀ id, s.widget? id = t.widget? id)
    (hf : s.flushes = t.flushes) : s = t := by
  obtain ⟨ws, n⟩ := s
  obtain ⟨vs, m⟩ := t
  have h : ws = vs := Array.ext_getElem? hw
  subst h
  exact congrArg (Scene.mk ws) hf

/-! ## Reading links off widgets -/

theorem children_of_widget? {s : Scene} {id : WidgetId} {w : Widget}
    (h : s.widget? id = some w) : s.children id = w.children := by
  rw [children, h]

theorem parent?_of_widget? {s : Scene} {id : WidgetId} {w : Widget}
    (h : s.widget? id = some w) : s.parent? id = w.parent := by
  rw [parent?, h]
  rfl

theorem children_of_nextId_le {s : Scene} {id : WidgetId} (h : s.nextId ≤ id) :
    s.children id = [] := by
  rw [children, widget?_eq_none_iff.mpr h]

theorem parent?_of_nextId_le {s : Scene} {id : WidgetId} (h : s.nextId ≤ id) :
    s.parent? id = none := by
  rw [parent?, widget?_eq_none_iff.mpr h]
  rfl

/-- Only a widget that exists has a parent. -/
theorem lt_nextId_of_parent? {s : Scene} {id p : WidgetId} (h : s.parent? id = some p) :
    id < s.nextId := by
  obtain ⟨w, hw, -⟩ := Option.bind_eq_some_iff.mp h
  exact lt_nextId_of_widget? hw

/-- Only a widget that exists has children. -/
theorem lt_nextId_of_mem_children {s : Scene} {id c : WidgetId} (h : c ∈ s.children id) :
    id < s.nextId := by
  refine Nat.not_le.mp fun hle => ?_
  rw [children_of_nextId_le hle] at h
  exact List.not_mem_nil h

/-! ## Scenes with the same links -/

/-- **The same widgets, linked in the same way.** -/
structure SameLinks (s t : Scene) : Prop where
  /-- As many widgets. -/
  nextId : s.nextId = t.nextId
  /-- The same parents. -/
  parent? : ∀ id, s.parent? id = t.parent? id
  /-- The same children. -/
  children : ∀ id, s.children id = t.children id

/-- A change of a widget that touches neither its parent nor its children
touches no link. -/
theorem sameLinks_update (s : Scene) (id : WidgetId) {f : Widget → Widget}
    (hp : ∀ w, (f w).parent = w.parent) (hc : ∀ w, (f w).children = w.children) :
    SameLinks (s.update id f) s where
  nextId := nextId_update s id f
  parent? x := by
    unfold parent?
    rw [widget?_update]
    cases s.widget? x <;> by_cases h : id = x <;> simp [h, hp]
  children x := by
    unfold children
    rw [widget?_update]
    cases s.widget? x <;> by_cases h : id = x <;> simp [h, hc]

theorem sameLinks_setAttribute (s : Scene) (id : WidgetId) (name value : String) :
    SameLinks (s.setAttribute id name value) s :=
  sameLinks_update s id (fun _ => rfl) (fun _ => rfl)

theorem sameLinks_setValue (s : Scene) (id : WidgetId) (value : String) :
    SameLinks (s.setValue id value) s := by
  refine sameLinks_update s id (fun w => ?_) (fun w => ?_)
  all_goals
    unfold Widget.setValue
    split <;> rfl

theorem sameLinks_mergeStyle (s : Scene) (id : WidgetId) (properties : Style.Properties) :
    SameLinks (s.mergeStyle id properties) s :=
  sameLinks_update s id (fun _ => rfl) (fun _ => rfl)

theorem sameLinks_signal (s : Scene) : SameLinks s.signal s where
  nextId := rfl
  parent? _ := rfl
  children _ := rfl

end Scene

end WidgetMarkup
