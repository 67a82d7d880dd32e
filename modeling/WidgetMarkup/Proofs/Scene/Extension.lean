import WidgetMarkup.Proofs.Scene.Ancestors

/-!
# Scenes that grow

A scene extends another if it has the same widgets and perhaps more: the old
ones keep their parents, their tags and their attributes, and may get further
children. Whatever can be said of an old widget by looking out from it is
then said as before. Its way out is the same, for the parent of an old widget
is an old widget, so it is shown if it was shown, and a selector that
selected it still does.
-/

namespace WidgetMarkup.Scene

/-- **The scene `t` extends `s`.** -/
structure Extends (s t : Scene) : Prop where
  /-- There are at least the old widgets. -/
  nextId_le : s.nextId ≤ t.nextId
  /-- An old widget stands where it stood. -/
  parent? : ∀ id, id < s.nextId → t.parent? id = s.parent? id
  /-- To a selector an old widget is what it was. -/
  element : ∀ id, id < s.nextId →
    (t.widget? id).map Widget.element = (s.widget? id).map Widget.element

/-- A selector sees no more of a widget than its element and those of its
ancestors. -/
theorem selects_eq (s : Scene) (selectors : List Selector) (id : WidgetId) :
    s.selects selectors id
      = match (s.widget? id).map Widget.element with
        | none => false
        | some e => selectors.any (·.accepts e (s.elements (s.ancestors id))) := by
  unfold selects
  cases s.widget? id <;> rfl

namespace Extends

variable {s t : Scene}

/-- **The way out of an old widget stays the same.** -/
theorem leadsOut (h : s.Extends t) (hs : s.Linked) {id : WidgetId} {l : List WidgetId}
    (hid : id < s.nextId) (hl : s.LeadsOut id l) : t.LeadsOut id l := by
  induction hl with
  | stop hp => exact .stop ((h.parent? _ hid).trans hp)
  | step hp _ ih => exact .step ((h.parent? _ hid).trans hp) (ih (hs.lt_of_parent? hp))

theorem below_iff (h : s.Extends t) (hs : s.Linked) {top id : WidgetId} (hid : id < s.nextId) :
    t.Below top id ↔ s.Below top id := by
  constructor
  · intro hb
    induction hb using Relation.TransGen.head_induction_on with
    | single hp =>
      rw [h.parent? _ hid] at hp
      exact .single hp
    | head hp _ ih =>
      rw [h.parent? _ hid] at hp
      exact .head hp (ih (hs.lt_of_parent? hp))
  · intro hb
    refine Relation.TransGen.mono (fun c p hp => ?_) id top hb
    exact (h.parent? c (lt_nextId_of_parent? hp)).trans hp

/-- An old widget is shown if it was shown. -/
theorem mem_shown_iff (h : s.Extends t) (hs : s.Linked) (ht : t.Linked) {id : WidgetId}
    (hid : id < s.nextId) : id ∈ t.shown ↔ id ∈ s.shown := by
  rw [ht.mem_shown_iff, h.below_iff hs hid, hs.mem_shown_iff]

theorem elements (h : s.Extends t) {ids : List WidgetId} (hids : ∀ id ∈ ids, id < s.nextId) :
    t.elements ids = s.elements ids := by
  unfold Scene.elements
  exact List.filterMap_congr (fun id hid => h.element id (hids id hid))

/-- **A selector selects an old widget that is shown as it did before.** -/
theorem selects (h : s.Extends t) (hs : s.Linked) (ht : t.Linked) (selectors : List Selector)
    {id : WidgetId} (hshown : id ∈ s.shown) : t.selects selectors id = s.selects selectors id := by
  have hid := hs.lt_of_mem_shown hshown
  obtain ⟨l, hl⟩ := hs.exists_leadsOut (hs.mem_shown_iff.mp hshown)
  rw [selects_eq, selects_eq, h.element id hid, hl.ancestors_eq hs hid,
    (h.leadsOut hs hid hl).ancestors_eq ht (Nat.lt_of_lt_of_le hid h.nextId_le),
    h.elements (fun x hx => hl.lt_of_mem hs hx)]

end Extends

end WidgetMarkup.Scene
