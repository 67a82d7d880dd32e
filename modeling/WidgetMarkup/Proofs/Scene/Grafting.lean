import WidgetMarkup.Proofs.Scene.Extension

/-!
# Scenes side by side under one root

Two scenes are put side by side under one root by counting on: the widgets of
the second get the numbers after those of the first, and its topmost widgets
become the last children of the root. `Grafts s u t` says that `t` is `s` with
`u` put beside it in this way. Nothing is said of how the widgets of `s` look,
and nothing needs to be: whatever is found by looking out from a widget of `u`
is in `u`, or is the root. So the ancestors of these widgets are the same but
for their numbers, a selector that selects one in `u` selects it in `t`, and
what is shown is what `s` shows and then what `u` shows.
-/

namespace WidgetMarkup

namespace Scene

/-- **The number that a widget gets** when it is put beside `k` others. The
root is the root everywhere. -/
def shift (k : Nat) (id : WidgetId) : WidgetId :=
  if id = root then root else id + k

@[simp]
theorem shift_root (k : Nat) : shift k root = root := if_pos rfl

theorem shift_of_ne_root (k : Nat) {id : WidgetId} (h : id ≠ root) : shift k id = id + k :=
  if_neg h

theorem shift_ne_root (k : Nat) {id : WidgetId} (h : id ≠ root) : shift k id ≠ root := by
  rw [shift_of_ne_root k h]
  exact Nat.ne_of_gt (Nat.add_pos_left (Nat.pos_of_ne_zero h) k)

/-- Different widgets get different numbers. -/
theorem shift_injective (k : Nat) : Function.Injective (shift k) := by
  intro a b h
  by_cases ha : a = root <;> by_cases hb : b = root
  · rw [ha, hb]
  · rw [ha, shift_root] at h
    exact absurd h.symm (shift_ne_root k hb)
  · rw [hb, shift_root] at h
    exact absurd h (shift_ne_root k ha)
  · rw [shift_of_ne_root k ha, shift_of_ne_root k hb] at h
    exact Nat.add_right_cancel h

end Scene

/-- The widget with other numbers for those that it is linked to. -/
def Widget.renumber (f : WidgetId → WidgetId) (w : Widget) : Widget :=
  { w with parent := w.parent.map f, children := w.children.map f }

namespace Scene

/-- **The scene `t` is `s` with `u` put beside it**, as far as can be seen from
the widgets of `u`. -/
structure Grafts (s u t : Scene) : Prop where
  /-- There are the widgets of both, with one root. -/
  nextId : t.nextId = u.nextId + s.count
  /-- The first widgets keep their children. -/
  old : ∀ id, id < s.nextId → id ≠ root → t.children id = s.children id
  /-- The widgets of `u` are there, with other numbers. -/
  new : ∀ id, id ≠ root →
    t.widget? (shift s.count id) = (u.widget? id).map (Widget.renumber (shift s.count))
  /-- To a selector the root is what it is in `u`. -/
  element_root : (t.widget? root).map Widget.element = (u.widget? root).map Widget.element
  /-- The topmost widgets of both stand under the root. -/
  children_root : t.children root = s.children root ++ (u.children root).map (shift s.count)

/-- There is a root besides what is counted. -/
theorem Linked.nextId_eq {s : Scene} (hs : s.Linked) : s.nextId = s.count + 1 :=
  (Nat.sub_add_cancel (Nat.succ_le_of_lt hs.root_lt)).symm

theorem Linked.ne_root_of_mem_children {s : Scene} (hs : s.Linked) {p c : WidgetId}
    (hc : c ∈ s.children p) : c ≠ root := by
  rintro rfl
  rw [hs.mem_children_iff, hs.parent?_root] at hc
  cases hc

namespace Grafts

variable {s u t : Scene}

/-- Both are counted, and the root is not. -/
theorem count (h : s.Grafts u t) (hu : u.Linked) (ht : t.Linked) :
    t.count = s.count + u.count := by
  have hnextId := h.nextId
  rw [ht.nextId_eq, hu.nextId_eq, Nat.add_right_comm] at hnextId
  exact (Nat.add_right_cancel hnextId).trans (Nat.add_comm _ _)

/-! ## Looking out from a new widget -/

theorem parent? (h : s.Grafts u t) (hu : u.Linked) (ht : t.Linked) (id : WidgetId) :
    t.parent? (shift s.count id) = (u.parent? id).map (shift s.count) := by
  by_cases hid : id = root
  · rw [hid, shift_root, ht.parent?_root, hu.parent?_root]
    rfl
  · unfold Scene.parent?
    rw [h.new id hid]
    cases u.widget? id <;> rfl

theorem element (h : s.Grafts u t) (id : WidgetId) :
    (t.widget? (shift s.count id)).map Widget.element = (u.widget? id).map Widget.element := by
  by_cases hid : id = root
  · rw [hid, shift_root, h.element_root]
  · rw [h.new id hid, Option.map_map]
    rfl

/-- **The way out of a new widget** is the same but for the numbers. -/
theorem leadsOut (h : s.Grafts u t) (hu : u.Linked) (ht : t.Linked) {id : WidgetId}
    {l : List WidgetId} (hl : u.LeadsOut id l) :
    t.LeadsOut (shift s.count id) (l.map (shift s.count)) := by
  induction hl with
  | stop hp =>
    refine .stop ?_
    rw [h.parent? hu ht, hp]
    rfl
  | step hp _ ih =>
    refine .step ?_ ih
    rw [h.parent? hu ht, hp]
    rfl

theorem elements (h : s.Grafts u t) (ids : List WidgetId) :
    t.elements (ids.map (shift s.count)) = u.elements ids := by
  unfold Scene.elements
  rw [List.filterMap_map]
  exact List.filterMap_congr (fun id _ => h.element id)

/-- A new widget exists. -/
theorem shift_lt (h : s.Grafts u t) {id : WidgetId} (hid : id < u.nextId) :
    shift s.count id < t.nextId := by
  rw [h.nextId]
  by_cases hroot : id = root
  · rw [hroot, shift_root]
    exact Nat.add_pos_left (Nat.zero_lt_of_lt hid) _
  · rw [shift_of_ne_root _ hroot]
    exact Nat.add_lt_add_right hid _

/-- **A selector selects a new widget as it does in `u`.** -/
theorem selects (h : s.Grafts u t) (hu : u.Linked) (ht : t.Linked) (selectors : List Selector)
    {id : WidgetId} (hshown : id ∈ u.shown) :
    t.selects selectors (shift s.count id) = u.selects selectors id := by
  have hid := hu.lt_of_mem_shown hshown
  obtain ⟨l, hl⟩ := hu.exists_leadsOut (hu.mem_shown_iff.mp hshown)
  rw [selects_eq, selects_eq, h.element, hl.ancestors_eq hu hid,
    (h.leadsOut hu ht hl).ancestors_eq ht (h.shift_lt hid), h.elements]

/-! ## Reading both -/

theorem readsAs_old (h : s.Grafts u t) (hs : s.Linked) {row l : List WidgetId}
    (hrow : ∀ id ∈ row, id ≠ root) (hl : s.ReadsAs row l) (hlt : ∀ id ∈ row, id < s.nextId) :
    t.ReadsAs row l := by
  induction hl with
  | nil => exact .nil
  | @cons id row below after _ _ ihbelow ihafter =>
    rw [List.forall_mem_cons] at hrow hlt
    refine .cons ?_ (ihafter hrow.2 hlt.2)
    rw [h.old id hlt.1 hrow.1]
    exact ihbelow (fun c hc => hs.ne_root_of_mem_children hc)
      (fun c hc => lt_nextId_of_parent? ((hs.mem_children_iff id c).mp hc))

theorem children (h : s.Grafts u t) {id : WidgetId} (hid : id ≠ root) :
    t.children (shift s.count id) = (u.children id).map (shift s.count) := by
  unfold Scene.children
  rw [h.new id hid]
  cases u.widget? id <;> rfl

theorem readsAs_new (h : s.Grafts u t) (hu : u.Linked) {row l : List WidgetId}
    (hrow : ∀ id ∈ row, id ≠ root) (hl : u.ReadsAs row l) :
    t.ReadsAs (row.map (shift s.count)) (l.map (shift s.count)) := by
  induction hl with
  | nil => exact .nil
  | @cons id row below after _ _ ihbelow ihafter =>
    rw [List.forall_mem_cons] at hrow
    rw [List.map_cons, List.map_cons, List.map_append]
    refine .cons ?_ (ihafter hrow.2)
    rw [h.children hrow.1]
    exact ihbelow (fun c hc => hu.ne_root_of_mem_children hc)

/-- **What is shown** is what `s` shows, and behind it what `u` shows. -/
theorem shown (h : s.Grafts u t) (hs : s.Linked) (hu : u.Linked) (ht : t.Linked) :
    t.shown = s.shown ++ u.shown.map (shift s.count) := by
  have hold : t.ReadsAs (s.children root) s.shown :=
    h.readsAs_old hs (fun _ => hs.ne_root_of_mem_children) hs.readsAs_shown
      (fun c hc => lt_nextId_of_parent? ((hs.mem_children_iff root c).mp hc))
  have hnew := h.readsAs_new hu (fun _ => hu.ne_root_of_mem_children) hu.readsAs_shown
  have hboth := hold.append hnew
  rw [← h.children_root] at hboth
  exact ht.readsAs_shown.unique hboth

/-- A new widget is shown if `u` shows it. -/
theorem mem_shown_iff (h : s.Grafts u t) (hs : s.Linked) (hu : u.Linked) (ht : t.Linked)
    {id : WidgetId} (hid : id ≠ root) : shift s.count id ∈ t.shown ↔ id ∈ u.shown := by
  rw [h.shown hs hu ht, List.mem_append, List.mem_map_of_injective (shift_injective _)]
  refine or_iff_right (fun hmem => ?_)
  -- the numbers of `s` are smaller
  have hlt := hs.lt_of_mem_shown hmem
  rw [hs.nextId_eq, shift_of_ne_root _ hid, Nat.add_comm id] at hlt
  exact Nat.not_lt.mpr (Nat.add_le_add_left (Nat.pos_of_ne_zero hid) _) hlt

end Grafts

end Scene

end WidgetMarkup
