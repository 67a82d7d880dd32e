import WidgetMarkup.Proofs.Scene.Edit

/-!
# The links of a scene

A link is kept twice, at the child and at its parent, and moving a widget
changes up to three widgets, some of which may be the same one. `Linked`
says that the two sides agree: a widget is among the children of another,
and only once, exactly if it calls that one its parent. The root has no
parent.

`Linked` does not say that there are no loops, since there may be. It is all
the same enough to move a widget without looking at its old parent: a widget
that is taken off *every* row of children is taken off the one row that it
was in (`widget?_append`). So the cases – a widget without a parent, appended
to itself, appended again where it was – need not be told apart.
-/

namespace WidgetMarkup.Scene

/-- **Both sides of every link agree.** -/
structure Linked (s : Scene) : Prop where
  /-- There is a root. -/
  root_lt : root < s.nextId
  /-- The root has no parent. -/
  parent?_root : s.parent? root = none
  /-- A child of a widget is a widget that has it as its parent. -/
  mem_children_iff : ∀ p c, c ∈ s.children p ↔ s.parent? c = some p
  /-- No widget is a child twice. -/
  nodup_children : ∀ p, (s.children p).Nodup

theorem linked_new : Linked Scene.new := by
  have hp : ∀ c, Scene.new.parent? c = none := by
    intro c
    match c with
    | 0 => rfl
    | _ + 1 => rfl
  have hc : ∀ p, Scene.new.children p = [] := by
    intro p
    match p with
    | 0 => rfl
    | _ + 1 => rfl
  refine ⟨Nat.zero_lt_one, hp root, fun p c => ?_, fun p => ?_⟩
  · rw [hp, hc]
    simp
  · rw [hc]
    exact List.nodup_nil

namespace Linked

variable {s t : Scene}

/-- Scenes with the same links are linked alike. -/
theorem of_sameLinks (hs : s.Linked) (h : SameLinks t s) : t.Linked where
  root_lt := by
    rw [h.nextId]
    exact hs.root_lt
  parent?_root := (h.parent? root).trans hs.parent?_root
  mem_children_iff p c := by
    rw [h.children, h.parent?]
    exact hs.mem_children_iff p c
  nodup_children p := by
    rw [h.children]
    exact hs.nodup_children p

/-- A parent exists. -/
theorem lt_of_parent? (hs : s.Linked) {c p : WidgetId} (h : s.parent? c = some p) :
    p < s.nextId :=
  lt_nextId_of_mem_children ((hs.mem_children_iff p c).mpr h)

/-- Taking a widget off the children of one that is not its parent changes
nothing. -/
theorem filter_children (hs : s.Linked) {p c : WidgetId} (h : s.parent? c ≠ some p) :
    (s.children p).filter (· != c) = s.children p := by
  refine List.filter_eq_self.mpr fun x hx => ?_
  rw [bne_iff_ne]
  rintro rfl
  exact h ((hs.mem_children_iff p x).mp hx)

end Linked

/-! ## Moving a widget -/

/-- **What taking a widget off does to each widget**: the one taken off has
no parent, and it is in no row of children. -/
theorem widget?_detach {s : Scene} (hs : s.Linked) (c id : WidgetId) :
    (s.detach c).widget? id
      = (s.widget? id).map fun w =>
          { w with
            parent := if c = id then none else w.parent
            children := w.children.filter (· != c) } := by
  cases hw : s.widget? id with
  | none =>
    unfold detach
    cases s.parent? c <;> simp [hw]
  | some w =>
    have hparent : s.parent? id = w.parent := parent?_of_widget? hw
    have hfilter : s.parent? c ≠ some id → w.children.filter (· != c) = w.children := by
      rw [← children_of_widget? hw]
      exact hs.filter_children
    unfold detach
    cases hold : s.parent? c with
    | none =>
      have hnone : (if c = id then none else w.parent) = w.parent := by
        split
        · next h => rw [← hparent, ← h, hold]
        · rfl
      simp only [Option.map_some, hw, hnone, hfilter (by simp [hold])]
    | some old =>
      -- the old parent may be the widget itself
      by_cases hc : c = id <;> by_cases hp : old = id
      · simp [hw, hc, hp]
      · simp [hw, hc, hp, hc ▸ hfilter (by simpa [hold] using hp)]
      · simp [hw, hc, hp]
      · simp [hw, hc, hp, hfilter (by simpa [hold] using hp)]

/-- **What moving a widget does to each widget**: the one that is moved has
a new parent; it is taken off every row of children and put at the end of
one. -/
theorem widget?_append {s : Scene} (hs : s.Linked) (p c id : WidgetId) :
    (s.append p c).widget? id
      = (s.widget? id).map fun w =>
          { w with
            parent := if c = id then some p else w.parent
            children := w.children.filter (· != c) ++ if p = id then [c] else [] } := by
  unfold append
  rw [widget?_update, widget?_update, widget?_detach hs]
  cases s.widget? id with
  | none => simp
  | some w => by_cases hc : c = id <;> by_cases hp : p = id <;> simp [hc, hp]

theorem parent?_append {s : Scene} (hs : s.Linked) {p c : WidgetId} (hc : c < s.nextId)
    (id : WidgetId) :
    (s.append p c).parent? id = if c = id then some p else s.parent? id := by
  unfold parent?
  rw [widget?_append hs]
  by_cases h : c = id
  · obtain ⟨w, hw⟩ := widget?_eq_some_of_lt (h ▸ hc)
    simp [h, hw]
  · cases hw : s.widget? id <;> simp [h]

theorem children_append {s : Scene} (hs : s.Linked) {p c : WidgetId} (hp : p < s.nextId)
    (id : WidgetId) :
    (s.append p c).children id
      = (s.children id).filter (· != c) ++ if p = id then [c] else [] := by
  unfold children
  rw [widget?_append hs]
  by_cases h : p = id
  · obtain ⟨w, hw⟩ := widget?_eq_some_of_lt (h ▸ hp)
    simp [h, hw]
  · cases hw : s.widget? id <;> simp [h]

@[simp]
theorem nextId_append (s : Scene) (p c : WidgetId) : (s.append p c).nextId = s.nextId := by
  unfold append detach
  cases s.parent? c <;> simp

@[simp]
theorem flushes_append (s : Scene) (p c : WidgetId) : (s.append p c).flushes = s.flushes := by
  unfold append detach
  cases s.parent? c <;> rfl

/-- **A widget may be moved anywhere**, and the links agree again. -/
theorem Linked.append {s : Scene} (hs : s.Linked) {p c : WidgetId} (hp : p < s.nextId)
    (hc : c < s.nextId) (hroot : c ≠ root) : (s.append p c).Linked where
  root_lt := by
    rw [nextId_append]
    exact hs.root_lt
  parent?_root := by
    rw [parent?_append hs hc, if_neg hroot]
    exact hs.parent?_root
  mem_children_iff q x := by
    rw [children_append hs hp, parent?_append hs hc, List.mem_append, List.mem_filter,
      hs.mem_children_iff, bne_iff_ne]
    by_cases hx : c = x
    · subst hx
      by_cases hq : p = q <;> simp [hq]
    · by_cases hq : p = q <;> simp [hx, hq, Ne.symm hx]
  nodup_children q := by
    rw [children_append hs hp]
    have hfilter : ((s.children q).filter (· != c)).Nodup := (hs.nodup_children q).filter _
    split
    · refine List.nodup_append.mpr ⟨hfilter, by simp, ?_⟩
      simp
    · simpa using hfilter

/-! ## Making a widget -/

/-- A new widget has no parent. -/
@[simp]
theorem parent?_create (s : Scene) (tag : String) (id : WidgetId) :
    (s.create tag).parent? id = s.parent? id := by
  by_cases h : id = s.nextId
  · rw [parent?_of_widget? (w := .ofTag tag) (by simp [h]), parent?_of_nextId_le (Nat.le_of_eq h.symm)]
    rfl
  · unfold parent?
    rw [widget?_create, if_neg h]

/-- A new widget has no children. -/
@[simp]
theorem children_create (s : Scene) (tag : String) (id : WidgetId) :
    (s.create tag).children id = s.children id := by
  by_cases h : id = s.nextId
  · rw [children_of_widget? (w := .ofTag tag) (by simp [h]), children_of_nextId_le (Nat.le_of_eq h.symm)]
    rfl
  · unfold children
    rw [widget?_create, if_neg h]

theorem Linked.create {s : Scene} (hs : s.Linked) (tag : String) : (s.create tag).Linked where
  root_lt := by
    rw [nextId_create]
    exact Nat.lt_succ_of_lt hs.root_lt
  parent?_root := by
    rw [parent?_create]
    exact hs.parent?_root
  mem_children_iff p c := by
    rw [children_create, parent?_create]
    exact hs.mem_children_iff p c
  nodup_children p := by
    rw [children_create]
    exact hs.nodup_children p

/-! ## All scenes that come about -/

/-- **Every permitted edit keeps the links in agreement.** -/
theorem Linked.perform {s : Scene} (hs : s.Linked) {e : Edit} (he : s.Permits e) :
    (s.perform e).Linked := by
  cases e with
  | create tag => exact hs.create tag
  | append p c => exact hs.append he.1 he.2.1 he.2.2
  | setAttribute id name value => exact hs.of_sameLinks (sameLinks_setAttribute s id name value)
  | setValue id value => exact hs.of_sameLinks (sameLinks_setValue s id value)
  | mergeStyle id properties => exact hs.of_sameLinks (sameLinks_mergeStyle s id properties)
  | signal => exact hs.of_sameLinks (sameLinks_signal s)

theorem Reachable.linked {s : Scene} (h : s.Reachable) : s.Linked := by
  induction h with
  | new => exact linked_new
  | perform _ he ih => exact ih.perform he

end WidgetMarkup.Scene
