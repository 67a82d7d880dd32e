import WidgetMarkup.Proofs.Scene.DocumentOrder

/-!
# Taking a widget off

A widget that is taken off its parent goes with all that lies below it
(`Beneath`), and nothing else changes place: what is shown afterwards is what
was shown before, without these widgets (`shown_detach`).

The document order is read along the children, and being beneath a widget is
said along the parents. The two meet at a widget that is not beneath the one
taken off: of its children only that one can be beneath it
(`children_detach_of_outside`). So reading a row and then leaving out what is
beneath is the same as reading, in the new scene, what is left of the row.
-/

namespace WidgetMarkup.Scene

variable {s : Scene}

/-- **The widget `id` is `top` or lies below it.** -/
def Beneath (s : Scene) (top id : WidgetId) : Prop :=
  id = top ∨ s.Below top id

/-! ## Following parents -/

/-- What a widget lies below is its parent, and what its parent lies below. -/
theorem below_iff_of_parent? {top id p : WidgetId} (h : s.parent? id = some p) :
    s.Below top id ↔ s.Beneath top p := by
  have hstep : s.Below top id ↔ ∃ q, s.parent? id = some q
      ∧ Relation.ReflTransGen (fun c p => s.parent? c = some p) q top :=
    Relation.TransGen.head'_iff
  rw [hstep, h]
  simp only [Option.some.injEq, exists_eq_left', Relation.reflTransGen_iff_eq_or_transGen]
  exact or_congr_left eq_comm

theorem beneath_iff_of_parent? {top id p : WidgetId} (h : s.parent? id = some p) :
    s.Beneath top id ↔ id = top ∨ s.Beneath top p :=
  or_congr_right (below_iff_of_parent? h)

theorem Below.trans_beneath {top mid id : WidgetId} (h : s.Below top mid)
    (hid : s.Beneath mid id) : s.Below top id := by
  rcases hid with rfl | hid
  · exact h
  · exact Relation.TransGen.trans hid h

theorem Beneath.trans_below {top mid id : WidgetId} (h : s.Beneath top mid)
    (hid : s.Below mid id) : s.Below top id := by
  rcases h with rfl | h
  · exact hid
  · exact Relation.TransGen.trans hid h

/-- A loop goes through everything that its members lie below. -/
theorem Below.self_of_below {top id : WidgetId} (h : s.Below top id) (hloop : s.Below id id) :
    s.Below top top := by
  induction h using Relation.TransGen.head_induction_on with
  | single hp => exact hloop.parent hp
  | head hp _ ih => exact ih (hloop.parent hp)

/-- What lies above a widget depends on the parents on its way out only. -/
theorem Below.of_parent?_eq {t : Scene} {onWay : WidgetId → Prop}
    (hparent : ∀ x, onWay x → t.parent? x = s.parent? x)
    (hway : ∀ x q, onWay x → s.parent? x = some q → onWay q)
    {top id : WidgetId} (hid : onWay id) (h : s.Below top id) : t.Below top id := by
  induction h using Relation.TransGen.head_induction_on with
  | single hp => exact .single ((hparent _ hid).trans hp)
  | head hp _ ih => exact .head ((hparent _ hid).trans hp) (ih (hway _ _ hid hp))

namespace Linked

theorem not_beneath_root (hs : s.Linked) {top : WidgetId} (htop : top ≠ root) :
    ¬ s.Beneath top root := by
  rintro (rfl | h)
  · exact htop rfl
  · exact not_below_of_parent? hs.parent?_root h

/-- **A widget is shown together with all that is beneath it.** -/
theorem mem_shown_iff_of_beneath (hs : s.Linked) {top id : WidgetId} (htop : top ≠ root)
    (h : s.Beneath top id) : id ∈ s.shown ↔ top ∈ s.shown := by
  rw [hs.mem_shown_iff, hs.mem_shown_iff]
  refine ⟨fun hid => ?_, fun hshown => hshown.trans_beneath h⟩
  rcases h with rfl | h
  · exact hid
  · -- the parents of `id` come to `top` before they come to the root
    induction h using Relation.TransGen.head_induction_on with
    | single hp => exact ((below_iff_of_parent? hp).mp hid).resolve_left htop
    | head hp hmid ih =>
      rcases (below_iff_of_parent? hp).mp hid with rfl | hid
      · exact absurd hmid (not_below_of_parent? hs.parent?_root)
      · exact ih hid

end Linked

/-! ## Reading rows -/

namespace ReadsAs

/-- What is read is beneath the members of the row. -/
theorem exists_beneath (hs : s.Linked) {row l : List WidgetId} (h : s.ReadsAs row l)
    {x : WidgetId} (hx : x ∈ l) : ∃ top ∈ row, s.Beneath top x := by
  induction h with
  | nil => cases hx
  | @cons id row below after _ _ ihbelow ihafter =>
    rcases List.mem_cons.mp hx with rfl | hx
    · exact ⟨x, List.mem_cons_self, Or.inl rfl⟩
    · rcases List.mem_append.mp hx with hx | hx
      · obtain ⟨child, hchild, hbeneath⟩ := ihbelow hx
        have hbelow : s.Below id child := .single ((hs.mem_children_iff id child).mp hchild)
        exact ⟨id, List.mem_cons_self, Or.inr (hbelow.trans_beneath hbeneath)⟩
      · obtain ⟨top, htop, hbeneath⟩ := ihafter hx
        exact ⟨top, List.mem_cons_of_mem _ htop, hbeneath⟩

/-- What the children of a widget read as lies below it. -/
theorem below_of_mem (hs : s.Linked) {top : WidgetId} {l : List WidgetId}
    (h : s.ReadsAs (s.children top) l) {x : WidgetId} (hx : x ∈ l) : s.Below top x := by
  obtain ⟨child, hchild, hbeneath⟩ := h.exists_beneath hs hx
  exact Below.trans_beneath (.single ((hs.mem_children_iff top child).mp hchild)) hbeneath

/-- **What is below a widget is read right behind it.** -/
theorem exists_block {row l : List WidgetId} (h : s.ReadsAs row l) {x : WidgetId} (hx : x ∈ l) :
    ∃ before block after, l = before ++ x :: block ++ after ∧ s.ReadsAs (s.children x) block := by
  induction h with
  | nil => cases hx
  | @cons id row below after hbelow _ ihbelow ihafter =>
    rcases List.mem_cons.mp hx with rfl | hx
    · exact ⟨[], below, after, rfl, hbelow⟩
    · rcases List.mem_append.mp hx with hx | hx
      · obtain ⟨front, block, back, rfl, hblock⟩ := ihbelow hx
        exact ⟨id :: front, block, back ++ after, by simp, hblock⟩
      · obtain ⟨front, block, back, rfl, hblock⟩ := ihafter hx
        exact ⟨id :: (below ++ front), block, back, by simp, hblock⟩

/-- The children of a widget on no loop read as all that lies below it. -/
theorem mem_iff_below (hs : s.Linked) {top : WidgetId} (htop : ¬ s.Below top top)
    {l : List WidgetId} (h : s.ReadsAs (s.children top) l) {x : WidgetId} :
    x ∈ l ↔ s.Below top x := by
  obtain ⟨l', -, hl', -, hmem⟩ := exists_descendants? hs htop
  rw [h.unique hl', hmem]

end ReadsAs

/-! ## The links without one -/

@[simp]
theorem nextId_detach (s : Scene) (c : WidgetId) : (s.detach c).nextId = s.nextId := by
  unfold detach
  cases s.parent? c <;> simp

theorem parent?_detach (hs : s.Linked) (c id : WidgetId) :
    (s.detach c).parent? id = if c = id then none else s.parent? id := by
  unfold parent?
  rw [widget?_detach hs]
  cases s.widget? id <;> by_cases h : c = id <;> simp [h]

theorem children_detach (hs : s.Linked) (c id : WidgetId) :
    (s.detach c).children id = (s.children id).filter (· != c) := by
  unfold children
  rw [widget?_detach hs]
  cases s.widget? id <;> rfl

theorem Linked.detach (hs : s.Linked) (c : WidgetId) : (s.detach c).Linked where
  root_lt := by
    rw [nextId_detach]
    exact hs.root_lt
  parent?_root := by
    rw [parent?_detach hs, hs.parent?_root, ite_self]
  mem_children_iff q x := by
    rw [children_detach hs, parent?_detach hs, List.mem_filter, hs.mem_children_iff, bne_iff_ne]
    by_cases hx : c = x
    · simp [hx]
    · simp [hx, Ne.symm hx]
  nodup_children q := by
    rw [children_detach hs]
    exact (hs.nodup_children q).filter _

/-! ## What is still shown -/

section Outside

variable {c : WidgetId} {outside : WidgetId → Bool}
  (houtside : ∀ x, outside x = true ↔ ¬ s.Beneath c x)

include houtside

/-- **Of the children of a widget outside, only the one taken off is beneath
it.** -/
theorem children_detach_of_outside (hs : s.Linked) {id : WidgetId} (hid : outside id = true) :
    (s.detach c).children id = (s.children id).filter outside := by
  rw [children_detach hs]
  refine List.filter_congr fun x hx => ?_
  have hparent := (hs.mem_children_iff id x).mp hx
  rw [Bool.eq_iff_iff, bne_iff_ne, houtside, beneath_iff_of_parent? hparent,
    or_iff_left ((houtside id).mp hid)]

/-- Reading a row without what is beneath the widget taken off. -/
theorem ReadsAs.detach (hs : s.Linked) {row l : List WidgetId} (h : s.ReadsAs row l) :
    (s.detach c).ReadsAs (row.filter outside) (l.filter outside) := by
  induction h with
  | nil => exact .nil
  | @cons id row below after hbelow _ ihbelow ihafter =>
    by_cases hid : outside id = true
    · rw [List.filter_cons_of_pos hid, List.filter_cons_of_pos hid, List.filter_append]
      refine .cons ?_ ihafter
      rw [children_detach_of_outside houtside hs hid]
      exact ihbelow
    · -- what lies below a widget beneath is beneath as well
      have hnone : below.filter outside = [] := by
        refine List.filter_eq_nil_iff.mpr fun x hx hout => (houtside x).mp hout (Or.inr ?_)
        have hbeneath : s.Beneath c id := not_not.mp fun hnot => hid ((houtside id).mpr hnot)
        exact hbeneath.trans_below (hbelow.below_of_mem hs hx)
      rw [List.filter_cons_of_neg hid, List.filter_cons_of_neg hid, List.filter_append, hnone]
      exact ihafter

/-- **What is shown without a widget** is what was shown, without all that is
beneath this widget. -/
theorem shown_detach (hs : s.Linked) (hroot : c ≠ root) :
    (s.detach c).shown = s.shown.filter outside := by
  have hread := hs.readsAs_shown.detach houtside hs
  rw [← children_detach_of_outside houtside hs ((houtside root).mpr (hs.not_beneath_root hroot))]
    at hread
  exact (hs.detach c).readsAs_shown.unique hread

end Outside

end WidgetMarkup.Scene
