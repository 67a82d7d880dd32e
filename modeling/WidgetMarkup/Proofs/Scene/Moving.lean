import WidgetMarkup.Proofs.Scene.Detaching
import WidgetMarkup.Proofs.Scene.Structure

/-!
# Moving a widget

A widget is moved by taking it off and putting it at the end of the children of
another. Only one link changes on its way out, so all that was beneath it
before is beneath it afterwards, and nothing else is (`beneath_append_iff`).
What is not beneath it does not see the move at all: taking the widget off
again leaves the links that taking it off before would have left, and so the
document order of the others is the same before and after
(`filter_shown_append`).

What is moved is shown if the new parent is – the root counts here, though it
is not among what is shown – and then it stands in one block. If the new parent
is itself beneath the widget, a loop closes, and all that is moved leaves what
is shown. If it is not, a loop that went through the widget is opened.
-/

namespace WidgetMarkup.Scene

variable {s : Scene} {p c : WidgetId}

/-! ## What is beneath the widget -/

theorem parent?_append_of_not_beneath (hs : s.Linked) (hc : c < s.nextId) {x : WidgetId}
    (hx : ¬ s.Beneath c x) : (s.append p c).parent? x = s.parent? x := by
  rw [parent?_append hs hc, if_neg]
  rintro rfl
  exact hx (Or.inl rfl)

/-- **The way out of a widget that is not moved stays the same.** -/
theorem below_append_iff_of_not_beneath (hs : s.Linked) (hc : c < s.nextId) {top x : WidgetId}
    (hx : ¬ s.Beneath c x) : (s.append p c).Below top x ↔ s.Below top x := by
  have hparent : ∀ x, ¬ s.Beneath c x → (s.append p c).parent? x = s.parent? x :=
    fun x hx => parent?_append_of_not_beneath hs hc hx
  -- no parent of such a widget is beneath the one moved
  have hout : ∀ x q, ¬ s.Beneath c x → s.parent? x = some q → ¬ s.Beneath c q :=
    fun x q hx hq hbeneath => hx ((beneath_iff_of_parent? hq).mpr (Or.inr hbeneath))
  constructor
  · exact Below.of_parent?_eq (fun x hx => (hparent x hx).symm)
      (fun x q hx hq => hout x q hx ((hparent x hx).symm.trans hq)) hx
  · exact Below.of_parent?_eq hparent hout hx

/-- **What is beneath the widget goes with it**, and nothing else does. -/
theorem beneath_append_iff (hs : s.Linked) (hc : c < s.nextId) {x : WidgetId} :
    (s.append p c).Beneath c x ↔ s.Beneath c x := by
  constructor
  · intro h
    by_contra hx
    rcases h with rfl | h
    · exact hx (Or.inl rfl)
    · exact hx (Or.inr ((below_append_iff_of_not_beneath hs hc hx).mp h))
  · rintro (rfl | h)
    · exact Or.inl rfl
    · have hparent : ∀ {x q : WidgetId}, s.parent? x = some q → (s.append p c).Beneath c q →
          (s.append p c).Beneath c x := by
        intro x q hq hbeneath
        by_cases hx : c = x
        · exact Or.inl hx.symm
        · refine (beneath_iff_of_parent? ?_).mpr (Or.inr hbeneath)
          rw [parent?_append hs hc, if_neg hx, hq]
      induction h using Relation.TransGen.head_induction_on with
      | single hp => exact hparent hp (Or.inl rfl)
      | head hp _ ih => exact hparent hp ih

/-- What the moved widget lies below is its new parent, and what that lies
below. -/
theorem below_append_self_iff (hs : s.Linked) (hc : c < s.nextId) {top : WidgetId} :
    (s.append p c).Below top c ↔ (s.append p c).Beneath top p :=
  below_iff_of_parent? (by rw [parent?_append hs hc, if_pos rfl])

/-- A loop goes through the moved widget exactly if the new parent is beneath
it. -/
theorem below_append_self_self_iff (hs : s.Linked) (hc : c < s.nextId) :
    (s.append p c).Below c c ↔ s.Beneath c p :=
  (below_append_self_iff hs hc).trans (beneath_append_iff hs hc)

/-- **No loop is left in what is moved**, unless it is moved into itself. -/
theorem not_below_append_self (hs : s.Linked) (hc : c < s.nextId) (hpc : ¬ s.Beneath c p)
    {x : WidgetId} (hx : s.Beneath c x) : ¬ (s.append p c).Below x x := by
  intro hloop
  refine hpc ((below_append_self_self_iff hs hc).mp ?_)
  rcases (beneath_append_iff hs hc).mpr hx with rfl | hbelow
  · exact hloop
  · exact hbelow.self_of_below hloop

/-! ## What is shown -/

/-- Taken off again, the widget leaves the links that it would have left
before. -/
theorem sameLinks_detach_append (hs : s.Linked) (hp : p < s.nextId) (hc : c < s.nextId)
    (hroot : c ≠ root) : SameLinks ((s.append p c).detach c) (s.detach c) where
  nextId := by rw [nextId_detach, nextId_detach, nextId_append]
  parent? x := by
    rw [parent?_detach (hs.append hp hc hroot), parent?_detach hs, parent?_append hs hc]
    split <;> rfl
  children x := by
    have hnew : (if p = x then [c] else []).filter (· != c) = [] := by split <;> simp
    rw [children_detach (hs.append hp hc hroot), children_detach hs, children_append hs hp,
      List.filter_append, List.filter_filter, hnew, List.append_nil]
    simp only [Bool.and_self]

/-- **The document order of the others is the same before and after.** -/
theorem filter_shown_append (hs : s.Linked) (hp : p < s.nextId) (hc : c < s.nextId)
    (hroot : c ≠ root) {outside : WidgetId → Bool}
    (houtside : ∀ x, outside x = true ↔ ¬ s.Beneath c x) :
    (s.append p c).shown.filter outside = s.shown.filter outside := by
  have houtside' : ∀ x, outside x = true ↔ ¬ (s.append p c).Beneath c x :=
    fun x => (houtside x).trans (not_congr (beneath_append_iff hs hc).symm)
  calc (s.append p c).shown.filter outside
      = ((s.append p c).detach c).shown :=
        (shown_detach houtside' (hs.append hp hc hroot) hroot).symm
    _ = (s.detach c).shown := (sameLinks_detach_append hs hp hc hroot).shown
    _ = s.shown.filter outside := shown_detach houtside hs hroot

/-- **A row of other widgets is shown in this order** if it was before. -/
theorem sublist_shown_append_iff (hs : s.Linked) (hp : p < s.nextId) (hc : c < s.nextId)
    (hroot : c ≠ root) {row : List WidgetId} (hrow : ∀ x ∈ row, ¬ s.Beneath c x) :
    row.Sublist (s.append p c).shown ↔ row.Sublist s.shown := by
  classical
  have hrow' : row.filter (fun x => decide (¬ s.Beneath c x)) = row :=
    List.filter_eq_self.mpr fun x hx => decide_eq_true (hrow x hx)
  have hfilter : ∀ l : List WidgetId,
      row.Sublist l ↔ row.Sublist (l.filter fun x => decide (¬ s.Beneath c x)) := by
    refine fun l => ⟨fun h => ?_, fun h => h.trans List.filter_sublist⟩
    rw [← hrow']
    exact h.filter _
  rw [hfilter, filter_shown_append hs hp hc hroot (fun _ => decide_eq_true_iff), ← hfilter]

/-- **What is moved is shown if the new parent is the root or shown.** -/
theorem mem_shown_append_iff (hs : s.Linked) (hp : p < s.nextId) (hc : c < s.nextId)
    (hroot : c ≠ root) {x : WidgetId} (hx : s.Beneath c x) :
    x ∈ (s.append p c).shown ↔ p = root ∨ p ∈ (s.append p c).shown := by
  have ht := hs.append hp hc hroot
  rw [ht.mem_shown_iff_of_beneath hroot ((beneath_append_iff hs hc).mpr hx), ht.mem_shown_iff,
    ht.mem_shown_iff]
  exact below_append_self_iff hs hc

/-- **What is moved stands in one block**, the widget first. -/
theorem exists_block_append (hs : s.Linked) (hp : p < s.nextId) (hc : c < s.nextId)
    (hroot : c ≠ root) (h : c ∈ (s.append p c).shown) :
    ∃ before block after, (s.append p c).shown = before ++ c :: block ++ after
      ∧ ∀ x, x ∈ c :: block ↔ s.Beneath c x := by
  have ht := hs.append hp hc hroot
  obtain ⟨before, block, after, hshown, hblock⟩ := ht.readsAs_shown.exists_block h
  refine ⟨before, block, after, hshown, fun x => ?_⟩
  rw [List.mem_cons, hblock.mem_iff_below ht (ht.not_below_self_of_mem_shown h)]
  exact beneath_append_iff hs hc

/-! ## What moving does -/

/-- **Only links change**, and of them only these: the widget has a new parent,
it is gone from the children of the old one, and it is the last child of the
new one. -/
theorem widget?_append_eq (hs : s.Linked) (x : WidgetId) :
    (s.append p c).widget? x = (s.widget? x).map fun w =>
      { w with
        parent := if c = x then some p else w.parent
        children := (if s.parent? c = some x then w.children.filter (· != c) else w.children)
          ++ if p = x then [c] else [] } := by
  rw [widget?_append hs]
  cases hw : s.widget? x with
  | none => rfl
  | some w =>
    have hchildren : w.children.filter (· != c)
        = if s.parent? c = some x then w.children.filter (· != c) else w.children := by
      split
      · rfl
      · next hold =>
        rw [← children_of_widget? hw]
        exact hs.filter_children hold
    rw [Option.map_some, Option.map_some, ← hchildren]

/-- **What becomes of the document when a widget is moved.** Let `l` be what is
shown before and `l'` what is shown after `c` is put at the end of the children
of `p`.

* The root is in neither.
* If `p` is beneath `c`, nothing that is beneath `c` is shown.
* If it is not, what is beneath `c` is shown exactly if `p` is the root or is
  shown. The links between these widgets stay, except that `c` is gone from the
  children of its old parent; none of them lies below itself, and they are
  still what is beneath `c`. Where they are shown, they are one block of `l'`
  that begins with `c`.
* The other widgets are shown if they were before, and in the same order.
* Of no widget anything changes but the links named: the parent of `c`, the
  children of its old parent, without `c` and otherwise as they were, and the
  children of `p`, of which `c` is the last. -/
theorem append_moves_beneath (h : s.Reachable) (hp : p < s.nextId) (hc : c < s.nextId)
    (hroot : c ≠ root) :
    ∃ l l', s.descendants? root = some l ∧ (s.append p c).descendants? root = some l'
      ∧ root ∉ l ∧ root ∉ l'
      ∧ (s.Beneath c p → ∀ x, s.Beneath c x → x ∉ l')
      ∧ (¬ s.Beneath c p →
          (∀ x, s.Beneath c x →
              (x ∈ l' ↔ p = root ∨ p ∈ l')
                ∧ (x ≠ c → (s.append p c).parent? x = s.parent? x)
                ∧ (s.append p c).children x = (s.children x).filter (· != c)
                ∧ ¬ (s.append p c).Below x x)
            ∧ (∀ x, (s.append p c).Beneath c x ↔ s.Beneath c x)
            ∧ (p = root ∨ p ∈ l' →
                ∃ before block after, l' = before ++ c :: block ++ after
                  ∧ ∀ x, x ∈ c :: block ↔ s.Beneath c x))
      ∧ (∀ x, ¬ s.Beneath c x → (x ∈ l' ↔ x ∈ l))
      ∧ (∀ row : List WidgetId, (∀ x ∈ row, ¬ s.Beneath c x) → (row.Sublist l' ↔ row.Sublist l))
      ∧ (∀ x, (s.append p c).widget? x = (s.widget? x).map fun w =>
          { w with
            parent := if c = x then some p else w.parent
            children := (if s.parent? c = some x then w.children.filter (· != c) else w.children)
              ++ if p = x then [c] else [] })
      ∧ (s.append p c).flushes = s.flushes := by
  have hs := h.linked
  have ht := hs.append hp hc hroot
  have hbelow : s.Beneath c c := Or.inl rfl
  refine ⟨s.shown, (s.append p c).shown, hs.descendants?_root, ht.descendants?_root,
    hs.root_notMem_shown, ht.root_notMem_shown, fun hpc x hx => ?_, fun hpc => ⟨fun x hx => ⟨?_, fun hne => ?_, ?_, ?_⟩, fun x => ?_,
      fun hshown => ?_⟩, fun x hx => ?_, fun row hrow => ?_, widget?_append_eq hs,
    flushes_append s p c⟩
  · rw [ht.mem_shown_iff_of_beneath hroot ((beneath_append_iff hs hc).mpr hx)]
    exact fun hshown =>
      ht.not_below_self_of_mem_shown hshown ((below_append_self_self_iff hs hc).mpr hpc)
  · exact mem_shown_append_iff hs hp hc hroot hx
  · rw [parent?_append hs hc, if_neg hne.symm]
  · have hne : p ≠ x := fun heq => hpc (heq ▸ hx)
    rw [children_append hs hp, if_neg hne, List.append_nil]
  · exact not_below_append_self hs hc hpc hx
  · exact beneath_append_iff hs hc
  · exact exists_block_append hs hp hc hroot ((mem_shown_append_iff hs hp hc hroot hbelow).mpr hshown)
  · rw [ht.mem_shown_iff, hs.mem_shown_iff, below_append_iff_of_not_beneath hs hc hx]
  · exact sublist_shown_append_iff hs hp hc hroot hrow

/-- A widget is moved out of a loop: the widget it was tied to comes with it,
and what is shown ends with the two. -/
theorem append_moves_beneath_looped :
    looped.Reachable ∧ 3 < looped.nextId ∧ 1 < looped.nextId ∧ (1 : WidgetId) ≠ root
      ∧ looped.Below 1 1 ∧ ¬ (looped.append 3 1).Below 1 1 ∧ ¬ (looped.append 3 1).Below 2 2
      ∧ (looped.append 3 1).parent? 2 = some 1
      ∧ ∃ before block after, [3, 1, 2] = before ++ 1 :: block ++ after
          ∧ ∀ x, x ∈ 1 :: block ↔ looped.Beneath 1 x := by
  have hloop : looped.Below 1 1 := .tail (.single (show looped.parent? 1 = some 2 by decide))
    (show looped.parent? 2 = some 1 by decide)
  have htwo : looped.Beneath 1 2 := Or.inr (.single (by decide))
  -- the new parent is a child of the root, so it is beneath no other widget
  have hthree : ¬ looped.Beneath 1 3 := by
    rw [beneath_iff_of_parent? (show looped.parent? 3 = some root by decide)]
    rintro (h | h)
    · exact absurd h (by decide)
    · exact reachable_looped.linked.not_beneath_root (by decide) h
  obtain ⟨l, l', -, hl', -, -, -, hout, -⟩ := append_moves_beneath reachable_looped (p := 3) (c := 1)
    (by decide) (by decide) (by decide)
  obtain ⟨hmoved, -, hblock⟩ := hout hthree
  have hshown : (looped.append 3 1).descendants? root = some [3, 1, 2] := by decide
  rw [hshown, Option.some.injEq] at hl'
  subst hl'
  exact ⟨reachable_looped, by decide, by decide, by decide, hloop, (hmoved 1 (Or.inl rfl)).2.2.2,
    (hmoved 2 htwo).2.2.2, (hmoved 2 htwo).2.1 (by decide) |>.trans (by decide),
    hblock (Or.inr (by decide))⟩

/-- Below the root all is shown, though the root itself is not among what is
shown. -/
theorem not_mem_iff_root_mem_of_append_root :
    (new.create "view").Reachable ∧ ¬ (new.create "view").Beneath 1 root
      ∧ (new.create "view").Beneath 1 1
      ∧ ((new.create "view").append root 1).descendants? root = some [1]
      ∧ ¬ ((1 : WidgetId) ∈ [1] ↔ root ∈ ([1] : List WidgetId)) := by
  have h : (new.create "view").Reachable := .create .new "view"
  exact ⟨h, h.linked.not_beneath_root (by decide), Or.inl rfl, by decide, by decide⟩

end WidgetMarkup.Scene
