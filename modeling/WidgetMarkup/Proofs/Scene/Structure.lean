import WidgetMarkup.Proofs.Scene.DocumentOrder

/-!
# What every scene looks like

Edits may leave widgets unattached and may tie them into loops. Still every
scene that comes about is a tree below the root, with whatever hangs
together elsewhere kept out of it: `reachable_structure` says so, and says
that each widget is in order by itself.

A widget is in order if its attributes have different names and if it has no
value that its kind cannot show. Nothing but the making of a widget decides
its kind, and only two edits touch attributes and values.
-/

namespace WidgetMarkup

/-- **A widget in order.** -/
structure Widget.WellFormed (w : Widget) : Prop where
  /-- No attribute name occurs twice. -/
  nodup_names : (w.attributes.map Prod.fst).Nodup
  /-- A value is there only if the kind can show it. -/
  holdsValue_of_value : w.value.isSome = true → w.kind.holdsValue = true

/-- Setting an entry adds its name at the end, unless it is there. -/
theorem map_fst_setEntry (name value : String) (entries : List (String × String)) :
    (setEntry name value entries).map Prod.fst
      = if name ∈ entries.map Prod.fst then entries.map Prod.fst
        else entries.map Prod.fst ++ [name] := by
  induction entries with
  | nil => rfl
  | cons entry more ih =>
    obtain ⟨n, v⟩ := entry
    rw [setEntry]
    by_cases hn : n = name
    · simp [hn]
    · rw [if_neg hn, List.map_cons, ih]
      simp only [List.map_cons, List.mem_cons, Ne.symm hn, false_or]
      split <;> rfl

namespace Widget.WellFormed

variable {w : Widget}

theorem ofTag (tag : String) : (Widget.ofTag tag).WellFormed where
  nodup_names := List.nodup_nil
  holdsValue_of_value h := by cases h

theorem setAttribute (h : w.WellFormed) (name value : String) :
    (w.setAttribute name value).WellFormed where
  nodup_names := by
    show ((setEntry name value w.attributes).map Prod.fst).Nodup
    rw [map_fst_setEntry]
    split
    · exact h.nodup_names
    · next hname =>
      refine List.nodup_append.mpr ⟨h.nodup_names, by simp, ?_⟩
      rintro n hn _ hmem rfl
      rw [List.mem_singleton.mp hmem] at hn
      exact hname hn
  holdsValue_of_value := h.holdsValue_of_value

theorem setValue (h : w.WellFormed) (value : String) : (w.setValue value).WellFormed := by
  unfold Widget.setValue
  split
  · next hholds => exact ⟨h.nodup_names, fun _ => hholds⟩
  · exact h

theorem mergeStyle (h : w.WellFormed) (properties : Style.Properties) :
    (w.mergeStyle properties).WellFormed :=
  ⟨h.nodup_names, h.holdsValue_of_value⟩

end Widget.WellFormed

namespace Scene

/-- **Every widget is in order.** -/
def WellFormed (s : Scene) : Prop :=
  ∀ id w, s.widget? id = some w → w.WellFormed

namespace WellFormed

variable {s : Scene}

theorem update (h : s.WellFormed) (id : WidgetId) {f : Widget → Widget}
    (hf : ∀ w : Widget, w.WellFormed → (f w).WellFormed) : (s.update id f).WellFormed := by
  intro x w hw
  rw [widget?_update] at hw
  split at hw
  · obtain ⟨v, hv, rfl⟩ := Option.map_eq_some_iff.mp hw
    exact hf v (h x v hv)
  · exact h x w hw

theorem create (h : s.WellFormed) (tag : String) : (s.create tag).WellFormed := by
  intro x w hw
  rw [widget?_create] at hw
  split at hw
  · cases hw
    exact .ofTag tag
  · exact h x w hw

/-- Moving a widget is nothing to how it looks. -/
theorem append (h : s.WellFormed) (hs : s.Linked) (p c : WidgetId) :
    (s.append p c).WellFormed := by
  intro x w hw
  rw [widget?_append hs] at hw
  obtain ⟨v, hv, rfl⟩ := Option.map_eq_some_iff.mp hw
  exact ⟨(h x v hv).nodup_names, (h x v hv).holdsValue_of_value⟩

theorem perform (h : s.WellFormed) (hs : s.Linked) (e : Edit) : (s.perform e).WellFormed := by
  cases e with
  | create tag => exact h.create tag
  | append p c => exact h.append hs p c
  | setAttribute id name value => exact h.update id (fun _ hw => hw.setAttribute name value)
  | setValue id value => exact h.update id (fun _ hw => hw.setValue value)
  | mergeStyle id properties => exact h.update id (fun _ hw => hw.mergeStyle properties)
  | signal => exact h

end WellFormed

theorem Reachable.wellFormed {s : Scene} (h : s.Reachable) : s.WellFormed := by
  induction h with
  | new =>
    intro id w hw
    match id with
    | 0 =>
      cases hw
      exact ⟨List.nodup_nil, fun h => by cases h⟩
    | _ + 1 => cases hw
  | perform hs _ ih => exact ih.perform hs.linked _

/-! ## The structure of scenes -/

/-- **Every scene that comes about is a tree below the root, with loops at
most beside it.**

* Both sides of every link agree, and no widget is a child twice.
* The root has no parent.
* The walk below the root ends; it lists the widgets whose parents lead to
  the root, each once, without the root, in the order of the rows of
  children; and no widget whose parents lead back to itself is among them.
* No attribute name occurs twice in a widget, and only a kind that can show
  a value has one. -/
theorem reachable_structure {s : Scene} (h : s.Reachable) :
    (∀ p c, c ∈ s.children p ↔ s.parent? c = some p)
      ∧ (∀ p, (s.children p).Nodup)
      ∧ s.parent? root = none
      ∧ (∃ l, s.descendants? root = some l
          ∧ s.ReadsAs (s.children root) l
          ∧ l.Nodup
          ∧ root ∉ l
          ∧ (∀ id, id ∈ l ↔ s.Below root id)
          ∧ ∀ id, s.Below id id → id ∉ l)
      ∧ ∀ id w, s.widget? id = some w →
          (w.attributes.map Prod.fst).Nodup
            ∧ (w.value.isSome = true → w.kind.holdsValue = true) := by
  have hs := h.linked
  refine ⟨hs.mem_children_iff, hs.nodup_children, hs.parent?_root,
    ⟨s.shown, hs.descendants?_root, hs.readsAs_shown, hs.nodup_shown, hs.root_notMem_shown,
      fun _ => hs.mem_shown_iff, fun _ hloop hx => hs.not_below_self_of_mem_shown hx hloop⟩,
    fun id w hw => ?_⟩
  have hwf := h.wellFormed id w hw
  exact ⟨hwf.nodup_names, hwf.holdsValue_of_value⟩

/-- A scene with a loop of two widgets beside a widget that is shown. -/
def looped : Scene :=
  (((((new.create "view").create "text").create "img").append root 1).append root 3
    |>.append 1 2).append 2 1

theorem reachable_looped : looped.Reachable := by
  refine Reachable.append (Reachable.append (Reachable.append (Reachable.append (.create
    (.create (.create .new "view") "text") "img") ?_ ?_ ?_) ?_ ?_ ?_) ?_ ?_ ?_) ?_ ?_ ?_
  all_goals decide

/-- The two widgets on the loop are each other's parents, and what is shown
is the third. -/
theorem reachable_structure_looped :
    looped.Reachable ∧ looped.parent? 1 = some 2 ∧ looped.parent? 2 = some 1
      ∧ looped.descendants? root = some [3] ∧ 1 ∉ [3] := by
  have h := reachable_structure reachable_looped
  have hloop : looped.Below 1 1 := .tail (.single (show looped.parent? 1 = some 2 by decide))
    (show looped.parent? 2 = some 1 by decide)
  have hwalk : looped.descendants? root = some [3] := by decide
  obtain ⟨l, hl, -, -, -, -, hout⟩ := h.2.2.2.1
  rw [hwalk, Option.some.injEq] at hl
  subst hl
  exact ⟨reachable_looped, by decide, by decide, hwalk, hout 1 hloop⟩

end Scene

end WidgetMarkup
