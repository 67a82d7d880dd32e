import WidgetMarkup.Proofs.Scene.DocumentOrder
import WidgetMarkup.Scene.Query

/-!
# The ancestors of a widget

From a widget that is shown the parents lead out to the root and end there.
`LeadsOut` is such a way out, written as a list. It passes no widget twice,
since a way that ends is on no loop; so it is no longer than there are
widgets, and `ancestors`, which allows for that many steps, finds all of it.

What a selector can see of a widget is the widget itself and its way out. If
a scene grows and leaves the way out alone, every selector sees the same as
before.
-/

namespace WidgetMarkup.Scene

/-- **The way out from a widget**: its parent, the parent of that, and so on
to one that has none. -/
inductive LeadsOut (s : Scene) : WidgetId → List WidgetId → Prop where
  /-- The way ends where there is no parent. -/
  | stop {id : WidgetId} : s.parent? id = none → LeadsOut s id []
  /-- One step, and the way on from there. -/
  | step {id p : WidgetId} {l : List WidgetId} :
      s.parent? id = some p → LeadsOut s p l → LeadsOut s id (p :: l)

namespace LeadsOut

variable {s : Scene}

theorem outward_eq {id : WidgetId} {l : List WidgetId} (h : s.LeadsOut id l) {steps : Nat}
    (hsteps : l.length ≤ steps) : s.outward steps id = l := by
  induction h generalizing steps with
  | stop hp =>
    cases steps with
    | zero => rfl
    | succ steps => rw [outward, hp]
  | step hp _ ih =>
    cases steps with
    | zero => cases hsteps
    | succ steps =>
      rw [outward, hp]
      exact congrArg (_ :: ·) (ih (Nat.le_of_succ_le_succ hsteps))

/-- A way that ends is on no loop. -/
theorem not_below_self {id : WidgetId} {l : List WidgetId} (h : s.LeadsOut id l) :
    ¬ s.Below id id := by
  induction h with
  | stop hp => exact not_below_of_parent? hp
  | step hp _ ih => exact fun hloop => ih (hloop.parent hp)

theorem below_of_mem {id : WidgetId} {l : List WidgetId} (h : s.LeadsOut id l) {x : WidgetId}
    (hx : x ∈ l) : s.Below x id := by
  induction h with
  | stop _ => cases hx
  | step hp _ ih =>
    rcases List.mem_cons.mp hx with rfl | hx
    · exact .single hp
    · exact .head hp (ih hx)

/-- **No widget is passed twice.** -/
theorem nodup {id : WidgetId} {l : List WidgetId} (h : s.LeadsOut id l) : (id :: l).Nodup := by
  induction h with
  | stop _ => simp
  | step hp hway ih =>
    have hout := LeadsOut.step hp hway
    exact List.nodup_cons.mpr ⟨fun hmem => hout.not_below_self (hout.below_of_mem hmem), ih⟩

/-- What is passed on the way out exists. -/
theorem lt_of_mem (hs : s.Linked) {id : WidgetId} {l : List WidgetId} (h : s.LeadsOut id l)
    {x : WidgetId} (hx : x ∈ l) : x < s.nextId := by
  obtain ⟨c, -, hc⟩ := Relation.TransGen.tail'_iff.mp (h.below_of_mem hx)
  exact hs.lt_of_parent? hc

/-- A way passes no more widgets than there are. -/
theorem length_lt (hs : s.Linked) {id : WidgetId} {l : List WidgetId} (h : s.LeadsOut id l)
    (hid : id < s.nextId) : l.length < s.widgets.size := by
  refine length_le_size h.nodup (fun x hx => ?_)
  rcases List.mem_cons.mp hx with rfl | hx
  · exact hid
  · exact h.lt_of_mem hs hx

/-- **The ancestors are the whole way out.** -/
theorem ancestors_eq (hs : s.Linked) {id : WidgetId} {l : List WidgetId} (h : s.LeadsOut id l)
    (hid : id < s.nextId) : s.ancestors id = l :=
  h.outward_eq (Nat.le_of_lt (h.length_lt hs hid))

end LeadsOut

/-- **From a widget that is shown there is a way out.** -/
theorem Linked.exists_leadsOut {s : Scene} (hs : s.Linked) {id : WidgetId}
    (h : s.Below root id) : ∃ l, s.LeadsOut id l := by
  induction h using Relation.TransGen.head_induction_on with
  | single hp => exact ⟨[root], .step hp (.stop hs.parent?_root)⟩
  | head hp _ ih =>
    obtain ⟨l, hl⟩ := ih
    exact ⟨_, .step hp hl⟩

namespace SameLinks

variable {s t : Scene}

theorem outward (h : SameLinks s t) (steps : Nat) (id : WidgetId) :
    s.outward steps id = t.outward steps id := by
  induction steps generalizing id with
  | zero => rfl
  | succ steps ih =>
    rw [Scene.outward, Scene.outward, h.parent?]
    cases t.parent? id with
    | none => rfl
    | some p => exact congrArg (p :: ·) (ih p)

theorem ancestors (h : SameLinks s t) (id : WidgetId) : s.ancestors id = t.ancestors id := by
  have hsize : s.widgets.size = t.widgets.size := h.nextId
  unfold Scene.ancestors
  rw [h.outward, hsize]

end SameLinks

end WidgetMarkup.Scene
