import Mathlib.Data.List.Perm.Subperm
import Mathlib.Logic.Relation
import WidgetMarkup.Proofs.Scene.Links

/-!
# Document order

What lies below a widget is said here without a walk: `Below` follows the
parents, and `ReadsAs` says how a row of widgets reads in document order, a
widget first, then what its children read as, then the rest of the row.

The walk of `descendants?` reads a row exactly like this, and the visits it
needs are the widgets it lists (`walk?_eq_some_iff`). That it ends at all is
where the links come in. A walk below `top` comes to a widget through its
parent, and through nothing else; so it comes to no widget twice as long as
it never comes back to `top` – and from a widget that does not lie below
itself it never does. `Walking` is this invariant. The root is such a widget,
whatever loops there may be elsewhere.
-/

namespace WidgetMarkup.Scene

/-- **The widget `id` lies below `top`**: its parents lead there, in one
step at least. -/
def Below (s : Scene) (top id : WidgetId) : Prop :=
  Relation.TransGen (fun c p => s.parent? c = some p) id top

/-- **How a row of widgets reads** in document order. -/
inductive ReadsAs (s : Scene) : List WidgetId → List WidgetId → Prop where
  /-- Nothing reads as nothing. -/
  | nil : ReadsAs s [] []
  /-- A widget is read before its children, and these before the rest of
  the row. -/
  | cons {id : WidgetId} {row below after : List WidgetId} :
      ReadsAs s (s.children id) below → ReadsAs s row after →
      ReadsAs s (id :: row) (id :: (below ++ after))

variable {s t : Scene}

/-! ## Reading a row in parts -/

theorem ReadsAs.append {row more l m : List WidgetId} (h : s.ReadsAs row l)
    (hmore : s.ReadsAs more m) : s.ReadsAs (row ++ more) (l ++ m) := by
  induction h with
  | nil => exact hmore
  | cons hbelow _ _ ih =>
    rw [List.cons_append, List.cons_append, List.append_assoc]
    exact .cons hbelow ih

theorem ReadsAs.of_append {row more l : List WidgetId} (h : s.ReadsAs (row ++ more) l) :
    ∃ l₁ l₂, l = l₁ ++ l₂ ∧ s.ReadsAs row l₁ ∧ s.ReadsAs more l₂ := by
  induction row generalizing l with
  | nil => exact ⟨[], l, rfl, .nil, h⟩
  | cons id row ih =>
    cases h with
    | cons hbelow hafter =>
      obtain ⟨l₁, l₂, rfl, h₁, h₂⟩ := ih hafter
      refine ⟨_, l₂, ?_, .cons hbelow h₁, h₂⟩
      rw [List.cons_append, List.append_assoc]

/-- **A row reads in one way only.** -/
theorem ReadsAs.unique {row l l' : List WidgetId} (h : s.ReadsAs row l)
    (h' : s.ReadsAs row l') : l = l' := by
  induction h generalizing l' with
  | nil =>
    cases h'
    rfl
  | cons _ _ ihbelow ihafter =>
    cases h' with
    | cons hbelow' hafter' => rw [ihbelow hbelow', ihafter hafter']

/-- **The walk reads a row**, and needs one visit for each widget it
lists. -/
theorem walk?_eq_some_iff {visits : Nat} {row l : List WidgetId} :
    s.walk? visits row = some l ↔ s.ReadsAs row l ∧ l.length ≤ visits := by
  induction visits generalizing row l with
  | zero =>
    cases row with
    | nil =>
      rw [walk?, Option.some.injEq]
      constructor
      · rintro rfl
        exact ⟨.nil, Nat.le_refl 0⟩
      · rintro ⟨h, -⟩
        cases h
        rfl
    | cons id row =>
      rw [walk?]
      constructor
      · intro h
        cases h
      · rintro ⟨h, hlen⟩
        cases h
        cases hlen
  | succ visits ih =>
    cases row with
    | nil =>
      rw [walk?, Option.some.injEq]
      constructor
      · rintro rfl
        exact ⟨.nil, Nat.zero_le _⟩
      · rintro ⟨h, -⟩
        cases h
        rfl
    | cons id row =>
      rw [walk?, Option.map_eq_some_iff]
      constructor
      · rintro ⟨rest, hrest, rfl⟩
        obtain ⟨hread, hlen⟩ := ih.mp hrest
        obtain ⟨below, after, rfl, hbelow, hafter⟩ := hread.of_append
        exact ⟨.cons hbelow hafter, Nat.succ_le_succ hlen⟩
      · rintro ⟨h, hlen⟩
        cases h with
        | cons hbelow hafter =>
          exact ⟨_, ih.mpr ⟨hbelow.append hafter, Nat.le_of_succ_le_succ hlen⟩, rfl⟩

/-! ## The walk below a widget -/

/-- There are no more different widgets than there are widgets. -/
theorem length_le_size {l : List WidgetId} (hnodup : l.Nodup) (hlt : ∀ x ∈ l, x < s.nextId) :
    l.length ≤ s.widgets.size := by
  have hsub : l ⊆ List.range s.widgets.size := fun x hx => List.mem_range.mpr (hlt x hx)
  have hlen := (List.subperm_of_subset hnodup hsub).length_le
  rwa [List.length_range] at hlen

/-- **A walk below `top`**, which has listed the widgets `seen` and still has
to read the row `todo`. -/
structure Walking (s : Scene) (top : WidgetId) (seen todo : List WidgetId) : Prop where
  /-- No widget is come to twice. -/
  nodup : (seen ++ todo).Nodup
  /-- Every widget come to lies below `top`. -/
  below : ∀ x ∈ seen ++ todo, s.Below top x
  /-- It was come to through its parent. -/
  parent : ∀ x ∈ seen ++ todo, ∃ p, s.parent? x = some p ∧ (p = top ∨ p ∈ seen)
  /-- No child was passed over. -/
  children : ∀ p, p = top ∨ p ∈ seen → ∀ c ∈ s.children p, c ∈ seen ++ todo

namespace Walking

variable {top : WidgetId}

/-- A walk begins with the children. -/
theorem begin (hs : s.Linked) (top : WidgetId) : s.Walking top [] (s.children top) where
  nodup := hs.nodup_children top
  below x hx := .single ((hs.mem_children_iff top x).mp hx)
  parent x hx := ⟨top, (hs.mem_children_iff top x).mp hx, Or.inl rfl⟩
  children p hp c hc := by
    rcases hp with rfl | hp
    · exact hc
    · cases hp

/-- **One visit keeps the walk going**: the children of the widget visited
have not been come to before. -/
theorem visit (hs : s.Linked) (htop : ¬ s.Below top top) {seen todo : List WidgetId}
    {id : WidgetId} (h : s.Walking top seen (id :: todo)) :
    s.Walking top (seen ++ [id]) (s.children id ++ todo) := by
  have hid : id ∈ seen ++ id :: todo := List.mem_append_right _ List.mem_cons_self
  -- a child that was come to before was come to through `id`, which is only
  -- listed now, or `id` is `top` again
  have hfresh : ∀ c ∈ s.children id, c ∉ seen ++ id :: todo := by
    intro c hc hmem
    obtain ⟨p, hp, hpseen⟩ := h.parent c hmem
    rw [(hs.mem_children_iff id c).mp hc, Option.some.injEq] at hp
    subst hp
    rcases hpseen with rfl | hpseen
    · exact htop (h.below _ hid)
    · exact (List.nodup_append.mp h.nodup).2.2 id hpseen id List.mem_cons_self rfl
  have hperm : (seen ++ [id] ++ (s.children id ++ todo)).Perm
      (s.children id ++ (seen ++ id :: todo)) := by
    simpa using List.perm_append_comm_assoc (seen ++ [id]) (s.children id) todo
  have hmem : ∀ x, x ∈ seen ++ [id] ++ (s.children id ++ todo)
      ↔ x ∈ s.children id ∨ x ∈ seen ++ id :: todo := by
    intro x
    rw [hperm.mem_iff, List.mem_append]
  refine ⟨?_, fun x hx => ?_, fun x hx => ?_, fun p hp c hc => ?_⟩
  · refine hperm.nodup_iff.mpr (List.nodup_append.mpr ⟨hs.nodup_children id, h.nodup, ?_⟩)
    rintro c hc _ hmem rfl
    exact hfresh c hc hmem
  · rcases (hmem x).mp hx with hx | hx
    · exact .head ((hs.mem_children_iff id x).mp hx) (h.below id hid)
    · exact h.below x hx
  · rcases (hmem x).mp hx with hx | hx
    · exact ⟨id, (hs.mem_children_iff id x).mp hx, Or.inr (by simp)⟩
    · obtain ⟨p, hp, hpseen⟩ := h.parent x hx
      exact ⟨p, hp, hpseen.imp_right (List.mem_append_left _)⟩
  · refine (hmem c).mpr ?_
    rcases hp with hp | hp
    · exact Or.inr (h.children p (Or.inl hp) c hc)
    · rcases List.mem_append.mp hp with hp | hp
      · exact Or.inr (h.children p (Or.inr hp) c hc)
      · rw [List.mem_singleton.mp hp] at hc
        exact Or.inl hc

/-- A walk comes to no more widgets than there are. -/
theorem length_le {seen todo : List WidgetId} (h : s.Walking top seen todo) :
    (seen ++ todo).length ≤ s.widgets.size := by
  refine length_le_size h.nodup (fun x hx => ?_)
  obtain ⟨p, hp, -⟩ := h.parent x hx
  exact lt_nextId_of_parent? hp

/-- **The walk ends**, with a visit left for every widget not yet
listed. -/
theorem finish (hs : s.Linked) (htop : ¬ s.Below top top) {visits : Nat}
    {seen todo : List WidgetId} (h : s.Walking top seen todo)
    (hvisits : s.widgets.size ≤ seen.length + visits) :
    ∃ l, s.walk? visits todo = some l ∧ s.Walking top (seen ++ l) [] := by
  induction visits generalizing seen todo with
  | zero =>
    cases todo with
    | nil => exact ⟨[], by rw [walk?], by rwa [List.append_nil]⟩
    | cons id todo =>
      -- without a visit left, as many widgets are listed as there are
      have hlen := h.length_le
      rw [List.length_append, List.length_cons] at hlen
      omega
  | succ visits ih =>
    cases todo with
    | nil => exact ⟨[], by rw [walk?], by rwa [List.append_nil]⟩
    | cons id todo =>
      have hlen : s.widgets.size ≤ (seen ++ [id]).length + visits := by
        rw [List.length_append, List.length_singleton]
        omega
      obtain ⟨l, hl, hend⟩ := ih (h.visit hs htop) hlen
      refine ⟨id :: l, by rw [walk?, hl]; rfl, ?_⟩
      rwa [List.append_assoc, List.singleton_append] at hend

/-- A walk that has ended has listed all that lies below `top`. -/
theorem mem_iff (hs : s.Linked) {l : List WidgetId} (h : s.Walking top l []) (x : WidgetId) :
    x ∈ l ↔ s.Below top x := by
  constructor
  · intro hx
    exact h.below x (by rwa [List.append_nil])
  · intro hx
    -- nothing is left to read, so the children of what is listed are listed
    have hclosed : ∀ p c, p = top ∨ p ∈ l → s.parent? c = some p → c ∈ l := by
      intro p c hp hc
      have hmem := h.children p hp c ((hs.mem_children_iff p c).mpr hc)
      rwa [List.append_nil] at hmem
    induction hx using Relation.TransGen.head_induction_on with
    | single hc => exact hclosed _ _ (Or.inl rfl) hc
    | head hc _ ih => exact hclosed _ _ (Or.inr ih) hc

end Walking

/-- **What lies below a widget is listed**, each widget once and in document
order, if the widget does not lie below itself. -/
theorem exists_descendants? (hs : s.Linked) {top : WidgetId} (htop : ¬ s.Below top top) :
    ∃ l, s.descendants? top = some l ∧ s.ReadsAs (s.children top) l ∧ l.Nodup
      ∧ ∀ x, x ∈ l ↔ s.Below top x := by
  obtain ⟨l, hl, hend⟩ := (Walking.begin hs top).finish hs htop (Nat.le_add_left s.widgets.size 0)
  rw [List.nil_append] at hend
  have hnodup := hend.nodup
  rw [List.append_nil] at hnodup
  exact ⟨l, hl, (walk?_eq_some_iff.mp hl).1, hnodup, hend.mem_iff hs⟩

/-! ## What is shown -/

/-- **Nothing that has no parent lies below anything.** -/
theorem not_below_of_parent? {top id : WidgetId} (h : s.parent? id = none) :
    ¬ s.Below top id := by
  intro hb
  obtain ⟨p, hp, -⟩ := Relation.TransGen.head'_iff.mp hb
  rw [h] at hp
  cases hp

/-- The parent of a widget on a loop is on a loop. -/
theorem Below.parent {x p : WidgetId} (hloop : s.Below x x) (hp : s.parent? x = some p) :
    s.Below p p := by
  obtain ⟨q, hq, hlead⟩ := Relation.TransGen.head'_iff.mp hloop
  rw [hp, Option.some.injEq] at hq
  subst hq
  exact Relation.TransGen.tail' hlead hp

namespace Linked

/-- From the root the walk ends. -/
theorem descendants?_root (hs : s.Linked) : s.descendants? root = some s.shown := by
  obtain ⟨l, hl, -⟩ := exists_descendants? hs (not_below_of_parent? hs.parent?_root)
  rw [shown, hl, Option.getD_some]

theorem shown_spec (hs : s.Linked) :
    s.ReadsAs (s.children root) s.shown ∧ s.shown.Nodup
      ∧ ∀ x, x ∈ s.shown ↔ s.Below root x := by
  obtain ⟨l, hl, hspec⟩ := exists_descendants? hs (not_below_of_parent? hs.parent?_root)
  rw [hs.descendants?_root, Option.some.injEq] at hl
  rw [hl]
  exact hspec

/-- What is shown reads as the children of the root do. -/
theorem readsAs_shown (hs : s.Linked) : s.ReadsAs (s.children root) s.shown :=
  hs.shown_spec.1

/-- Nothing is shown twice. -/
theorem nodup_shown (hs : s.Linked) : s.shown.Nodup :=
  hs.shown_spec.2.1

/-- **What is shown is what lies below the root.** -/
theorem mem_shown_iff (hs : s.Linked) {x : WidgetId} : x ∈ s.shown ↔ s.Below root x :=
  hs.shown_spec.2.2 x

/-- The root is not shown. -/
theorem root_notMem_shown (hs : s.Linked) : root ∉ s.shown :=
  fun h => not_below_of_parent? hs.parent?_root (hs.mem_shown_iff.mp h)

/-- A widget that is shown exists. -/
theorem lt_of_mem_shown (hs : s.Linked) {x : WidgetId} (h : x ∈ s.shown) : x < s.nextId := by
  obtain ⟨p, hp, -⟩ := Relation.TransGen.head'_iff.mp (hs.mem_shown_iff.mp h)
  exact lt_nextId_of_parent? hp

/-- **A loop of parents is not shown**: the parents of a widget on it stay
on it, and so never lead to the root. -/
theorem not_below_self_of_mem_shown (hs : s.Linked) {x : WidgetId} (hx : x ∈ s.shown) :
    ¬ s.Below x x := by
  have hb : s.Below root x := hs.mem_shown_iff.mp hx
  induction hb using Relation.TransGen.head_induction_on with
  | single hc => exact fun hloop => not_below_of_parent? hs.parent?_root (hloop.parent hc)
  | head hc hb ih => exact fun hloop => ih (hs.mem_shown_iff.mpr hb) (hloop.parent hc)

end Linked

/-! ## Scenes with the same links -/

namespace SameLinks

theorem walk? (h : SameLinks s t) (visits : Nat) (row : List WidgetId) :
    s.walk? visits row = t.walk? visits row := by
  induction visits generalizing row with
  | zero => cases row <;> rfl
  | succ visits ih =>
    cases row with
    | nil => rfl
    | cons id row => rw [Scene.walk?, Scene.walk?, h.children, ih]

/-- The same links show the same widgets. -/
theorem shown (h : SameLinks s t) : s.shown = t.shown := by
  have hsize : s.widgets.size = t.widgets.size := h.nextId
  unfold Scene.shown descendants?
  rw [h.walk?, h.children, hsize]

end SameLinks

end WidgetMarkup.Scene
