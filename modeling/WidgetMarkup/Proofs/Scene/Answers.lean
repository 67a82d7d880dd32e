import WidgetMarkup.Proofs.Scene.Ancestors
import WidgetMarkup.Proofs.Selector.List

/-!
# What a query answers

A query looks at every widget shown, and asks of each whether a selector of
the list selects it. Whether it does is said here by the links alone
(`Selected`): the selector is given the widget and all that lies on its way
out, the root at the end. So the root may meet a condition on the ancestors
of a widget, and it is no answer itself, since it is not shown.

The answer is what is left of the document order when the other widgets are
taken out. A widget that several selectors of the list select stands in it
once, and a list with a piece that is no selector selects nothing.
-/

namespace WidgetMarkup.Scene

variable {s : Scene}

/-- **The selector selects the widget**: its way out ends at the root, and the
selector accepts it with the elements on this way for its ancestors. -/
def Selected (s : Scene) (selector : Selector) (id : WidgetId) : Prop :=
  ∃ w way outside, s.widget? id = some w
    ∧ s.LeadsOut id way ∧ way.getLast? = some root
    ∧ way.map (fun x => (s.widget? x).map Widget.element) = outside.map some
    ∧ selector.accepts w.element outside = true

/-- From a widget that is shown the way out ends at the root. -/
theorem Linked.exists_leadsOut_root (hs : s.Linked) {id : WidgetId} (h : s.Below root id) :
    ∃ way, s.LeadsOut id way ∧ way.getLast? = some root := by
  induction h using Relation.TransGen.head_induction_on with
  | single hp => exact ⟨[root], .step hp (.stop hs.parent?_root), rfl⟩
  | head hp _ ih =>
    obtain ⟨way, hway, hlast⟩ := ih
    refine ⟨_, .step hp hway, ?_⟩
    rw [List.getLast?_cons, hlast]
    rfl

/-- Of widgets that exist every element is seen. -/
theorem map_some_elements {ids : List WidgetId} (hids : ∀ id ∈ ids, id < s.nextId) :
    (s.elements ids).map some = ids.map fun x => (s.widget? x).map Widget.element := by
  unfold elements
  rw [List.map_filterMap_some_eq_filter_map_isSome, List.filter_eq_self]
  intro e he
  obtain ⟨id, hid, rfl⟩ := List.mem_map.mp he
  obtain ⟨w, hw⟩ := widget?_eq_some_of_lt (hids id hid)
  rw [hw]
  rfl

/-- **A widget shown is found if a selector of the list selects it.** -/
theorem selects_eq_true_iff (hs : s.Linked) {selectors : List Selector} {id : WidgetId}
    (hshown : id ∈ s.shown) :
    s.selects selectors id = true ↔ ∃ selector ∈ selectors, s.Selected selector id := by
  have hid := hs.lt_of_mem_shown hshown
  obtain ⟨w, hw⟩ := widget?_eq_some_of_lt hid
  obtain ⟨way, hway, hlast⟩ := hs.exists_leadsOut_root (hs.mem_shown_iff.mp hshown)
  have hseen := map_some_elements fun x hx => hway.lt_of_mem hs hx
  unfold selects
  rw [hw, hway.ancestors_eq hs hid]
  simp only [List.any_eq_true]
  refine exists_congr fun selector => and_congr_right fun _ => ?_
  constructor
  · exact fun h => ⟨w, way, s.elements way, hw, hway, hlast, hseen.symm, h⟩
  · rintro ⟨w', way', outside, hw', hway', -, houtside, h⟩
    -- there is one way out only
    obtain rfl : way = way' := (hway.ancestors_eq hs hid).symm.trans (hway'.ancestors_eq hs hid)
    obtain rfl : w = w' := Option.some.inj (hw.symm.trans hw')
    obtain rfl : s.elements way = outside := by
      rw [← hseen] at houtside
      exact List.map_injective_iff.mpr (fun _ _ => Option.some.inj) houtside
    exact h

/-- Nothing but what is shown is an answer, in document order. -/
theorem query_sublist_shown (s : Scene) (text : String) : (s.query text).Sublist s.shown := by
  unfold query
  cases Selector.parseList? text with
  | none => exact List.nil_sublist _
  | some selectors => exact List.filter_sublist

theorem mem_query_iff (hs : s.Linked) {text : String} {selectors : List Selector}
    (h : Selector.parseList? text = some selectors) {id : WidgetId} :
    id ∈ s.query text ↔ id ∈ s.shown ∧ ∃ selector ∈ selectors, s.Selected selector id := by
  unfold query
  rw [h]
  simp only [List.mem_filter]
  exact and_congr_right fun hshown => selects_eq_true_iff hs hshown

/-! ## Lists of selectors -/

/-- A text that is no list has no answers. -/
theorem query_eq_nil_of_parseList? {text : String} (h : Selector.parseList? text = none) :
    s.query text = [] := by
  rw [query, h]

/-- **The answers to a list** are what its pieces select. -/
theorem mem_query_iff_part (hs : s.Linked) {text : String}
    (hparts : ∀ part ∈ text.toList.splitOn ',', Selector.parse? part ≠ none) {id : WidgetId} :
    id ∈ s.query text
      ↔ id ∈ s.shown ∧ ∃ part ∈ text.toList.splitOn ',', ∃ selector,
          Selector.parse? part = some selector ∧ s.Selected selector id := by
  have hread : Selector.parseList? text ≠ none := by
    rw [ne_eq, Selector.parseList?_eq_none_iff]
    exact fun ⟨part, hpart, hnone⟩ => hparts part hpart hnone
  obtain ⟨selectors, hselectors⟩ := Option.ne_none_iff_exists'.mp hread
  rw [mem_query_iff hs hselectors]
  refine and_congr_right fun _ => ?_
  simp only [Selector.mem_parseList?_iff hselectors]
  constructor
  · rintro ⟨selector, ⟨part, hpart, hread⟩, hselected⟩
    exact ⟨part, hpart, selector, hread, hselected⟩
  · rintro ⟨part, hpart, selector, hread, hselected⟩
    exact ⟨selector, ⟨part, hpart, hread⟩, hselected⟩

/-- **The answers to two lists in one** are those to either. -/
theorem mem_query_append_comma_iff (hs : s.Linked) {a b : String}
    (ha : Selector.parseList? a ≠ none) (hb : Selector.parseList? b ≠ none) {id : WidgetId} :
    id ∈ s.query (a ++ "," ++ b) ↔ id ∈ s.query a ∨ id ∈ s.query b := by
  obtain ⟨selectors, hselectors⟩ := Option.ne_none_iff_exists'.mp ha
  obtain ⟨more, hmore⟩ := Option.ne_none_iff_exists'.mp hb
  have hboth : Selector.parseList? (a ++ "," ++ b) = some (selectors ++ more) := by
    rw [Selector.parseList?_append_comma, hselectors, hmore]
    rfl
  rw [mem_query_iff hs hboth, mem_query_iff hs hselectors, mem_query_iff hs hmore,
    ← and_or_left]
  refine and_congr_right fun _ => ?_
  simp only [List.mem_append, or_and_right, exists_or]

/-- **What a query answers.** Let `l` be what is shown, in document order.

* A text with a piece between commas that is no selector has no answers.
* If every piece is a selector, the answers are the members of `l`, in the
  same order and each once, that one of the pieces selects. The root is not
  among them.
* Of two lists with a comma between them the answers are those of either,
  and there are none if one of the two is no list. -/
theorem query_spec (h : s.Reachable) :
    ∃ l, s.descendants? root = some l ∧ l.Nodup ∧ root ∉ l
      ∧ (∀ text, (s.query text).Sublist l)
      ∧ (∀ text, (∃ part ∈ text.toList.splitOn ',', Selector.parse? part = none) →
          s.query text = [])
      ∧ (∀ text, (∀ part ∈ text.toList.splitOn ',', Selector.parse? part ≠ none) →
          ∀ id, id ∈ s.query text
            ↔ id ∈ l ∧ ∃ part ∈ text.toList.splitOn ',', ∃ selector,
                Selector.parse? part = some selector ∧ s.Selected selector id)
      ∧ (∀ a b, Selector.parseList? a ≠ none → Selector.parseList? b ≠ none →
          ∀ id, id ∈ s.query (a ++ "," ++ b) ↔ id ∈ s.query a ∨ id ∈ s.query b)
      ∧ ∀ a b, Selector.parseList? a = none ∨ Selector.parseList? b = none →
          s.query (a ++ "," ++ b) = [] := by
  have hs := h.linked
  refine ⟨s.shown, hs.descendants?_root, hs.nodup_shown, hs.root_notMem_shown,
    s.query_sublist_shown, fun text hpart => ?_, fun text hparts id => ?_,
    fun a b ha hb id => ?_, fun a b hab => ?_⟩
  · exact query_eq_nil_of_parseList? (Selector.parseList?_eq_none_iff.mpr hpart)
  · exact mem_query_iff_part hs hparts
  · exact mem_query_append_comma_iff hs ha hb
  · exact query_eq_nil_of_parseList? (Selector.parseList?_append_comma_eq_none_iff.mpr hab)

/-- A text in a view that is shown, and two widgets on a loop beside it. -/
def besideLoop : Scene :=
  (((((new.create "view").create "text").create "text").create "text").append root 1
    |>.append 1 2 |>.append 3 4).append 4 3

theorem reachable_besideLoop : besideLoop.Reachable := by
  refine Reachable.append (Reachable.append (Reachable.append (Reachable.append (.create
    (.create (.create (.create .new "view") "text") "text") "text") ?_ ?_ ?_) ?_ ?_ ?_)
    ?_ ?_ ?_) ?_ ?_ ?_
  all_goals decide

/-- The root is the parent of the view and no answer itself; the texts on the
loop are no answers, and the one in the view is one answer though both members
of the list select it. -/
theorem query_spec_besideLoop :
    besideLoop.Reachable
      ∧ (∀ id, id ∈ besideLoop.query ("root > * text" ++ "," ++ "text")
          ↔ id ∈ besideLoop.query "root > * text" ∨ id ∈ besideLoop.query "text")
      ∧ (besideLoop.query "root > * text,text").Sublist [1, 2]
      ∧ 2 ∈ besideLoop.query "root > * text"
      ∧ besideLoop.query ("root > *" ++ "," ++ "text >") = [] := by
  obtain ⟨l, hl, -, -, hsub, -, -, hunion, hnone⟩ := query_spec reachable_besideLoop
  have hwalk : besideLoop.descendants? root = some [1, 2] := by decide
  rw [hwalk, Option.some.injEq] at hl
  subst hl
  refine ⟨reachable_besideLoop, hunion _ _ ?_ ?_, hsub _, ?_, hnone _ _ (Or.inr ?_)⟩
  all_goals decide +kernel

end WidgetMarkup.Scene
