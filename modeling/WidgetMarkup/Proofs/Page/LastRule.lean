import Mathlib.Algebra.BigOperators.Fin
import WidgetMarkup.Proofs.Page.Bare
import WidgetMarkup.Proofs.Style.Table

/-!
# The last rule wins

A book of rules is applied rule by rule, and each rule asks anew which
widgets it selects. Since no rule sees a style, the answers are those that
the scene gave at the beginning. So for one widget, applying the book comes
to merging into its style, in the order of the book, the properties of the
rules that meet it (`restyle`), and a property comes out as the last of
these rules that has it says (`get?_restyle`).

From this it follows that applying the book a second time changes nothing:
where a rule has something to say about a property, the last one has said it
already.
-/

namespace WidgetMarkup.Scene

/-- Does the rule select the widget? A rule whose selector cannot be read
selects none. -/
def meets (s : Scene) (r : Style.Rule) (id : WidgetId) : Bool :=
  match Selector.parseList? r.selector with
  | none => false
  | some selectors => s.selects selectors id

/-- **Does the rule give this property to the widget?** It does if the
widget is shown, the rule selects it, and the rule has the property. -/
def gives (s : Scene) (id : WidgetId) (k : String) (r : Style.Rule) : Bool :=
  decide (id ∈ s.shown) && s.meets r id && (r.properties.get? k).isSome

/-- What the last of the rules that give a property to a widget gives. -/
def lastGiven? (s : Scene) (rules : List Style.Rule) (id : WidgetId) (k : String) :
    Option String :=
  (rules.filter (s.gives id k)).getLast?.bind (·.properties.get? k)

/-- The style of a widget after the rules, if this is its style before. -/
def restyle (s : Scene) (rules : List Style.Rule) (id : WidgetId) (t : Style.Properties) :
    Style.Properties :=
  rules.foldl (fun t r => if id ∈ s.query r.selector then t.merge r.properties else t) t

variable {s t : Scene}

/-! ## Whom a rule meets -/

theorem query_selector_eq_filter (s : Scene) (r : Style.Rule) :
    s.query r.selector = s.shown.filter (s.meets r) := by
  unfold query meets
  cases Selector.parseList? r.selector with
  | none => exact (List.filter_eq_nil_iff.mpr (by simp)).symm
  | some selectors => rfl

theorem mem_query_selector_iff {r : Style.Rule} {id : WidgetId} :
    id ∈ s.query r.selector ↔ id ∈ s.shown ∧ s.meets r id = true := by
  rw [query_selector_eq_filter, List.mem_filter]

theorem gives_eq_true_iff {id : WidgetId} {k : String} {r : Style.Rule} :
    s.gives id k r = true
      ↔ id ∈ s.query r.selector ∧ (r.properties.get? k).isSome = true := by
  rw [mem_query_selector_iff]
  simp [gives]

/-- Scenes that differ in styles only answer queries alike. -/
theorem query_congr (h : s.bare = t.bare) (text : String) : s.query text = t.query text := by
  rw [← query_bare s, h, query_bare]

theorem lastGiven?_congr (h : s.bare = t.bare) : s.lastGiven? = t.lastGiven? := by
  have hgives : s.gives = t.gives := by
    funext id k r
    rw [Bool.eq_iff_iff, gives_eq_true_iff, gives_eq_true_iff, query_congr h]
  unfold lastGiven?
  rw [hgives]

/-- Rules give a widget what they give to another of another scene, if it is
shown when that one is and the same selectors select it. -/
theorem lastGiven?_eq_of_selects {a b : WidgetId} (hshown : b ∈ t.shown ↔ a ∈ s.shown)
    (hselects : ∀ selectors, a ∈ s.shown → t.selects selectors b = s.selects selectors a)
    (rules : List Style.Rule) (k : String) : t.lastGiven? rules b k = s.lastGiven? rules a k := by
  have hgives : t.gives b k = s.gives a k := by
    funext r
    unfold gives meets
    rw [decide_eq_decide.mpr hshown]
    by_cases ha : a ∈ s.shown
    · cases Selector.parseList? r.selector with
      | none => rfl
      | some selectors =>
        dsimp only
        rw [hselects selectors ha]
    · simp [ha]
  unfold lastGiven?
  rw [hgives]

theorem restyle_congr (h : s.bare = t.bare) (rules : List Style.Rule) (id : WidgetId)
    (u : Style.Properties) : s.restyle rules id u = t.restyle rules id u := by
  unfold restyle
  simp only [query_congr h]

/-! ## One rule -/

theorem widget?_mergeStyles (s : Scene) (ids : List WidgetId) (u : Style.Properties)
    (id : WidgetId) :
    (s.mergeStyles ids u).widget? id
      = (s.widget? id).map fun w =>
          { w with style := if id ∈ ids then w.style.merge u else w.style } := by
  induction ids generalizing s with
  | nil => simp [mergeStyles]
  | cons i more ih =>
    have hstep : (s.mergeStyle i u).widget? id
        = (s.widget? id).map fun w =>
            { w with style := if i = id then w.style.merge u else w.style } := by
      unfold mergeStyle
      rw [widget?_update]
      by_cases hi : i = id <;> simp [hi, Widget.mergeStyle]
    show ((s.mergeStyle i u).mergeStyles more u).widget? id = _
    rw [ih, hstep, Option.map_map]
    refine Option.map_congr (fun w _ => ?_)
    rw [Function.comp_apply]
    refine congrArg (fun style => { w with style }) ?_
    -- a widget that is listed twice is merged into twice
    by_cases hi : i = id
    · subst hi
      by_cases hmore : i ∈ more <;> simp [hmore, Style.Properties.merge_merge_self]
    · simp [hi, Ne.symm hi]

theorem bare_mergeStyles (s : Scene) (ids : List WidgetId) (u : Style.Properties) :
    (s.mergeStyles ids u).bare = s.bare := by
  induction ids generalizing s with
  | nil => rfl
  | cons i more ih => exact (ih (s.mergeStyle i u)).trans (bare_mergeStyle s i u)

theorem Reachable.mergeStyles (h : s.Reachable) {ids : List WidgetId}
    (hids : ∀ id ∈ ids, id < s.nextId) (u : Style.Properties) : (s.mergeStyles ids u).Reachable := by
  induction ids generalizing s with
  | nil => exact h
  | cons i more ih =>
    refine ih (h.mergeStyle (hids i List.mem_cons_self) u) (fun id hid => ?_)
    rw [(sameLinks_mergeStyle s i u).nextId]
    exact hids id (List.mem_cons_of_mem i hid)

/-! ## All rules -/

/-- What rules make of a scene is a scene again: what they meet exists. -/
theorem Reachable.applyRules (h : s.Reachable) (rules : List Style.Rule) :
    (s.applyRules rules).1.Reachable := by
  induction rules generalizing s with
  | nil => exact h
  | cons r more ih =>
    refine ih (h.mergeStyles (fun id hid => ?_) _)
    exact h.linked.lt_of_mem_shown (mem_query_selector_iff.mp hid).1

/-- **Rules change styles only.** -/
theorem bare_applyRules (s : Scene) (rules : List Style.Rule) :
    (s.applyRules rules).1.bare = s.bare := by
  induction rules generalizing s with
  | nil => rfl
  | cons r more ih => exact (ih (s.applyRule r)).trans (bare_mergeStyles s _ _)

theorem flushes_applyRules (s : Scene) (rules : List Style.Rule) :
    (s.applyRules rules).1.flushes = s.flushes := by
  rw [← flushes_bare, bare_applyRules, flushes_bare]

/-- **What the rules do to each widget**: its style becomes what the rules
that meet it in the scene as it was make of it. -/
theorem widget?_applyRules (s : Scene) (rules : List Style.Rule) (id : WidgetId) :
    (s.applyRules rules).1.widget? id
      = (s.widget? id).map fun w => { w with style := s.restyle rules id w.style } := by
  induction rules generalizing s with
  | nil => simp [applyRules, restyle]
  | cons r more ih =>
    have hbare : (s.applyRule r).bare = s.bare := bare_mergeStyles s _ _
    show ((s.applyRule r).applyRules more).1.widget? id = _
    rw [ih]
    unfold applyRule at hbare ⊢
    rw [widget?_mergeStyles, Option.map_map]
    refine Option.map_congr (fun w _ => ?_)
    rw [Function.comp_apply]
    exact congrArg (fun style => { w with style }) (restyle_congr hbare more id _)

/-- Every rule counts the widgets it meets in the scene as it was. -/
theorem applyRules_snd (s : Scene) (rules : List Style.Rule) :
    (s.applyRules rules).2 = (rules.map fun r => (s.query r.selector).length).sum := by
  induction rules generalizing s with
  | nil => rfl
  | cons r more ih =>
    have hbare : (s.applyRule r).bare = s.bare := bare_mergeStyles s _ _
    show (s.query r.selector).length + ((s.applyRule r).applyRules more).2 = _
    rw [ih, List.map_cons, List.sum_cons]
    simp only [query_congr hbare]

/-! ## Which rule wins -/

theorem lastGiven?_cons (s : Scene) (r : Style.Rule) (rules : List Style.Rule) (id : WidgetId)
    (k : String) :
    s.lastGiven? (r :: rules) id k
      = (s.lastGiven? rules id k).or
          (if id ∈ s.query r.selector then r.properties.get? k else none) := by
  unfold lastGiven?
  rw [List.filter_cons]
  by_cases hgives : s.gives id k r = true
  · obtain ⟨hquery, -⟩ := gives_eq_true_iff.mp hgives
    rw [if_pos hgives, if_pos hquery, List.getLast?_cons]
    cases hlast : (rules.filter (s.gives id k)).getLast? with
    | none => rfl
    | some last =>
      -- a later rule that gives the property has it
      have hmem := List.mem_filter.mp (List.mem_of_getLast? hlast)
      obtain ⟨v, hv⟩ := Option.isSome_iff_exists.mp (gives_eq_true_iff.mp hmem.2).2
      simp [hv]
  · have hnone : (if id ∈ s.query r.selector then r.properties.get? k else none) = none := by
      split
      · next hquery =>
        rw [gives_eq_true_iff, not_and] at hgives
        exact Option.not_isSome_iff_eq_none.mp (hgives hquery)
      · rfl
    rw [if_neg hgives, hnone, Option.or_none]

/-- Of two books the later one decides, if it gives the property at all. -/
theorem lastGiven?_append (s : Scene) (rules more : List Style.Rule) (id : WidgetId)
    (k : String) :
    s.lastGiven? (rules ++ more) id k
      = (s.lastGiven? more id k).or (s.lastGiven? rules id k) := by
  induction rules with
  | nil => exact (Option.or_none).symm
  | cons r rules ih => rw [List.cons_append, lastGiven?_cons, ih, lastGiven?_cons, Option.or_assoc]

/-- **A property is what the last rule that gives it says**, and stays as it
was if none does. -/
theorem get?_restyle (s : Scene) (rules : List Style.Rule) (id : WidgetId)
    (u : Style.Properties) (k : String) :
    (s.restyle rules id u).get? k = (s.lastGiven? rules id k).or (u.get? k) := by
  induction rules generalizing u with
  | nil => rfl
  | cons r more ih =>
    show (s.restyle more id (if id ∈ s.query r.selector then u.merge r.properties else u)).get? k
      = _
    rw [ih, lastGiven?_cons, Option.or_assoc]
    congr 1
    split
    · rw [Style.Properties.get?_merge]
    · rfl

/-- What rules have made of a style, they make of it again. -/
theorem restyle_restyle (s : Scene) (rules : List Style.Rule) (id : WidgetId)
    (u : Style.Properties) : s.restyle rules id (s.restyle rules id u) = s.restyle rules id u := by
  refine Style.Properties.ext_get? (fun k => ?_)
  rw [get?_restyle, get?_restyle, ← Option.or_assoc, Option.or_self]

/-- **A second application changes nothing**, and meets as many widgets. -/
theorem applyRules_applyRules (s : Scene) (rules : List Style.Rule) :
    (s.applyRules rules).1.applyRules rules = s.applyRules rules := by
  have hbare := bare_applyRules s rules
  refine Prod.ext (ext_widget? (fun id => ?_) ?_) ?_
  · rw [widget?_applyRules, widget?_applyRules, Option.map_map]
    refine Option.map_congr (fun w _ => ?_)
    rw [Function.comp_apply, restyle_congr hbare, restyle_restyle]
  · rw [flushes_applyRules]
  · rw [applyRules_snd, applyRules_snd]
    simp only [query_congr hbare]

/-- The count is the number of pairs of a rule and a widget shown that it
meets. -/
theorem applyRules_snd_eq_card (hs : s.Linked) (rules : List Style.Rule) :
    (s.applyRules rules).2
      = (((Finset.univ : Finset (Fin rules.length)) ×ˢ s.shown.toFinset).filter
          fun pair => s.meets rules[pair.1] pair.2 = true).card := by
  have hone : ∀ r : Style.Rule, (s.query r.selector).length
      = (s.shown.toFinset.filter fun id => s.meets r id = true).card := by
    intro r
    rw [query_selector_eq_filter, ← List.toFinset_filter,
      List.toFinset_card_of_nodup (hs.nodup_shown.filter _)]
  rw [applyRules_snd, Finset.card_filter, Finset.sum_product]
  simp only [hone, Finset.card_filter]
  exact (Fin.sum_univ_fun_getElem rules fun r =>
    ∑ id ∈ s.shown.toFinset, if s.meets r id = true then 1 else 0).symm

/-- **Applying a book of rules is 'the last rule wins'.**

* A widget changes in its style only. A property of it is what the last rule
  of the book says that selects the widget and has the property, provided
  that the widget is shown, and as it was before if there is no such rule.
* No widget comes or goes, and no signal is counted.
* The number returned is the number of pairs of a rule and a widget shown
  that the rule selects.
* A second application changes nothing and returns the same number. -/
theorem applyRules_last_wins {s : Scene} (h : s.Reachable) (rules : List Style.Rule) :
    s.descendants? root = some s.shown
      ∧ (∀ id w, s.widget? id = some w → ∃ style : Style.Properties,
          (s.applyRules rules).1.widget? id = some { w with style }
            ∧ ∀ k, style.get? k = (s.lastGiven? rules id k).or (w.style.get? k))
      ∧ (s.applyRules rules).1.nextId = s.nextId
      ∧ (s.applyRules rules).1.flushes = s.flushes
      ∧ (s.applyRules rules).2
          = (((Finset.univ : Finset (Fin rules.length)) ×ˢ s.shown.toFinset).filter
              fun pair => s.meets rules[pair.1] pair.2 = true).card
      ∧ (s.applyRules rules).1.applyRules rules = s.applyRules rules := by
  refine ⟨h.linked.descendants?_root, fun id w hw => ?_, ?_, flushes_applyRules s rules,
    applyRules_snd_eq_card h.linked rules, applyRules_applyRules s rules⟩
  · refine ⟨s.restyle rules id w.style, ?_, get?_restyle s rules id w.style⟩
    rw [widget?_applyRules, hw]
    rfl
  · rw [← nextId_bare, bare_applyRules, nextId_bare]

/-- A text in a view. -/
def textInView : Scene :=
  ((new.create "view").create "text" |>.append root 1).append 1 2

theorem reachable_textInView : textInView.Reachable := by
  refine Reachable.append (Reachable.append (.create (.create .new "view") "text") ?_ ?_ ?_)
    ?_ ?_ ?_
  all_goals decide

/-- Rules that meet the same widget, and one that cannot be read between
them. -/
def overlapping : List Style.Rule :=
  [⟨"view text", .ofEntries [("color", "red"), ("width", "1")]⟩,
    ⟨"view >", .ofEntries [("color", "green")]⟩,
    ⟨"*", .ofEntries [("color", "blue")]⟩]

/-- The text takes its color from the last rule and its width from the
first. -/
theorem applyRules_last_wins_textInView :
    textInView.Reachable ∧ ∃ style : Style.Properties,
      (textInView.applyRules overlapping).1.widget? 2
          = some { kind := .text, tag := "text", parent := some 1, style }
        ∧ style.get? "color" = some "blue" ∧ style.get? "width" = some "1"
        ∧ style.get? "height" = none := by
  obtain ⟨-, hwidget, -⟩ := applyRules_last_wins reachable_textInView overlapping
  obtain ⟨style, hstyle, hget⟩ :=
    hwidget 2 { kind := .text, tag := "text", parent := some 1 } (by decide)
  refine ⟨reachable_textInView, style, hstyle, ?_, ?_, ?_⟩
  · exact (hget "color").trans (by decide +kernel)
  · exact (hget "width").trans (by decide +kernel)
  · exact (hget "height").trans (by decide +kernel)

end WidgetMarkup.Scene
