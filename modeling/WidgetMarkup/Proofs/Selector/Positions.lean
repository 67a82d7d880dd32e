import Mathlib.Data.Fin.Tuple.Basic
import Mathlib.Order.Fin.Basic
import WidgetMarkup.Selector.Matching

/-!
# What a selector means

`acceptsChain` tries ancestors one after another. What it answers is said
here without any order of trying: an element stands in a row with its
ancestors, itself first, and the conditions are met if places can be found
for them in this row, each farther out than the one before – right behind it
for the child combinator, anywhere behind it for the descendant combinator.

The nearest ancestor that meets a descendant condition may be a wrong choice,
and no choice is preferred by the statement. So it would be false of a search
that settles on the first ancestor that fits.
-/

namespace WidgetMarkup

/-- **Places for conditions**, along a row of elements: place 0 is where one
starts, and each condition is met at a place of its own, which its combinator
allows. -/
def Placed (conditions : List (Combinator × Compound)) (row : List Element)
    (place : Fin (conditions.length + 1) → ℕ) : Prop :=
  ∀ j : Fin conditions.length,
    place j.castSucc < place j.succ
      ∧ ((conditions.get j).1 = .child → place j.succ = place j.castSucc + 1)
      ∧ ∃ e, row[place j.succ]? = some e ∧ (conditions.get j).2.accepts e = true

/-- The places for one condition more: the next place is allowed and the
condition is met there, and the others are placed from there on. -/
theorem placed_cons_iff {comb : Combinator} {c : Compound}
    {conditions : List (Combinator × Compound)} {row : List Element} {start : ℕ}
    {place : Fin (conditions.length + 1) → ℕ} :
    Placed ((comb, c) :: conditions) row (Fin.cons start place)
      ↔ (start < place 0 ∧ (comb = .child → place 0 = start + 1)
          ∧ ∃ e, row[place 0]? = some e ∧ c.accepts e = true)
        ∧ Placed conditions row place := by
  unfold Placed
  refine Fin.forall_fin_succ.trans ?_
  rfl

/-! ## One condition -/

/-- A descendant condition is met at some ancestor from which the others are
met. -/
theorem acceptsChain_descendant_iff {c : Compound} {conditions : List (Combinator × Compound)}
    {chain : List Element} :
    acceptsChain ((.descendant, c) :: conditions) chain = true
      ↔ ∃ d e, chain[d]? = some e ∧ c.accepts e = true
          ∧ acceptsChain conditions (chain.drop (d + 1)) = true := by
  induction chain with
  | nil => simp [acceptsChain]
  | cons e chain ih =>
    rw [acceptsChain, Bool.or_eq_true, Bool.and_eq_true, ih]
    constructor
    · rintro (⟨hc, hrest⟩ | ⟨d, e', he', hc, hrest⟩)
      · exact ⟨0, e, rfl, hc, hrest⟩
      · exact ⟨d + 1, e', he', hc, hrest⟩
    · rintro ⟨d, e', he', hc, hrest⟩
      cases d with
      | zero =>
        obtain rfl : e = e' := Option.some.inj he'
        exact Or.inl ⟨hc, hrest⟩
      | succ d => exact Or.inr ⟨d, e', he', hc, hrest⟩

/-- A child condition is met at the parent, and the others from there. -/
theorem acceptsChain_child_iff {c : Compound} {conditions : List (Combinator × Compound)}
    {chain : List Element} :
    acceptsChain ((.child, c) :: conditions) chain = true
      ↔ ∃ e, chain[0]? = some e ∧ c.accepts e = true
          ∧ acceptsChain conditions (chain.drop 1) = true := by
  cases chain with
  | nil => simp [acceptsChain]
  | cons e chain => simp [acceptsChain]

/-- **One condition**: it is met some way out, as far as its combinator
allows, and the others are met from there. -/
theorem acceptsChain_cons_iff {comb : Combinator} {c : Compound}
    {conditions : List (Combinator × Compound)} {row : List Element} {start : ℕ} :
    acceptsChain ((comb, c) :: conditions) (row.drop (start + 1)) = true
      ↔ ∃ next, (start < next ∧ (comb = .child → next = start + 1)
            ∧ ∃ e, row[next]? = some e ∧ c.accepts e = true)
          ∧ acceptsChain conditions (row.drop (next + 1)) = true := by
  cases comb with
  | child =>
    rw [acceptsChain_child_iff, List.getElem?_drop, List.drop_drop]
    constructor
    · rintro ⟨e, he, hc, hrest⟩
      exact ⟨start + 1, ⟨Nat.lt_succ_self start, fun _ => rfl, e, he, hc⟩, hrest⟩
    · rintro ⟨next, ⟨-, hnext, e, he, hc⟩, hrest⟩
      obtain rfl := hnext rfl
      exact ⟨e, he, hc, hrest⟩
  | descendant =>
    rw [acceptsChain_descendant_iff]
    simp only [List.getElem?_drop, List.drop_drop]
    constructor
    · rintro ⟨d, e, he, hc, hrest⟩
      refine ⟨start + 1 + d, ⟨by omega, by simp, e, he, hc⟩, ?_⟩
      rwa [Nat.add_assoc]
    · rintro ⟨next, ⟨hlt, -, e, he, hc⟩, hrest⟩
      obtain ⟨d, rfl⟩ := Nat.exists_eq_add_of_le (Nat.succ_le_of_lt hlt)
      exact ⟨d, e, he, hc, by rwa [← Nat.add_assoc]⟩

/-! ## All conditions -/

/-- **The conditions are met if places can be found for them.** -/
theorem acceptsChain_iff_exists_placed {conditions : List (Combinator × Compound)}
    (row : List Element) (start : ℕ) :
    acceptsChain conditions (row.drop (start + 1)) = true
      ↔ ∃ place : Fin (conditions.length + 1) → ℕ,
          place 0 = start ∧ Placed conditions row place := by
  induction conditions generalizing start with
  | nil =>
    rw [acceptsChain]
    exact ⟨fun _ => ⟨fun _ => start, rfl, fun j => j.elim0⟩, fun _ => rfl⟩
  | cons condition conditions ih =>
    obtain ⟨comb, c⟩ := condition
    rw [acceptsChain_cons_iff]
    constructor
    · rintro ⟨next, hnext, hrest⟩
      obtain ⟨place, rfl, hplaced⟩ := (ih next).mp hrest
      exact ⟨Fin.cons start place, rfl, placed_cons_iff.mpr ⟨hnext, hplaced⟩⟩
    · rintro ⟨place, rfl, hplaced⟩
      rw [← Fin.cons_self_tail place, placed_cons_iff] at hplaced
      exact ⟨_, hplaced.1, (ih _).mpr ⟨_, rfl, hplaced.2⟩⟩

/-- **An element is selected if it meets the key and there are places for the
conditions** in the row of the element and its ancestors: the element itself
is at place 0, the places go outward, every condition is met at its place, and
a child condition is met right behind the place before it. -/
theorem Selector.accepts_iff_exists_places (s : Selector) (e : Element)
    (ancestors : List Element) :
    s.accepts e ancestors = true
      ↔ s.key.accepts e = true
        ∧ ∃ place : Fin (s.ancestors.length + 1) → Fin (e :: ancestors).length,
            (place 0 : ℕ) = 0 ∧ StrictMono place
              ∧ ∀ j : Fin s.ancestors.length,
                  (s.ancestors.get j).2.accepts ((e :: ancestors).get (place j.succ)) = true
                    ∧ ((s.ancestors.get j).1 = .child →
                        (place j.succ : ℕ) = place j.castSucc + 1) := by
  rw [Selector.accepts, Bool.and_eq_true]
  refine and_congr_right fun _ => (acceptsChain_iff_exists_placed (e :: ancestors) 0).trans ?_
  constructor
  · rintro ⟨place, hzero, hplaced⟩
    -- a place at which something stands is a place of the row
    have hlt : ∀ j, place j < (e :: ancestors).length := by
      intro j
      cases j using Fin.cases with
      | zero =>
        rw [hzero]
        exact Nat.zero_lt_succ _
      | succ j =>
        obtain ⟨-, -, x, hx, -⟩ := hplaced j
        exact (List.getElem?_eq_some_iff.mp hx).1
    refine ⟨fun j => ⟨place j, hlt j⟩, hzero, ?_, fun j => ?_⟩
    · exact Fin.strictMono_iff_lt_succ.mpr fun j => (hplaced j).1
    · obtain ⟨-, hchild, x, hx, hc⟩ := hplaced j
      obtain ⟨_, rfl⟩ := List.getElem?_eq_some_iff.mp hx
      exact ⟨hc, hchild⟩
  · rintro ⟨place, hzero, hmono, hmet⟩
    refine ⟨fun j => place j, hzero, fun j => ⟨?_, (hmet j).2, ?_⟩⟩
    · exact Fin.strictMono_iff_lt_succ.mp hmono j
    · exact ⟨_, List.getElem?_eq_getElem (place j.succ).isLt, (hmet j).1⟩

end WidgetMarkup
