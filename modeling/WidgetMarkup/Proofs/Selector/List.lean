import WidgetMarkup.Selector.Parser

/-!
# Lists of selectors

The text of a list is cut at its commas, and the list is read if every piece
is a selector: then its members are what the pieces say, in order. So two
texts with a comma between them are a list exactly if both are, and its
members are those of both.

The cut does not look at brackets. A comma between them separates as well, and
leaves two pieces with half a condition each.
-/

namespace WidgetMarkup

/-- A list is read if each of its members is, and the answers come in the same
order. -/
theorem mapM_eq_some_iff {α β : Type} {f : α → Option β} {l : List α} {answers : List β} :
    l.mapM f = some answers ↔ l.map f = answers.map some := by
  induction l generalizing answers with
  | nil => cases answers <;> simp
  | cons a l ih =>
    rw [List.mapM_cons, Option.bind_eq_bind, Option.bind_eq_some_iff]
    simp only [Option.bind_eq_bind, Option.bind_eq_some_iff, ih, Option.pure_def,
      Option.some.injEq]
    constructor
    · rintro ⟨answer, ha, more, hmore, rfl⟩
      rw [List.map_cons, ha, hmore, List.map_cons]
    · intro h
      cases answers with
      | nil => cases h
      | cons answer more =>
        obtain ⟨ha, hmore⟩ := List.cons.inj h
        exact ⟨answer, ha, more, hmore, rfl⟩

/-- A list is not read exactly if one of its members is not. -/
theorem mapM_eq_none_iff {α β : Type} {f : α → Option β} {l : List α} :
    l.mapM f = none ↔ ∃ a ∈ l, f a = none := by
  induction l with
  | nil => simp
  | cons a l ih =>
    simp only [List.mapM_cons, List.mem_cons, exists_eq_or_imp, ← ih]
    cases f a with
    | none => simp
    | some answer => cases l.mapM f <;> simp

namespace Selector

/-- The members of a list are what its pieces are read as. -/
theorem mem_parseList?_iff {text : String} {selectors : List Selector}
    (h : parseList? text = some selectors) {selector : Selector} :
    selector ∈ selectors ↔ ∃ part ∈ text.toList.splitOn ',', parse? part = some selector := by
  have hmap := mapM_eq_some_iff.mp h
  rw [← List.mem_map, hmap]
  simp

/-- **A text is no list exactly if one of its pieces is no selector.** -/
theorem parseList?_eq_none_iff {text : String} :
    parseList? text = none ↔ ∃ part ∈ text.toList.splitOn ',', parse? part = none :=
  mapM_eq_none_iff

/-- **A comma joins two lists to one.** -/
theorem parseList?_append_comma (a b : String) :
    parseList? (a ++ "," ++ b)
      = (parseList? a).bind fun selectors =>
          (parseList? b).map fun more => selectors ++ more := by
  have hsplit : (a ++ "," ++ b).toList.splitOn ','
      = a.toList.splitOn ',' ++ b.toList.splitOn ',' := by
    rw [String.toList_append, String.toList_append, List.append_assoc]
    exact List.splitOn_append_cons_self _ _
  unfold parseList?
  rw [hsplit, List.mapM_append]
  cases a.toList.splitOn ',' |>.mapM parse? with
  | none => rfl
  | some selectors => cases b.toList.splitOn ',' |>.mapM parse? <;> rfl

/-- Two texts with a comma between them are no list exactly if one of the two is
none. -/
theorem parseList?_append_comma_eq_none_iff {a b : String} :
    parseList? (a ++ "," ++ b) = none ↔ parseList? a = none ∨ parseList? b = none := by
  rw [parseList?_append_comma]
  cases parseList? a with
  | none => simp
  | some selectors => simp

end Selector

end WidgetMarkup
