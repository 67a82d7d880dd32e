import WidgetMarkup.Proofs.Scene.Answers
import WidgetMarkup.Proofs.Scene.Structure
import WidgetMarkup.Proofs.Selector.Conjunction
import WidgetMarkup.Proofs.Style.Table

/-!
# Asking for a value

The text `[name="value"]` asks for the widgets that have this value in this
attribute. A value without `]` may stand there as it is: white space, `>`, the
characters that begin parts, the equals sign and even quotes are protected by
the brackets, and the quotes around it protect the white space at its two ends
(`Selector.parse?_valueText`).

A comma is protected by nothing. A text is cut at its commas before brackets are
looked for, and of a value that holds one the first piece is an open bracket. So
such a value is never found (`Scene.query_valueText`).
-/

namespace WidgetMarkup

open Text

/-- **The text that asks for a value** of an attribute. -/
def valueText (name value : String) : String :=
  "[" ++ name ++ "=\"" ++ value ++ "\"]"

/-! ## The condition -/

/-- A name is no white space, neither at an end nor all of it. -/
theorem trim_eq_self_of_isName {name : List Char} (h : isName name = true) : trim name = name := by
  have hblank : ∀ c ∈ name, isBlank c = false := by
    intro c hc
    have hsep : isSeparator c = false := by
      simpa using List.all_eq_true.mp (all_of_isName h).2 c hc
    exact isBlank_eq_false_of_isSeparator_eq_false hsep
  exact trim_eq_self (fun c hc => hblank c (List.mem_of_head? hc))
    fun c hc => hblank c (List.mem_reverse.mp (List.mem_of_head? hc))

theorem allBlank_eq_false_of_isName {name : List Char} (h : isName name = true) :
    allBlank name = false := by
  have hne : name ≠ [] := by
    rintro rfl
    exact absurd h (by decide)
  rwa [← trim_eq_self_of_isName h, ne_eq, trim_eq_nil_iff, Bool.not_eq_true] at hne

/-- What is no name character does not stand in a name. -/
theorem notMem_of_isName {name : List Char} (h : isName name = true) {c : Char}
    (hc : isNameChar c = false) : c ∉ name := by
  intro hmem
  obtain ⟨-, hall⟩ : name.isEmpty = false ∧ ∀ c ∈ name, isNameChar c = true := by
    simpa [isName] using h
  rw [hall c hmem] at hc
  cases hc

/-- What stands between the brackets. -/
def valueInner (name value : List Char) : List Char :=
  name ++ '=' :: '"' :: (value ++ ['"'])

/-- **Name and value are read as they are written.** -/
theorem bracketed_valueInner {name : List Char} (hname : isName name = true) (value : List Char) :
    Bracketed (valueInner name value) ⟨String.ofList name, some (String.ofList value)⟩ := by
  have hquotes : trim ('"' :: (value ++ ['"'])) = '"' :: (value ++ ['"']) := by
    refine trim_eq_self (fun c hc => ?_) (fun c hc => ?_)
    · obtain rfl : '"' = c := Option.some.inj hc
      decide
    · obtain rfl : '"' = c := by simpa using hc
      decide
  have hvalue : Unquoted (trim ('"' :: (value ++ ['"']))) value := by
    rw [hquotes]
    exact .double value
  have h := Bracketed.valued (notMem_of_isName hname (by decide +kernel))
    (allBlank_eq_false_of_isName hname) hvalue
  rwa [trim_eq_self_of_isName hname] at h

theorem close_notMem_valueInner {name value : List Char} (hname : isName name = true)
    (hclose : ']' ∉ value) : ']' ∉ valueInner name value := by
  have hnone := notMem_of_isName hname (c := ']') (by decide +kernel)
  simp [valueInner, hnone, hclose]

theorem toList_valueText (name value : String) :
    (valueText name value).toList = '[' :: (valueInner name.toList value.toList ++ [']']) := by
  simp [valueText, valueInner]

namespace Selector

/-- **The text of a value is one condition**, whatever else is in the value. -/
theorem parse?_valueText {name value : String} (hname : isName name.toList = true)
    (hclose : ']' ∉ value.toList) :
    parse? (valueText name value).toList = some ⟨{ attributes := [⟨name, some value⟩] }, []⟩ := by
  have hread := bracketed_valueInner hname value.toList
  rw [String.ofList_toList, String.ofList_toList] at hread
  have htext : (valueText name value).toList
      = (Part.condition _ _ (close_notMem_valueInner hname hclose) hread).text :=
    toList_valueText name value
  rw [htext, parse?_part]
  rfl

/-! ## Between commas -/

/-- A bracket that is never closed makes the text unreadable. -/
theorem parse?_eq_none_of_open {s : List Char} (h : ']' ∉ s) : parse? ('[' :: s) = none := by
  have hopen : ']' ∉ (s.reverse.dropWhile isBlank).reverse := fun hmem =>
    h (List.mem_reverse.mp ((List.dropWhile_sublist isBlank).mem (List.mem_reverse.mp hmem)))
  have hspan : firstCompound? (trim ('[' :: s)) = none := by
    rw [trim_cons_of_not_isBlank (by decide), firstCompound?_eq, spanCompound, if_neg (by decide),
      beq_self_eq_true, spanCompound_true, splitOnce_eq_none_iff.mpr hopen]
    rfl
  rw [parse?, hspan]

/-- **Without a comma the text is a list of one selector.** -/
theorem parseList?_valueText {name value : String} (hname : isName name.toList = true)
    (hclose : ']' ∉ value.toList) (hcomma : ',' ∉ value.toList) :
    parseList? (valueText name value)
      = some [⟨{ attributes := [⟨name, some value⟩] }, []⟩] := by
  have hnone := notMem_of_isName hname (c := ',') (by decide +kernel)
  have htext : ',' ∉ (valueText name value).toList := by
    rw [toList_valueText]
    simp [valueInner, hnone, hcomma]
  rw [parseList?, List.splitOn_eq_singleton htext, mapM_eq_some_iff, List.map_singleton,
    parse?_valueText hname hclose]
  rfl

/-- **With a comma it is no list**: the first piece is an open bracket. -/
theorem parseList?_valueText_of_comma {name value : String} (hname : isName name.toList = true)
    (hclose : ']' ∉ value.toList) (hcomma : ',' ∈ value.toList) :
    parseList? (valueText name value) = none := by
  obtain ⟨front, back, hvalue, hfront⟩ := List.eq_append_cons_of_mem hcomma
  have hnoComma := notMem_of_isName hname (c := ',') (by decide +kernel)
  have hnoClose := notMem_of_isName hname (c := ']') (by decide +kernel)
  have htext : (valueText name value).toList
      = '[' :: (name.toList ++ '=' :: '"' :: front) ++ ',' :: (back ++ ['"', ']']) := by
    rw [toList_valueText, hvalue]
    simp [valueInner]
  have hpiece : ',' ∉ '[' :: (name.toList ++ '=' :: '"' :: front) := by
    simp [hnoComma, hfront]
  refine parseList?_eq_none_iff.mpr ⟨'[' :: (name.toList ++ '=' :: '"' :: front), ?_,
    parse?_eq_none_of_open ?_⟩
  · rw [htext, List.splitOn_append_cons_self, List.splitOn_eq_singleton hpiece]
    exact List.mem_append_left _ List.mem_cons_self
  · have hfrontClose : ']' ∉ front := fun hmem =>
      hclose (hvalue ▸ List.mem_append_left _ hmem)
    simp [hnoClose, hfrontClose]

end Selector

/-! ## The widgets -/

/-- The condition on a value is met by the elements that have it. -/
theorem Compound.accepts_value_iff {name value : String} {e : Element} :
    ({ attributes := [⟨name, some value⟩] } : Compound).accepts e = true
      ↔ e.attribute? name = some value := by
  have htest : AttributeTest.accepts ⟨name, some value⟩ e = true
      ↔ e.attribute? name = some value := by
    unfold AttributeTest.accepts
    cases e.attribute? name <;> simp
  simpa [Compound.accepts] using htest

namespace Scene

variable {s : Scene}

/-- **What is found when a value is asked for.** Let `l` be what is shown, in
document order, and let the value not hold `]`. If it holds no comma, the answers
are the members of `l` that have the attribute with this value, in the same
order. If it holds a comma, there are no answers. -/
theorem query_valueText (h : s.Reachable) {name value : String} (hname : isName name.toList = true)
    (hclose : ']' ∉ value.toList) :
    ∃ l, s.descendants? root = some l
      ∧ (',' ∉ value.toList → s.query (valueText name value)
          = l.filter fun id => (s.widget? id).any fun w => (name, value) ∈ w.attributes)
      ∧ (',' ∈ value.toList → s.query (valueText name value) = []) := by
  refine ⟨s.shown, h.linked.descendants?_root, fun hcomma => ?_, fun hcomma => ?_⟩
  · rw [query, Selector.parseList?_valueText hname hclose hcomma]
    refine List.filter_congr fun id _ => ?_
    unfold selects
    cases hw : s.widget? id with
    | none => rfl
    | some w =>
      have hmem : w.attribute? name = some value ↔ (name, value) ∈ w.attributes :=
        lookup_eq_some_iff_mem (h.wellFormed id w hw).nodup_names
      rw [Bool.eq_iff_iff]
      simp only [List.any_cons, List.any_nil, Bool.or_false, Selector.accepts, acceptsChain,
        Bool.and_true, Option.any_some, decide_eq_true_eq, ← hmem]
      exact Compound.accepts_value_iff
  · exact query_eq_nil_of_parseList? (Selector.parseList?_valueText_of_comma hname hclose hcomma)

/-- A text with this value in an attribute, below the root. -/
def showing (value : String) : Scene :=
  ((new.create "text").append root 1).setAttribute 1 "n" value

theorem reachable_showing (value : String) : (showing value).Reachable :=
  ((Reachable.create .new "text").append (by decide) (by decide) (by decide)).setAttribute
    (by decide) "n" value

/-- White space and the other marks of selectors do no harm. -/
theorem query_valueText_marks :
    (showing " a > #b.c [d='e' ").Reachable ∧ isName "n".toList = true
      ∧ ']' ∉ " a > #b.c [d='e' ".toList ∧ '"' ∉ " a > #b.c [d='e' ".toList
      ∧ (showing " a > #b.c [d='e' ").descendants? root = some [1]
      ∧ (showing " a > #b.c [d='e' ").query (valueText "n" " a > #b.c [d='e' ") = [1] := by
  have hname : isName "n".toList = true := by decide +kernel
  have hclose : ']' ∉ " a > #b.c [d='e' ".toList := by decide
  have hshown : (showing " a > #b.c [d='e' ").descendants? root = some [1] := by decide
  obtain ⟨l, hl, hfound, -⟩ := query_valueText (reachable_showing _) hname hclose
  rw [hshown, Option.some.injEq] at hl
  subst hl
  exact ⟨reachable_showing _, hname, hclose, by decide, hshown,
    (hfound (by decide)).trans (by decide)⟩

/-- A value with a comma is shown and not found. -/
theorem query_valueText_comma :
    (showing "a,b").Reachable ∧ isName "n".toList = true
      ∧ ']' ∉ "a,b".toList ∧ '"' ∉ "a,b".toList
      ∧ (showing "a,b").descendants? root = some [1]
      ∧ ((showing "a,b").widget? 1).map Widget.attributes = some [("n", "a,b")]
      ∧ (showing "a,b").query (valueText "n" "a,b") = [] := by
  refine ⟨reachable_showing _, ?_, ?_, ?_, ?_, ?_, ?_⟩
  all_goals decide +kernel

end Scene

end WidgetMarkup
