import WidgetMarkup.Proofs.Scene.QuotedValues

/-!
# Looking up an id

There are three ways to ask for the widget with an id: to look it up, to query
`#name`, and to query `[id="name"]`. The first goes through what is shown and
compares one attribute. The other two read a text before, and it comes to
different selectors: `#name` fills the id of a compound, and the brackets add a
condition on an attribute, one of any number.

Either selector is a compound that stands alone, so it looks at no ancestors and
keeps the widgets shown whose attribute `id` has the value
(`query_eq_filter_of_id`). The first of those is what is looked up. A name needs
no quotes and holds no comma, whatever script it is written in, so both texts
are read as a list of one selector.
-/

namespace WidgetMarkup

open Text

/-- **The text that asks for an id.** -/
def idText (name : String) : String :=
  "#" ++ name

namespace Selector

/-- **`#` and a name is one condition**, on the id. -/
theorem parseList?_idText {name : String} (hname : isName name.toList = true) :
    parseList? (idText name) = some [⟨{ id := some name }, []⟩] := by
  have hcomma : ',' ∉ (idText name).toList := by
    simpa [idText] using notMem_of_isName hname (c := ',') (by decide +kernel)
  have hread : parse? (idText name).toList = some ⟨{ id := some name }, []⟩ := by
    have htext : (idText name).toList = (Part.id ⟨name.toList, hname⟩).text := by
      simp [idText, Part.text]
    rw [htext, parse?_part]
    simp [Compound.ofPart, Compound.add]
  rw [parseList?, List.splitOn_eq_singleton hcomma, mapM_eq_some_iff, List.map_singleton, hread]
  rfl

end Selector

/-- The condition on the id is met by the elements that have it. -/
theorem Compound.accepts_id_iff {name : String} {e : Element} :
    ({ id := some name } : Compound).accepts e = true ↔ e.attribute? "id" = some name := by
  simp [Compound.accepts]

namespace Scene

variable {s : Scene}

/-- **A compound that asks for an id, alone**, keeps of what is shown the widgets
that have it. -/
theorem query_eq_filter_of_id {text name : String} {k : Compound}
    (hread : Selector.parseList? text = some [⟨k, []⟩])
    (hk : ∀ e, k.accepts e = true ↔ e.attribute? "id" = some name) :
    s.query text
      = s.shown.filter fun id => ((s.widget? id).bind (·.attribute? "id")) == some name := by
  rw [query, hread]
  refine List.filter_congr fun id _ => ?_
  unfold selects
  cases s.widget? id with
  | none => rfl
  | some w =>
    have hw : k.accepts w.element = true ↔ w.attribute? "id" = some name := hk w.element
    rw [Bool.eq_iff_iff]
    simpa [Selector.accepts, acceptsChain] using hw

/-- **The widget with an id is the first answer to a query for it.** Let the name
be made of name characters. Both texts that ask for it have the same answers: of
what is shown, the widgets with this value in the attribute `id`, in document
order. Looking the name up gives the first of them, and gives nothing exactly if
there are none. -/
theorem findById?_eq_head?_query (h : s.Reachable) {name : String}
    (hname : isName name.toList = true) :
    ∃ l, s.descendants? root = some l
      ∧ s.query (idText name)
        = l.filter (fun id => (s.widget? id).any fun w => ("id", name) ∈ w.attributes)
      ∧ s.query (valueText "id" name) = s.query (idText name)
      ∧ s.findById? name = (s.query (idText name)).head?
      ∧ s.findById? name = (s.query (valueText "id" name)).head?
      ∧ (s.findById? name = none ↔ s.query (idText name) = [])
      ∧ (s.findById? name = none ↔ s.query (valueText "id" name) = []) := by
  have hbyId : s.query (idText name)
      = s.shown.filter fun id => ((s.widget? id).bind (·.attribute? "id")) == some name :=
    query_eq_filter_of_id (Selector.parseList?_idText hname) fun _ => Compound.accepts_id_iff
  have hvalue : s.query (valueText "id" name) = s.query (idText name) := by
    have hread : Selector.parseList? (valueText "id" name)
        = some [⟨{ attributes := [⟨"id", some name⟩] }, []⟩] :=
      Selector.parseList?_valueText (by decide +kernel) (notMem_of_isName hname (by decide +kernel))
        (notMem_of_isName hname (by decide +kernel))
    rw [hbyId, query_eq_filter_of_id hread fun _ => Compound.accepts_value_iff]
  have hfirst : s.findById? name = (s.query (idText name)).head? := by
    rw [hbyId, List.head?_filter, findById?]
  refine ⟨s.shown, h.linked.descendants?_root, ?_, hvalue, hfirst, hvalue ▸ hfirst, ?_, ?_⟩
  · rw [hbyId]
    refine List.filter_congr fun id _ => ?_
    cases hw : s.widget? id with
    | none => rfl
    | some w =>
      have hmem : w.attribute? "id" = some name ↔ ("id", name) ∈ w.attributes :=
        lookup_eq_some_iff_mem (h.wellFormed id w hw).nodup_names
      rw [Bool.eq_iff_iff]
      simpa using hmem
  · rw [hfirst, List.head?_eq_none_iff]
  · rw [hvalue, hfirst, List.head?_eq_none_iff]

/-- An id that two widgets shown have, and one on a loop. -/
def sharedId : Scene :=
  ((besideLoop.setAttribute 1 "id" "größe-1").setAttribute 2 "id" "größe-1").setAttribute 3
    "id" "_x"

theorem reachable_sharedId : sharedId.Reachable :=
  ((reachable_besideLoop.setAttribute (by decide) _ _).setAttribute (by decide) _ _).setAttribute
    (by decide) _ _

/-- The outer of the two is found; the id on the loop is not found at all. -/
theorem findById?_eq_head?_query_sharedId :
    sharedId.Reachable ∧ isName "größe-1".toList = true ∧ isName "_x".toList = true
      ∧ sharedId.query "[id=\"größe-1\"]" = [1, 2] ∧ sharedId.findById? "größe-1" = some 1
      ∧ sharedId.query "#_x" = [] ∧ sharedId.findById? "_x" = none := by
  have hname : isName "größe-1".toList = true := by decide +kernel
  have hlooped : isName "_x".toList = true := by decide +kernel
  have hboth : sharedId.query (valueText "id" "größe-1") = [1, 2] := by decide +kernel
  have hnone : sharedId.query (idText "_x") = [] := by decide +kernel
  obtain ⟨-, -, -, -, -, hfirst, -⟩ := findById?_eq_head?_query reachable_sharedId hname
  obtain ⟨-, -, -, -, -, -, hempty, -⟩ := findById?_eq_head?_query reachable_sharedId hlooped
  rw [hboth] at hfirst
  exact ⟨reachable_sharedId, hname, hlooped, hboth, hfirst, hnone, hempty.mpr hnone⟩

end Scene

end WidgetMarkup
