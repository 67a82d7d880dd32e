import WidgetMarkup.Proofs.Selector.Reading
import WidgetMarkup.Selector.Matching

/-!
# A compound is a conjunction of its parts

A part that is written behind a compound is one more condition. What it adds is
said once (`Compound.accepts_add`), and by induction on the parts an element
meets a compound if it meets all that is written
(`CompoundText.accepts_reading_iff`).

There is one exception. A compound has room for one id, and a further `#name`
takes the place of the one before (`Compound.keptBefore`). So the conjunction is
that of all parts where the ids agree, and where they do not, an earlier id is
no condition at all.
-/

namespace WidgetMarkup

namespace Compound

/-! ## One part more -/

/-- **What still counts of a compound** when this part is written behind it. -/
def keptBefore (c : Compound) : Part → Compound
  | .id _ => { c with id := none }
  | _ => c

/-- The compound with this part only. -/
def ofPart (part : Part) : Compound :=
  ({} : Compound).add part

/-- **A part is one more condition**, besides those that still count. -/
theorem accepts_add (c : Compound) (part : Part) (e : Element) :
    (c.add part).accepts e = ((c.keptBefore part).accepts e && (ofPart part).accepts e) := by
  cases part <;>
    · simp only [add, keptBefore, ofPart, accepts, Option.all_none, Option.all_some, List.nil_append,
        List.all_append, List.all_cons, List.all_nil, Bool.and_true, Bool.true_and]
      ac_rfl

/-- An id counts before a part that names no other. -/
theorem keptBefore_accepts_iff {c : Compound} {part : Part}
    (hid : ∀ i ∈ c.id, ∀ n ∈ part.id?, i = n) (e : Element) :
    (c.keptBefore part).accepts e = true ∧ (ofPart part).accepts e = true
      ↔ c.accepts e = true ∧ (ofPart part).accepts e = true := by
  cases part with
  | id name =>
    have hname : ∀ i ∈ c.id, i = String.ofList name.1 := fun i hi => hid i hi _ rfl
    refine and_congr_left fun hpart => ?_
    have hpart : (e.attribute? "id" == some (String.ofList name.1)) = true := by
      simpa [ofPart, add, accepts] using hpart
    cases hc : c.id with
    | none => simp [keptBefore, accepts, hc]
    | some i =>
      obtain rfl := hname i hc
      simp [keptBefore, accepts, hc, hpart]
  | word name => rfl
  | condition inner test closed reads => rfl

/-- **Where the ids agree, a part is one more condition.** -/
theorem accepts_add_of_agree {c : Compound} {part : Part}
    (hid : ∀ i ∈ c.id, ∀ n ∈ part.id?, i = n) (e : Element) :
    (c.add part).accepts e = true ↔ c.accepts e = true ∧ (ofPart part).accepts e = true := by
  rw [accepts_add, Bool.and_eq_true]
  exact keptBefore_accepts_iff hid e

/-- The id of a part comes before that of the compound. -/
theorem id_add (c : Compound) (part : Part) : (c.add part).id = part.id?.or c.id := by
  cases part <;> rfl

/-! ## All parts -/

/-- **A row of parts is the conjunction of them**, if they name one id at
most. -/
theorem accepts_foldl_add {c : Compound} {parts : List Part} {id : String}
    (hc : ∀ i ∈ c.id, i = id) (hparts : ∀ part ∈ parts, ∀ n ∈ part.id?, n = id) (e : Element) :
    (parts.foldl add c).accepts e = true
      ↔ c.accepts e = true ∧ ∀ part ∈ parts, (ofPart part).accepts e = true := by
  induction parts generalizing c with
  | nil => simp
  | cons part parts ih =>
    obtain ⟨hpart, hparts⟩ := List.forall_mem_cons.mp hparts
    have hadd : ∀ i ∈ (c.add part).id, i = id := by
      intro i hi
      rw [id_add, Option.mem_def, Option.or_eq_some_iff] at hi
      rcases hi with hi | ⟨-, hi⟩
      · exact hpart i hi
      · exact hc i hi
    have hagree : ∀ i ∈ c.id, ∀ n ∈ part.id?, i = n :=
      fun i hi n hn => (hc i hi).trans (hpart n hn).symm
    rw [List.foldl_cons, ih hadd hparts, accepts_add_of_agree hagree, List.forall_mem_cons,
      and_assoc]

end Compound

/-! ## Selectors -/

namespace CompoundText

/-- The compound with one part more. -/
def snoc (t : CompoundText) (part : Part) : CompoundText where
  head := t.head
  parts := t.parts ++ [part]
  nonempty := by
    rw [List.flatMap_append, ← List.append_assoc]
    exact List.append_ne_nil_of_left_ne_nil t.nonempty _

theorem text_snoc (t : CompoundText) (part : Part) : (t.snoc part).text = t.text ++ part.text := by
  simp [text, snoc]

theorem reading_snoc (t : CompoundText) (part : Part) :
    (t.snoc part).reading = t.reading.add part := by
  rw [← Compound.foldl_add_ofHead, ← Compound.foldl_add_ofHead]
  exact List.foldl_append ..

/-- **An element meets a compound if it meets its head and every part**, where
no two parts name different ids. -/
theorem accepts_reading_iff {t : CompoundText} {id : String}
    (hid : ∀ part ∈ t.parts, ∀ n ∈ part.id?, n = id) (e : Element) :
    t.reading.accepts e = true
      ↔ (Compound.ofHead t.head).accepts e = true
        ∧ ∀ part ∈ t.parts, (Compound.ofPart part).accepts e = true := by
  rw [← Compound.foldl_add_ofHead]
  exact Compound.accepts_foldl_add (fun i hi => by cases hi) hid e

/-- A part alone. -/
def ofPart (part : Part) : CompoundText where
  head := .none
  parts := [part]
  nonempty := by cases part <;> simp [Part.text]

theorem text_ofPart (part : Part) : (ofPart part).text = part.text := by
  simp [text, ofPart, Head.text]

theorem reading_ofPart (part : Part) : (ofPart part).reading = Compound.ofPart part := by
  rw [← Compound.foldl_add_ofHead]
  rfl

end CompoundText

namespace Selector

/-- A part alone is a selector. -/
theorem parse?_part (part : Part) : parse? part.text = some ⟨Compound.ofPart part, []⟩ := by
  rw [← CompoundText.text_ofPart, parse?_text, CompoundText.reading_ofPart]

/-- **What a part adds to the text of a compound.** Let `text` be a text
without separators outside brackets that is read as a selector. Then every part
is read alone and behind the text as well, and the longer text selects an
element exactly if the part does and `text` does – not counting the id that
`text` names, if the part names an id. If the two name the same id, or one of
them names none, the longer text selects exactly what both select. -/
theorem accepts_append_part {text : List Char} {s : Selector} (hwhole : Whole text)
    (h : parse? text = some s) (part : Part) :
    ∃ ofPart longer, parse? part.text = some ofPart ∧ parse? (text ++ part.text) = some longer
      ∧ (∀ e ancestors, longer.accepts e ancestors = true
          ↔ { s with key := s.key.keptBefore part }.accepts e ancestors = true
            ∧ ofPart.accepts e ancestors = true)
      ∧ ((∀ i ∈ s.key.id, ∀ n ∈ part.id?, i = n) →
          ∀ e ancestors, longer.accepts e ancestors = true
            ↔ s.accepts e ancestors = true ∧ ofPart.accepts e ancestors = true) := by
  obtain ⟨t, rfl, rfl⟩ := exists_compoundText_of_parse? hwhole h
  have hlonger := parse?_text (t.snoc part)
  rw [CompoundText.text_snoc, CompoundText.reading_snoc] at hlonger
  have haccepts : ∀ (c : Compound) (e : Element) (ancestors : List Element),
      accepts ⟨c, []⟩ e ancestors = c.accepts e := by
    intro c e ancestors
    rw [accepts, acceptsChain, Bool.and_true]
  refine ⟨_, _, parse?_part part, hlonger, fun e ancestors => ?_, fun hid e ancestors => ?_⟩
  · rw [haccepts, haccepts, haccepts, Compound.accepts_add, Bool.and_eq_true]
  · rw [haccepts, haccepts, haccepts]
    exact Compound.accepts_add_of_agree hid e

/-- A word behind an id and a condition is one more condition. -/
theorem accepts_append_part_word :
    Whole "#a[k]".toList
      ∧ parse? "#a[k]".toList = some ⟨{ id := some "a", attributes := [⟨"k", none⟩] }, []⟩
      ∧ ∃ ofPart longer, parse? ".w".toList = some ofPart ∧ parse? "#a[k].w".toList = some longer
        ∧ ∀ e ancestors, longer.accepts e ancestors = true
          ↔ accepts ⟨{ id := some "a", attributes := [⟨"k", none⟩] }, []⟩ e ancestors = true
            ∧ ofPart.accepts e ancestors = true := by
  have hwhole : Whole "#a[k]".toList := by
    show spanCompound _ _ = _
    decide +kernel
  have h : parse? "#a[k]".toList
      = some ⟨{ id := some "a", attributes := [⟨"k", none⟩] }, []⟩ := by
    decide +kernel
  obtain ⟨ofPart, longer, hpart, hlonger, -, haccepts⟩ :=
    accepts_append_part hwhole h (.word ⟨['w'], by decide +kernel⟩)
  exact ⟨hwhole, h, ofPart, longer, hpart, hlonger, haccepts fun i hi n hn => by cases hn⟩

/-- An id behind another takes its place: an element is selected that the text
before does not select. -/
theorem accepts_append_part_other_id :
    Whole "#a".toList
      ∧ parse? "#a".toList = some ⟨{ id := some "a" }, []⟩
      ∧ parse? "#b".toList = some ⟨{ id := some "b" }, []⟩
      ∧ parse? ("#a".toList ++ "#b".toList) = some ⟨{ id := some "b" }, []⟩
      ∧ accepts ⟨{ id := some "b" }, []⟩ ⟨"text", [("id", "b")]⟩ [] = true
      ∧ accepts ⟨{ id := some "a" }, []⟩ ⟨"text", [("id", "b")]⟩ [] = false := by
  refine ⟨?_, by decide +kernel, by decide +kernel, by decide +kernel, by decide, by decide⟩
  show spanCompound _ _ = _
  decide +kernel

end Selector

end WidgetMarkup
