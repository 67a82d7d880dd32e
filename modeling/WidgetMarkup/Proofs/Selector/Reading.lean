import WidgetMarkup.Proofs.Selector.Compounds

/-!
# Selectors are read by their grammar

`Selector.parse?` reads a compound, and then gaps and compounds to the end of
the text, and puts the selector together from left to right. That this is
reading by the grammar is said in both directions: every `SelectorText` is
read as what it says (`Selector.parse?_of_trim_eq_text`), and a text that is
read is one, once the white space at its two ends is taken off
(`Selector.exists_of_parse?`).

A compound is cut off where a separator begins, and a gap where a compound
begins. So a text is cut in one way only, and two compounds never stand next
to each other without a gap.
-/

namespace WidgetMarkup

open Text

/-! ## The first compound -/

/-- The compound that a text begins with is what is cut off before the first
separator. -/
theorem firstCompound?_eq (s : List Char) :
    firstCompound? s = (spanCompound false s).bind fun (word, after) =>
      if word = [] then none else (Compound.parse? word).map fun k => (k, after) := by
  cases s with
  | nil => rfl
  | cons c rest =>
    rw [firstCompound?, spanCompound]
    split
    · rfl
    · cases spanCompound (c == '[') rest with
      | none => rfl
      | some cut => rfl

/-- **Which compound a text begins with**, and where it ends. -/
theorem firstCompound?_eq_some_iff {s after : List Char} {k : Compound} :
    firstCompound? s = some (k, after)
      ↔ ∃ t : CompoundText, s = t.text ++ after ∧ EndsRun (!isSeparator ·) after
          ∧ t.reading = k := by
  rw [firstCompound?_eq]
  constructor
  · intro h
    obtain ⟨⟨word, rest⟩, hspan, h⟩ := Option.bind_eq_some_iff.mp h
    dsimp only at h
    split at h
    · cases h
    · next hne =>
      obtain ⟨k', hparse, heq⟩ := Option.map_eq_some_iff.mp h
      obtain ⟨rfl, rfl⟩ : k' = k ∧ rest = after := by simpa using heq
      obtain ⟨hwhole, hends⟩ := whole_of_spanCompound hspan
      obtain ⟨t, rfl, hread⟩ := Compound.exists_of_parse? hparse hwhole hne
      exact ⟨t, append_of_spanCompound hspan, hends, hread⟩
  · rintro ⟨t, rfl, hends, rfl⟩
    have hne : t.text ≠ [] := t.nonempty
    rw [(Passes.compound t).spanCompound_append hends, Option.bind_some]
    dsimp only
    rw [if_neg hne, Compound.parse?_text]
    rfl

/-- A compound begins with no separator. -/
theorem endsRun_of_firstCompound? {s after : List Char} {k : Compound}
    (h : firstCompound? s = some (k, after)) :
    ∃ c rest, s = c :: rest ∧ EndsRun isSeparator (c :: rest) := by
  cases s with
  | nil => cases h
  | cons c rest =>
    refine ⟨c, rest, rfl, ?_⟩
    rw [firstCompound?] at h
    split at h
    · cases h
    · next hsep => simpa [EndsRun] using hsep

/-! ## Gaps -/

/-- White space is separators that are no `>`. -/
theorem allBlank_iff {s : List Char} :
    allBlank s = true ↔ s.all isSeparator = true ∧ '>' ∉ s := by
  simp only [allBlank, List.all_eq_true, isSeparator, Bool.or_eq_true, beq_iff_eq]
  constructor
  · exact fun h => ⟨fun c hc => Or.inr (h c hc), fun hc => absurd (h '>' hc) (by decide)⟩
  · rintro ⟨h, hnone⟩ c hc
    exact (h c hc).resolve_left fun heq => hnone (heq ▸ hc)

namespace Gap

/-- A gap is a run of separators. -/
theorem all_isSeparator (gap : Gap) : gap.text.all isSeparator = true := by
  cases gap with
  | space s blank nonempty => exact (allBlank_iff.mp blank).1
  | arrow before after blankBefore blankAfter =>
    rw [text, List.all_append, List.all_cons, (allBlank_iff.mp blankBefore).1,
      (allBlank_iff.mp blankAfter).1]
    rfl

/-- A gap is read as what it stands for. -/
theorem combinator?_text (gap : Gap) : combinator? gap.text = some gap.combinator := by
  unfold combinator?
  cases gap with
  | space s blank nonempty =>
    rw [text, List.count_eq_zero.mpr (allBlank_iff.mp blank).2]
    rfl
  | arrow before after blankBefore blankAfter =>
    rw [text, List.count_append, List.count_cons_self,
      List.count_eq_zero.mpr (allBlank_iff.mp blankBefore).2,
      List.count_eq_zero.mpr (allBlank_iff.mp blankAfter).2]
    rfl

/-- **A run of separators that stands for something is a gap.** -/
theorem exists_of_combinator? {s : List Char} {comb : Combinator} (hs : s.all isSeparator = true)
    (hne : s ≠ []) (h : combinator? s = some comb) :
    ∃ gap : Gap, s = gap.text ∧ gap.combinator = comb := by
  unfold combinator? at h
  split at h
  · next hcount =>
    cases h
    exact ⟨.space s (allBlank_iff.mpr ⟨hs, List.count_eq_zero.mp hcount⟩) hne, rfl, rfl⟩
  · next hcount =>
    cases h
    have hmem : '>' ∈ s := List.count_pos_iff.mp (by rw [hcount]; exact Nat.one_pos)
    obtain ⟨before, after, rfl⟩ := List.append_of_mem hmem
    rw [List.count_append, List.count_cons_self] at hcount
    have hbefore : '>' ∉ before := List.count_eq_zero.mp (by omega)
    have hafter : '>' ∉ after := List.count_eq_zero.mp (by omega)
    rw [List.all_append, List.all_cons, Bool.and_eq_true, Bool.and_eq_true] at hs
    exact ⟨.arrow before after (allBlank_iff.mpr ⟨hs.1, hbefore⟩)
      (allBlank_iff.mpr ⟨hs.2.2, hafter⟩), rfl, rfl⟩
  · cases h

end Gap

/-! ## Selectors -/

namespace Selector

/-- The selector with gaps and compounds to its right. -/
def extendAll (s : Selector) (rest : List (Gap × CompoundText)) : Selector :=
  rest.foldl (fun s (gap, c) => s.extend gap.combinator c.reading) s

/-- **Compounds put on one by one** are paired from right to left, each with
the combinator to its right. -/
theorem extendAll_eq (k : Compound) (conditions : List (Combinator × Compound))
    (rest : List (Gap × CompoundText)) :
    extendAll ⟨k, conditions⟩ rest
      = ⟨(k :: rest.map fun (_, c) => c.reading).getLast (List.cons_ne_nil _ _),
          ((rest.map fun (gap, _) => gap.combinator).zip
            (k :: rest.map fun (_, c) => c.reading).dropLast).reverse ++ conditions⟩ := by
  induction rest generalizing k conditions with
  | nil => rfl
  | cons piece rest ih =>
    obtain ⟨gap, c⟩ := piece
    show extendAll ⟨c.reading, (gap.combinator, k) :: conditions⟩ rest = _
    rw [ih]
    simp

/-- **What the rest of a text is read as**: white space that is left over, or a
gap, a compound, and a rest again. -/
theorem parseTail_eq_some_iff {s s' : Selector} {text : List Char} :
    parseTail s text = some s'
      ↔ (allBlank text = true ∧ s = s')
        ∨ ∃ gap more comb k after, text = gap ++ more ∧ gap.all isSeparator = true
            ∧ combinator? gap = some comb ∧ firstCompound? more = some (k, after)
            ∧ parseTail (s.extend comb k) after = some s' := by
  constructor
  · intro h
    have hgap : (text.takeWhile isSeparator).all isSeparator = true := List.all_takeWhile
    have htext : text = text.takeWhile isSeparator ++ text.dropWhile isSeparator :=
      List.takeWhile_append_dropWhile.symm
    rw [parseTail] at h
    split at h
    · next hdrop =>
      rw [hdrop, List.append_nil] at htext
      split at h
      · cases h
      · next hnone =>
        rw [← htext] at hgap hnone
        exact Or.inl ⟨allBlank_iff.mpr ⟨hgap, hnone⟩, Option.some.inj h⟩
    · next c rest hdrop =>
      rw [hdrop] at htext
      split at h
      · next comb k after hcomb hfirst =>
        exact Or.inr ⟨_, _, comb, k, after, htext, hgap, hcomb, hfirst, h⟩
      · cases h
  · rintro (⟨hblank, rfl⟩ | ⟨gap, more, comb, k, after, rfl, hgap, hcomb, hfirst, h⟩)
    · obtain ⟨hsep, hnone⟩ := allBlank_iff.mp hblank
      obtain ⟨htake, hdrop⟩ := takeWhile_dropWhile_append hsep (EndsRun.nil isSeparator)
      rw [List.append_nil] at htake hdrop
      rw [parseTail]
      split
      · rw [htake, if_neg hnone]
      · next hrest => cases hdrop.symm.trans hrest
    · obtain ⟨c, rest, rfl, hends⟩ := endsRun_of_firstCompound? hfirst
      obtain ⟨htake, hdrop⟩ := takeWhile_dropWhile_append hgap hends
      rw [parseTail]
      split
      · next hnil => cases hdrop.symm.trans hnil
      · next c' rest' hrest =>
        cases hdrop.symm.trans hrest
        rw [htake]
        split
        · next comb' k' after' hcomb' hfirst' =>
          cases hcomb.symm.trans hcomb'
          cases hfirst.symm.trans hfirst'
          exact h
        · next hno => exact absurd hfirst (hno comb k after hcomb)

/-- A gap begins where a compound ends. -/
theorem endsRun_tail (rest : List (Gap × CompoundText)) :
    EndsRun (!isSeparator ·) (SelectorText.tail rest) := by
  cases rest with
  | nil => exact .nil _
  | cons piece rest =>
    obtain ⟨gap, c⟩ := piece
    have hgap := gap.all_isSeparator
    have hne : gap.text ≠ [] := by
      cases gap with
      | space s blank nonempty => exact nonempty
      | arrow before after blankBefore blankAfter => simp [Gap.text]
    obtain ⟨first, more, heq⟩ := List.exists_cons_of_ne_nil hne
    rw [heq, List.all_cons, Bool.and_eq_true] at hgap
    show EndsRun _ (gap.text ++ c.text ++ SelectorText.tail rest)
    rw [heq]
    simp [EndsRun, hgap.1]

/-- **A text of gaps and compounds is read as they are written.** -/
theorem parseTail_text (s : Selector) (rest : List (Gap × CompoundText)) :
    parseTail s (SelectorText.tail rest) = some (extendAll s rest) := by
  induction rest generalizing s with
  | nil => exact parseTail_eq_some_iff.mpr (Or.inl ⟨rfl, rfl⟩)
  | cons piece rest ih =>
    obtain ⟨gap, c⟩ := piece
    have hfirst : firstCompound? (c.text ++ SelectorText.tail rest)
        = some (c.reading, SelectorText.tail rest) :=
      firstCompound?_eq_some_iff.mpr ⟨c, rfl, endsRun_tail rest, rfl⟩
    refine parseTail_eq_some_iff.mpr (Or.inr ⟨gap.text, _, gap.combinator, c.reading, _, ?_,
      gap.all_isSeparator, gap.combinator?_text, hfirst, ih _⟩)
    exact List.append_assoc _ _ _

/-- **What is read to its end is gaps and compounds**, and white space that is
left over. -/
theorem exists_of_parseTail {s s' : Selector} {text : List Char} (h : parseTail s text = some s')
    (htext : EndsRun (!isSeparator ·) text) :
    ∃ rest space, text = SelectorText.tail rest ++ space ∧ allBlank space = true
      ∧ extendAll s rest = s' := by
  obtain ⟨hblank, rfl⟩ | ⟨gap, more, comb, k, after, hcut, hgap, hcomb, hfirst, htail⟩ :=
    parseTail_eq_some_iff.mp h
  · exact ⟨[], text, rfl, hblank, rfl⟩
  · have hlen : after.length < text.length := by
      have hmore := length_firstCompound? hfirst
      rw [hcut, List.length_append]
      omega
    have hne : gap ≠ [] := by
      rintro rfl
      -- there is no compound at a place where a compound has ended
      obtain ⟨c, rest, rfl, hends⟩ := endsRun_of_firstCompound? hfirst
      have hsep : (!isSeparator c) = false := htext c (by rw [hcut]; rfl)
      rw [hends c rfl] at hsep
      cases hsep
    obtain ⟨g, rfl, rfl⟩ := Gap.exists_of_combinator? hgap hne hcomb
    obtain ⟨c, rfl, hends, rfl⟩ := firstCompound?_eq_some_iff.mp hfirst
    obtain ⟨rest, space, rfl, hspace, rfl⟩ := exists_of_parseTail htail hends
    refine ⟨(g, c) :: rest, space, ?_, hspace, rfl⟩
    rw [hcut]
    simp [SelectorText.tail]
termination_by text.length

/-- No white space stands at the end of a trimmed text. -/
theorem eq_nil_of_trim_eq_append {text w space : List Char} (h : trim text = w ++ space)
    (hspace : allBlank space = true) : space = [] := by
  have hends := endsRun_reverse_trim text
  rw [h, List.reverse_append] at hends
  cases hlast : space.reverse with
  | nil => exact List.reverse_eq_nil_iff.mp hlast
  | cons c more =>
    have hmem : c ∈ space := List.mem_reverse.mp (hlast ▸ List.mem_cons_self)
    have hblank := List.all_eq_true.mp hspace c hmem
    rw [hlast] at hends
    rw [hends c rfl] at hblank
    cases hblank

theorem extendAll_reading (t : SelectorText) :
    extendAll ⟨t.first.reading, []⟩ t.rest = t.reading := by
  rw [extendAll_eq, List.append_nil]
  rfl

/-- **The text of a selector is read as what it says.** -/
theorem parse?_of_trim_eq_text {text : List Char} {t : SelectorText} (h : trim text = t.text) :
    parse? text = some t.reading := by
  have hfirst : firstCompound? (trim text) = some (t.first.reading, SelectorText.tail t.rest) :=
    firstCompound?_eq_some_iff.mpr ⟨t.first, h, endsRun_tail t.rest, rfl⟩
  rw [parse?, hfirst, ← extendAll_reading]
  exact parseTail_text _ _

/-- **What is read is the text of a selector.** -/
theorem exists_of_parse? {text : List Char} {s : Selector} (h : parse? text = some s) :
    ∃ t : SelectorText, trim text = t.text ∧ t.reading = s := by
  unfold parse? at h
  split at h
  · cases h
  · next k after hfirst =>
    obtain ⟨c, htext, hends, rfl⟩ := firstCompound?_eq_some_iff.mp hfirst
    obtain ⟨rest, space, rfl, hspace, rfl⟩ := exists_of_parseTail h hends
    rw [← List.append_assoc] at htext
    obtain rfl := eq_nil_of_trim_eq_append htext hspace
    rw [List.append_nil] at htext
    exact ⟨⟨c, rest⟩, htext, (extendAll_reading _).symm⟩

/-- **A selector is read by its grammar.** A text is read as a selector
exactly if, without the white space at its two ends, it is the text of
compounds with gaps between them, and then it is read as what these say. A
text that is no such text is not read. -/
theorem parse?_eq_some_iff_exists_text (text : List Char) (s : Selector) :
    (parse? text = some s ↔ ∃ t : SelectorText, trim text = t.text ∧ t.reading = s)
      ∧ (parse? text = none ↔ ∀ t : SelectorText, trim text ≠ t.text) := by
  constructor
  · constructor
    · exact exists_of_parse?
    · rintro ⟨t, ht, rfl⟩
      exact parse?_of_trim_eq_text ht
  · constructor
    · intro hnone t ht
      cases hnone.symm.trans (parse?_of_trim_eq_text ht)
    · intro hno
      rw [Option.eq_none_iff_forall_ne_some]
      intro s' hs'
      obtain ⟨t, ht, -⟩ := exists_of_parse? hs'
      exact hno t ht

end Selector

/-! ## Selectors of one compound -/

theorem isBlank_eq_false_of_isSeparator_eq_false {c : Char} (h : isSeparator c = false) :
    isBlank c = false :=
  (Bool.or_eq_false_iff.mp h).2

/-- A piece that is cut off at the end of the text does not end with a
separator. -/
theorem isSeparator_eq_false_of_spanCompound {inside : Bool} {w : List Char} {c : Char}
    (h : spanCompound inside (w ++ [c]) = some (w ++ [c], [])) : isSeparator c = false := by
  induction w generalizing inside with
  | nil =>
    cases inside with
    | true =>
      -- the bracket is closed at the end of the text, so `c` closes it
      by_cases hc : c = ']'
      · rw [hc]
        decide
      · rw [List.nil_append, spanCompound, bne_iff_ne.mpr hc] at h
        cases h
    | false =>
      rw [List.nil_append, spanCompound] at h
      split at h
      · cases h
      · next hsep => exact Bool.eq_false_iff.mpr hsep
  | cons d w ih =>
    have hnext : ∀ {inside' : Bool},
        (spanCompound inside' (w ++ [c])).map (fun (word, after) => (d :: word, after))
          = some (d :: (w ++ [c]), []) → spanCompound inside' (w ++ [c]) = some (w ++ [c], []) := by
      intro inside' hmap
      obtain ⟨⟨word, after⟩, hspan, heq⟩ := Option.map_eq_some_iff.mp hmap
      obtain ⟨rfl, rfl⟩ : word = w ++ [c] ∧ after = [] := by simpa using heq
      exact hspan
    rw [List.cons_append] at h
    cases inside with
    | true => exact ih (hnext h)
    | false =>
      rw [spanCompound] at h
      split at h
      · cases h
      · exact ih (hnext h)

namespace Whole

/-- A whole text neither begins nor ends with white space. -/
theorem trim_eq_self {s : List Char} (h : Whole s) : trim s = s := by
  refine WidgetMarkup.trim_eq_self (fun c hc => ?_) (fun c hc => ?_)
  · obtain ⟨rest, rfl⟩ := List.head?_eq_some_iff.mp hc
    rw [Whole, spanCompound] at h
    split at h
    · cases h
    · next hsep => exact isBlank_eq_false_of_isSeparator_eq_false (Bool.eq_false_iff.mpr hsep)
  · rw [List.head?_reverse] at hc
    obtain ⟨w, rfl⟩ := List.getLast?_eq_some_iff.mp hc
    exact isBlank_eq_false_of_isSeparator_eq_false (isSeparator_eq_false_of_spanCompound h)

/-- Compounds are whole. -/
theorem compound (t : CompoundText) : Whole t.text := by
  have h := (Passes.compound t).spanCompound_append (EndsRun.nil (!isSeparator ·))
  rwa [List.append_nil] at h

end Whole

/-- Between two compounds something is written. -/
theorem SelectorText.eq_nil_of_tail_eq_nil {rest : List (Gap × CompoundText)}
    (h : tail rest = []) : rest = [] := by
  cases rest with
  | nil => rfl
  | cons piece rest =>
    obtain ⟨gap, c⟩ := piece
    have hnil : gap.text ++ c.text ++ tail rest = [] := h
    exact absurd (List.append_eq_nil_iff.mp (List.append_eq_nil_iff.mp hnil).1).2 c.nonempty

namespace Selector

/-- **A compound alone is a selector** without conditions on the ancestors. -/
theorem parse?_text (t : CompoundText) : parse? t.text = some ⟨t.reading, []⟩ :=
  parse?_of_trim_eq_text (t := ⟨t, []⟩) ((Whole.compound t).trim_eq_self.trans
    (List.append_nil _).symm)

/-- **A selector that is written without a separator is a compound alone.** -/
theorem exists_compoundText_of_parse? {text : List Char} {s : Selector} (hwhole : Whole text)
    (h : parse? text = some s) : ∃ t : CompoundText, text = t.text ∧ s = ⟨t.reading, []⟩ := by
  obtain ⟨⟨first, rest⟩, htext, rfl⟩ := exists_of_parse? h
  rw [hwhole.trim_eq_self] at htext
  have hspan : spanCompound false text = some (first.text, SelectorText.tail rest) := by
    rw [htext]
    exact (Passes.compound first).spanCompound_append (endsRun_tail rest)
  obtain ⟨hfirst, hrest⟩ : text = first.text ∧ [] = SelectorText.tail rest := by
    simpa using hwhole.symm.trans hspan
  obtain rfl := SelectorText.eq_nil_of_tail_eq_nil hrest.symm
  exact ⟨first, hfirst, rfl⟩

end Selector

end WidgetMarkup
