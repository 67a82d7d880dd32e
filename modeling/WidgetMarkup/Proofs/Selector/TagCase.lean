import Mathlib.Data.List.DropRight
import WidgetMarkup.Proofs.Selector.List
import WidgetMarkup.Proofs.Selector.Reading
import WidgetMarkup.Selector.Matching
import WidgetMarkup.Text.LetterCase

/-!
# The case of tag names in selectors

A tag name in a selector may be written in small or in capital letters. Which
letters of a text belong to tag names can be seen from left to right: a
character stands in a tag, in a part of a compound or between square brackets,
and each character decides where the next one stands (`Zone.next`). `upperTags`
puts the tag names in capitals and leaves everything else alone. Of a selector
that is written by the grammar it changes the heads of the compounds, and no gap
and no part (`SelectorText.upperTags_text`).

Whatever reads the text sees the same before and after: separators, brackets
and what opens a part are no letters, and letters stay name characters. So
reading a text in capitals is reading the text and putting the tags in
capitals (`Selector.parse?_upperTags`), piece by piece and also where the text
is no selector at all. Since tags are compared by their capitals, no element
can tell the two selectors apart.
-/

namespace WidgetMarkup

namespace Text

/-! ## Letters -/

/-- The small letters, counted from 0. -/
def smallLetter (n : Nat) : Char :=
  Char.ofNat (97 + n)

/-- What holds of a row of numbers, read as characters, holds of every character
in the row. -/
theorem forall_of_row {P : Char → Prop} {first length : Nat}
    (h : ∀ n < length, P (Char.ofNat (first + n))) {c : Char} (hfirst : first ≤ c.toNat)
    (hlast : c.toNat < first + length) : P c := by
  have hc := h (c.toNat - first) (by omega)
  rwa [Nat.add_sub_cancel' hfirst, Char.ofNat_toNat] at hc

/-- **What does not see the case of a small letter sees no case.** -/
theorem comp_toUpper {α : Type} {f : Char → α}
    (h : ∀ n < 26, f (smallLetter n).toUpper = f (smallLetter n)) (c : Char) :
    f c.toUpper = f c := by
  by_cases hc : 'a'.val ≤ c.val ∧ c.val ≤ 'z'.val
  · exact forall_of_row (P := fun c => f c.toUpper = f c) h (UInt32.le_iff_toNat_le.mp hc.1)
      (Nat.lt_succ_of_le (UInt32.le_iff_toNat_le.mp hc.2))
  · exact congrArg f (dif_neg hc)

/-- What is no small letter is its own capital. -/
theorem toUpper_eq_self {p : Char → Bool} (h : ∀ n < 26, p (smallLetter n) = false) {c : Char}
    (hc : p c = true) : c.toUpper = c := by
  by_cases hsmall : 'a'.val ≤ c.val ∧ c.val ≤ 'z'.val
  · have hno := forall_of_row (P := fun c => p c = false) h (UInt32.le_iff_toNat_le.mp hsmall.1)
      (Nat.lt_succ_of_le (UInt32.le_iff_toNat_le.mp hsmall.2))
    cases hno.symm.trans hc
  · exact dif_neg hsmall

@[simp]
theorem foldCase_foldCase (s : String) : foldCase (foldCase s) = foldCase s := by
  unfold foldCase
  rw [String.toList_ofList, List.map_map]
  congr 2
  funext c
  exact comp_toUpper (by decide) c

end Text

open Text

theorem isSeparator_toUpper (c : Char) : isSeparator c.toUpper = isSeparator c :=
  comp_toUpper (by decide) c

theorem opensPart_toUpper (c : Char) : opensPart c.toUpper = opensPart c :=
  comp_toUpper (by decide) c

theorem isNameChar_toUpper (c : Char) : isNameChar c.toUpper = isNameChar c :=
  comp_toUpper (by decide +kernel) c

theorem toUpper_of_isSeparator {c : Char} (h : isSeparator c = true) : c.toUpper = c :=
  toUpper_eq_self (by decide) h

theorem toUpper_of_opensPart {c : Char} (h : opensPart c = true) : c.toUpper = c :=
  toUpper_eq_self (by decide) h

/-! ## Where tag names stand -/

/-- **Where a character of a selector stands.** -/
inductive Zone where
  /-- In a tag name, or where one may begin. -/
  | tag
  /-- In a part of a compound. -/
  | part
  /-- Between square brackets. -/
  | brackets
deriving DecidableEq

namespace Zone

/-- Where the next character stands. -/
def next (z : Zone) (c : Char) : Zone :=
  if z = brackets then if c = ']' then part else brackets
  else if isSeparator c then tag
  else if c = '[' then brackets
  else if opensPart c then part
  else z

/-- The character, as a capital if it stands in a tag name. -/
def write : Zone → Char → Char
  | tag, c => c.toUpper
  | _, c => c

theorem comp_write {α : Type} {f : Char → α}
    (h : ∀ n < 26, f (smallLetter n).toUpper = f (smallLetter n)) (z : Zone) (c : Char) :
    f (z.write c) = f c := by
  cases z with
  | tag => exact comp_toUpper h c
  | _ => rfl

/-- Brackets end at the first `]`. -/
theorem next_brackets (c : Char) : (brackets.next c == brackets) = (c != ']') := by
  rw [next, if_pos rfl]
  by_cases hc : c = ']' <;> simp [hc]

/-- Outside brackets, they begin at `[`. -/
theorem next_eq_brackets {z : Zone} {c : Char} (hz : z ≠ brackets) (hc : isSeparator c = false) :
    (z.next c == brackets) = (c == '[') := by
  rw [next, if_neg hz, if_neg (by simp [hc])]
  by_cases hopen : c = '['
  · simp [hopen]
  · rw [if_neg hopen, beq_eq_false_iff_ne.mpr hopen, beq_eq_false_iff_ne]
    split
    · exact nofun
    · exact hz

theorem next_comp_toUpper (z : Zone) :
    ∀ n < 26, z.next (smallLetter n).toUpper = z.next (smallLetter n) := by
  cases z <;> decide

/-- A tag name begins behind a separator only. -/
theorem next_ne_tag {z : Zone} {c : Char} (hz : z ≠ tag)
    (hc : z ≠ brackets → isSeparator c = false) : z.next c ≠ tag := by
  rw [next]
  split
  · split <;> exact Zone.noConfusion
  · next hbrackets =>
    rw [if_neg (by simp [hc hbrackets])]
    split
    · exact Zone.noConfusion
    · split
      · exact Zone.noConfusion
      · exact hz

/-- A tag name ends where a part begins. -/
theorem next_tag {c : Char} (hc : isSeparator c = false) :
    (tag.next c ≠ tag ↔ opensPart c = true) := by
  rw [next, if_neg Zone.noConfusion, if_neg (by simp [hc])]
  by_cases hopen : c = '['
  · subst hopen
    decide
  · rw [if_neg hopen]
    cases opensPart c <;> decide

theorem next_of_isSeparator {z : Zone} {c : Char} (hz : z ≠ brackets) (hc : isSeparator c = true) :
    z.next c = tag := by
  rw [next, if_neg hz, if_pos hc]

end Zone

/-- **The text with its tag names in capitals.** -/
def upperTags : Zone → List Char → List Char
  | _, [] => []
  | z, c :: rest => z.write c :: upperTags (z.next c) rest

/-- Only tag names are put in capitals. -/
example : upperTags .tag "panel > view#Row.big[x='a > b'] text".toList
    = "PANEL > VIEW#Row.big[x='a > b'] TEXT".toList := by
  decide

/-- A separator stays, and behind it a tag name may begin. -/
theorem upperTags_of_isSeparator {z : Zone} (hz : z ≠ .brackets) {c : Char}
    (hc : isSeparator c = true) (rest : List Char) :
    upperTags z (c :: rest) = c :: upperTags .tag rest := by
  rw [upperTags, Zone.next_of_isSeparator hz hc]
  cases z with
  | tag => exact congrArg (· :: _) (toUpper_of_isSeparator hc)
  | _ => rfl

theorem upperTags_of_all_isSeparator {run : List Char} (h : run.all isSeparator = true)
    (s : List Char) : upperTags .tag (run ++ s) = run ++ upperTags .tag s := by
  induction run with
  | nil => rfl
  | cons c run ih =>
    rw [List.all_cons, Bool.and_eq_true] at h
    rw [List.cons_append, upperTags_of_isSeparator Zone.noConfusion h.1, ih h.2, List.cons_append]

@[simp]
theorem upperTags_eq_nil_iff {z : Zone} {s : List Char} : upperTags z s = [] ↔ s = [] := by
  cases s <;> simp [upperTags]

/-! ## Cutting a text -/

/-- A run of separators stays, and what is left may begin with a tag name. -/
theorem takeWhile_dropWhile_upperTags {p : Char → Bool}
    (hp : ∀ c, p c = true → isSeparator c = true) (hupper : ∀ c, p c.toUpper = p c) (s : List Char) :
    (upperTags .tag s).takeWhile p = s.takeWhile p
      ∧ (upperTags .tag s).dropWhile p = upperTags .tag (s.dropWhile p) := by
  induction s with
  | nil => exact ⟨rfl, rfl⟩
  | cons c rest ih =>
    cases hc : p c with
    | true =>
      rw [upperTags_of_isSeparator (by decide) (hp c hc)]
      simp only [List.takeWhile_cons, List.dropWhile_cons, hc, if_true, ih, and_self]
    | false =>
      have hstop : p (Zone.tag.write c) = false := (hupper c).trans hc
      simp [upperTags, hstop, hc]

theorem upperTags_append (z : Zone) (s t : List Char) :
    upperTags z (s ++ t) = upperTags z s ++ upperTags (s.foldl Zone.next z) t := by
  induction s generalizing z with
  | nil => rfl
  | cons c s ih => exact congrArg (z.write c :: ·) (ih (z.next c))

theorem rdropWhile_upperTags {p : Char → Bool}
    (hp : ∀ n < 26, p (smallLetter n).toUpper = p (smallLetter n)) (z : Zone) (s : List Char) :
    (upperTags z s).rdropWhile p = upperTags z (s.rdropWhile p) := by
  induction s using List.reverseRecOn with
  | nil => rfl
  | append_singleton s c ih =>
    rw [upperTags_append, upperTags, upperTags, List.rdropWhile_concat, List.rdropWhile_concat,
      Zone.comp_write hp, ih, apply_ite (upperTags z), upperTags_append]
    rfl

/-- White space at the two ends is taken off before or after. -/
theorem trim_upperTags (s : List Char) : trim (upperTags .tag s) = upperTags .tag (trim s) := by
  have hblank : ∀ n < 26, isBlank (smallLetter n).toUpper = isBlank (smallLetter n) := by decide
  have hsep : ∀ c, isBlank c = true → isSeparator c = true := fun c hc => by
    rw [isSeparator, hc, Bool.or_true]
  show ((upperTags .tag s).dropWhile isBlank).rdropWhile isBlank = _
  rw [(takeWhile_dropWhile_upperTags hsep (comp_toUpper hblank) s).2, rdropWhile_upperTags hblank]
  rfl

/-- What does not separate is passed. -/
theorem spanCompound_cons {z : Zone} {c : Char} (hc : z ≠ .brackets → isSeparator c = false)
    (s : List Char) :
    spanCompound (z == .brackets) (c :: s)
      = (spanCompound (z.next c == .brackets) s).map fun (word, after) => (c :: word, after) := by
  by_cases hz : z = .brackets
  · subst hz
    rw [Zone.next_brackets]
    rfl
  · rw [beq_eq_false_iff_ne.mpr hz, spanCompound, if_neg (by simp [hc hz]),
      Zone.next_eq_brackets hz (hc hz)]

/-- **A compound is cut off at the same place.** Behind it a tag name may
begin. -/
theorem spanCompound_upperTags (z : Zone) (s : List Char) :
    spanCompound (z == .brackets) (upperTags z s)
      = (spanCompound (z == .brackets) s).map fun (word, after) =>
          (upperTags z word, upperTags .tag after) := by
  induction s generalizing z with
  | nil => cases z <;> rfl
  | cons c rest ih =>
    -- the compound ends here, or goes on with the next character
    by_cases hstop : z ≠ .brackets ∧ isSeparator c = true
    · obtain ⟨hz, hc⟩ := hstop
      rw [upperTags_of_isSeparator hz hc, beq_eq_false_iff_ne.mpr hz, spanCompound, spanCompound,
        if_pos hc, if_pos hc]
      exact congrArg (fun after => some ([], after))
        (upperTags_of_isSeparator (z := .tag) Zone.noConfusion hc rest).symm
    · have hc : z ≠ .brackets → isSeparator c = false := fun hz =>
        Bool.eq_false_iff.mpr fun hc => hstop ⟨hz, hc⟩
      have hwrite : z ≠ .brackets → isSeparator (z.write c) = false := fun hz =>
        (Zone.comp_write (by decide) z c).trans (hc hz)
      rw [spanCompound_cons hc, upperTags, spanCompound_cons hwrite,
        Zone.comp_write z.next_comp_toUpper, ih, Option.map_map, Option.map_map]
      rfl

/-! ## In a compound -/

/-- The rest of a text without separators outside brackets is one again. -/
theorem spanCompound_cons_self {z : Zone} {c : Char} {s : List Char}
    (h : spanCompound (z == .brackets) (c :: s) = some (c :: s, [])) :
    (z ≠ .brackets → isSeparator c = false)
      ∧ spanCompound (z.next c == .brackets) s = some (s, []) := by
  have hc : z ≠ .brackets → isSeparator c = false := by
    intro hz
    rw [beq_eq_false_iff_ne.mpr hz, spanCompound] at h
    split at h
    · cases h
    · next hsep => exact Bool.eq_false_iff.mpr hsep
  refine ⟨hc, ?_⟩
  rw [spanCompound_cons hc] at h
  obtain ⟨⟨word, after⟩, hspan, heq⟩ := Option.map_eq_some_iff.mp h
  obtain ⟨rfl, rfl⟩ : word = s ∧ after = [] := by simpa using heq
  exact hspan

/-- Where no tag name can begin, nothing is changed. -/
theorem upperTags_of_ne_tag {z : Zone} (hz : z ≠ .tag) {s : List Char}
    (h : spanCompound (z == .brackets) s = some (s, [])) : upperTags z s = s := by
  induction s generalizing z with
  | nil => rfl
  | cons c s ih =>
    obtain ⟨hc, hrest⟩ := spanCompound_cons_self h
    have hwrite : z.write c = c := by
      cases z with
      | tag => exact absurd rfl hz
      | _ => rfl
    rw [upperTags, hwrite, ih (Zone.next_ne_tag hz hc) hrest]

/-- **In a compound only the head is changed.** -/
theorem upperTags_of_whole {s : List Char} (h : Whole s) :
    upperTags .tag s
      = (s.takeWhile (!opensPart ·)).map Char.toUpper ++ s.dropWhile (!opensPart ·) := by
  induction s with
  | nil => rfl
  | cons c s ih =>
    obtain ⟨hc, hrest⟩ := spanCompound_cons_self (z := .tag) h
    have hnext := Zone.next_tag (hc Zone.noConfusion)
    show c.toUpper :: upperTags (Zone.tag.next c) s = _
    -- the tag ends where the first part begins, and none begins after that
    cases hopen : opensPart c with
    | true =>
      rw [upperTags_of_ne_tag (hnext.mpr hopen) hrest, toUpper_of_opensPart hopen]
      simp [hopen]
    | false =>
      have htag : Zone.tag.next c = .tag := not_not.mp fun h => by simp [hnext.mp h] at hopen
      rw [htag] at hrest ⊢
      rw [ih hrest]
      simp [hopen]

/-! ## Tag names in the grammar -/

theorem isName_map_toUpper {name : List Char} (h : isName name = true) :
    isName (name.map Char.toUpper) = true := by
  rw [isName, List.all_map, show isNameChar ∘ Char.toUpper = isNameChar from
    funext isNameChar_toUpper, List.isEmpty_map]
  exact h

/-- The head with its tag in capitals. -/
def Head.upper : Head → Head
  | .tag name => .tag ⟨name.1.map Char.toUpper, isName_map_toUpper name.2⟩
  | head => head

theorem Head.text_upper (head : Head) : head.upper.text = head.text.map Char.toUpper := by
  cases head with
  | none => rfl
  | star => decide
  | tag name => rfl

namespace CompoundText

/-- The compound with its tag in capitals. -/
def upper (c : CompoundText) : CompoundText where
  head := c.head.upper
  parts := c.parts
  nonempty := by
    have hne := c.nonempty
    rw [ne_eq, List.append_eq_nil_iff] at hne ⊢
    rwa [Head.text_upper, List.map_eq_nil_iff]

theorem upperTags_text (c : CompoundText) : upperTags .tag c.text = c.upper.text := by
  have hwhole : Whole c.text := by
    have hspan := (Passes.compound c).spanCompound_append (EndsRun.nil (!isSeparator ·))
    rwa [List.append_nil] at hspan
  obtain ⟨htake, hdrop⟩ := takeWhile_dropWhile_append c.head.all_text
    (Compound.endsRun_flatMap_text c.parts)
  rw [upperTags_of_whole hwhole, text, htake, hdrop, ← Head.text_upper]
  rfl

/-- What follows a compound begins with a separator, and no tag name is cut
there. -/
theorem upperTags_text_append (c : CompoundText) {s : List Char}
    (hs : EndsRun (!isSeparator ·) s) :
    upperTags .tag (c.text ++ s) = c.upper.text ++ upperTags .tag s := by
  have hspan := spanCompound_upperTags .tag (c.text ++ s)
  have hcut : spanCompound (Zone.tag == .brackets) (c.text ++ s) = some (c.text, s) :=
    (Passes.compound c).spanCompound_append hs
  rw [hcut, Option.map_some] at hspan
  rw [append_of_spanCompound hspan, upperTags_text]

end CompoundText

namespace SelectorText

/-- The selector with all its tags in capitals. -/
def upper (t : SelectorText) : SelectorText where
  first := t.first.upper
  rest := t.rest.map fun (gap, c) => (gap, c.upper)

theorem upperTags_tail (rest : List (Gap × CompoundText)) :
    upperTags .tag (tail rest) = tail (rest.map fun (gap, c) => (gap, c.upper)) := by
  induction rest with
  | nil => rfl
  | cons piece rest ih =>
    obtain ⟨gap, c⟩ := piece
    show upperTags .tag (gap.text ++ c.text ++ tail rest)
      = gap.text ++ c.upper.text ++ tail (rest.map _)
    rw [List.append_assoc, upperTags_of_all_isSeparator gap.all_isSeparator,
      c.upperTags_text_append (Selector.endsRun_tail rest), ih, List.append_assoc]

/-- **In a selector as it is written, the tags are put in capitals** and nothing
else is changed. -/
theorem upperTags_text (t : SelectorText) : upperTags .tag t.text = t.upper.text := by
  rw [text, t.first.upperTags_text_append (Selector.endsRun_tail t.rest), upperTags_tail]
  rfl

end SelectorText

/-! ## Reading compounds -/

namespace Compound

/-- The compound with its tag in capitals. -/
def foldTag (c : Compound) : Compound :=
  { c with tag := c.tag.map foldCase }

/-- Reading parts does not look at the tag. -/
theorem parseParts_foldTag (c : Compound) (s : List Char) :
    parseParts c.foldTag s = (parseParts c s).map foldTag := by
  induction c, s using parseParts.induct with
  | case1 c => rw [parseParts, parseParts, Option.map_some]
  | case2 c rest name hname ih =>
    rw [parseParts, parseParts, if_pos hname, if_pos hname]
    exact ih
  | case3 c rest name hname =>
    rw [parseParts, parseParts, if_neg hname, if_neg hname, Option.map_none]
  | case4 c rest name hname ih =>
    rw [parseParts, parseParts, if_pos hname, if_pos hname]
    exact ih
  | case5 c rest name hname =>
    rw [parseParts, parseParts, if_neg hname, if_neg hname, Option.map_none]
  | case6 c rest hnone => rw [parseParts, parseParts, hnone, Option.map_none]
  | case7 c rest t ht ih =>
    rw [parseParts, parseParts, ht]
    exact ih
  | case8 c first rest hid hword hopen =>
    rw [parseParts, parseParts, Option.map_none]
    all_goals assumption

/-- **A compound in capitals is read as the compound**, with its tag in
capitals. -/
theorem parse?_upperTags {s : List Char} (h : Whole s) :
    parse? (upperTags .tag s) = (parse? s).map foldTag := by
  generalize hrun : s.takeWhile (!opensPart ·) = run
  generalize hparts : s.dropWhile (!opensPart ·) = parts
  have hcut : (run.map Char.toUpper ++ parts).takeWhile (!opensPart ·) = run.map Char.toUpper
      ∧ (run.map Char.toUpper ++ parts).dropWhile (!opensPart ·) = parts := by
    refine takeWhile_dropWhile_append ?_ (hparts ▸ EndsRun.dropWhile _ s)
    have hall : run.all (!opensPart ·) = true := hrun ▸ List.all_takeWhile
    rw [List.all_map, ← hall]
    congr 1
    funext c
    exact congrArg (!·) (opensPart_toUpper c)
  have hstar : run.map Char.toUpper = ['*'] ↔ run = ['*'] := by
    have hstar (c : Char) : (c.toUpper == '*') = (c == '*') :=
      comp_toUpper (f := (· == '*')) (by decide) c
    simp only [List.map_eq_singleton_iff, ← beq_iff_eq (b := '*'), hstar]
    simp
  have hname : (run.map Char.toUpper).all isNameChar = run.all isNameChar := by
    rw [List.all_map]
    congr 1
    funext c
    exact isNameChar_toUpper c
  have htag : String.ofList (run.map Char.toUpper) = foldCase (String.ofList run) := by
    rw [foldCase, String.toList_ofList]
  rw [upperTags_of_whole h, hrun, hparts, parse?, parse?, hcut.1, hcut.2, hrun, hparts, hname, htag]
  simp only [List.map_eq_nil_iff, hstar]
  split
  · exact parseParts_foldTag {} parts
  · split
    · exact parseParts_foldTag { tag := some (String.ofList run) } parts
    · rfl

end Compound

/-! ## Reading selectors -/

theorem firstCompound?_upperTags (s : List Char) :
    firstCompound? (upperTags .tag s)
      = (firstCompound? s).map fun (k, after) => (k.foldTag, upperTags .tag after) := by
  rw [firstCompound?_eq, firstCompound?_eq]
  have hspan := spanCompound_upperTags .tag s
  show Option.bind (spanCompound (Zone.tag == .brackets) _) _ = _
  rw [hspan]
  show _ = Option.map _ (Option.bind (spanCompound (Zone.tag == .brackets) s) _)
  cases hcut : spanCompound (Zone.tag == .brackets) s with
  | none => rfl
  | some cut =>
    obtain ⟨word, after⟩ := cut
    have hwhole : Whole word := (whole_of_spanCompound hcut).1
    show (if upperTags .tag word = [] then none else _)
      = Option.map _ (if word = [] then none else _)
    rw [Compound.parse?_upperTags hwhole, apply_ite (Option.map _)]
    simp only [upperTags_eq_nil_iff, Option.map_map, Option.map_none]
    rfl

namespace Selector

/-- The selector with all its tags in capitals. -/
def foldTags (s : Selector) : Selector where
  key := s.key.foldTag
  ancestors := s.ancestors.map fun (comb, c) => (comb, c.foldTag)

/-- What is read behind a compound, written without its proof of an end. -/
theorem parseTail_eq (s : Selector) (text : List Char) :
    parseTail s text
      = if text.dropWhile isSeparator = [] then
          if '>' ∈ text.takeWhile isSeparator then none else some s
        else
          (combinator? (text.takeWhile isSeparator)).bind fun comb =>
            (firstCompound? (text.dropWhile isSeparator)).bind fun (k, after) =>
              parseTail (s.extend comb k) after := by
  rw [parseTail]
  split
  · next hnil => rw [if_pos hnil]
  · next c rest hcons =>
    rw [if_neg (by simp [hcons]), hcons]
    cases combinator? (text.takeWhile isSeparator) with
    | none => rfl
    | some comb =>
      cases hfirst : firstCompound? (c :: rest) with
      | none => simp
      | some found => simp

/-- **What is read behind a compound**, in capitals, by induction on the text that
is left. -/
theorem parseTail_upperTags (s : Selector) (text : List Char) :
    parseTail s.foldTags (upperTags .tag text) = (parseTail s text).map foldTags := by
  obtain ⟨htake, hdrop⟩ := takeWhile_dropWhile_upperTags (fun _ => id) isSeparator_toUpper text
  rw [parseTail_eq, parseTail_eq s, htake, hdrop, firstCompound?_upperTags]
  simp only [upperTags_eq_nil_iff]
  split
  · split <;> rfl
  · cases combinator? (text.takeWhile isSeparator) with
    | none => rfl
    | some comb =>
      cases hfirst : firstCompound? (text.dropWhile isSeparator) with
      | none => rfl
      | some found =>
        obtain ⟨k, after⟩ := found
        have hlen : after.length < text.length :=
          Nat.lt_of_lt_of_le (length_firstCompound? hfirst)
            (List.dropWhile_suffix isSeparator).length_le
        exact parseTail_upperTags (s.extend comb k) after
termination_by text.length

/-- **A selector in capitals is read as the selector**, with all its tags in
capitals, and is no selector if the text is none. -/
theorem parse?_upperTags (text : List Char) :
    parse? (upperTags .tag text) = (parse? text).map foldTags := by
  unfold parse?
  rw [trim_upperTags, firstCompound?_upperTags]
  cases firstCompound? (trim text) with
  | none => rfl
  | some found => exact parseTail_upperTags ⟨found.1, []⟩ found.2

/-! ## Lists of selectors -/

/-- **The pieces of a list**, each with its tag names in capitals. -/
def upperPieces (text : String) : List (List Char) :=
  (text.toList.splitOn ',').map (upperTags .tag)

/-- Answers are changed after or before they are put in a list. -/
theorem map_mapM {α β γ : Type} (f : α → Option β) (g : β → γ) (l : List α) :
    (l.mapM f).map (List.map g) = l.mapM fun a => (f a).map g := by
  induction l with
  | nil => rfl
  | cons a l ih =>
    rw [List.mapM_cons, List.mapM_cons, ← ih]
    cases f a with
    | none => rfl
    | some b => cases l.mapM f <;> rfl

/-- **A list in capitals is read as the list**, with all tags in capitals. -/
theorem map_foldTags_parseList? (text : String) :
    (parseList? text).map (List.map foldTags) = (upperPieces text).mapM parse? := by
  rw [parseList?, map_mapM, upperPieces, List.mapM_map]
  congr 1
  funext piece
  exact (parse?_upperTags piece).symm

end Selector

/-! ## Matching -/

/-- The element with its tag in capitals. -/
def Element.foldTag (e : Element) : Element :=
  { e with tag := foldCase e.tag }

theorem Element.foldTag_foldTag (e : Element) : e.foldTag.foldTag = e.foldTag := by
  unfold foldTag
  rw [foldCase_foldCase]

theorem sameName_foldCase (a b : String) :
    sameName (foldCase a) (foldCase b) = sameName a b := by
  unfold sameName
  rw [foldCase_foldCase, foldCase_foldCase]

/-- **No compound sees the case of a tag**, its own or that of the element. -/
theorem Compound.accepts_foldTag (c : Compound) (e : Element) :
    c.foldTag.accepts e.foldTag = c.accepts e := by
  have htag : (c.tag.map foldCase).all (sameName (foldCase e.tag))
      = c.tag.all (sameName e.tag) := by
    cases c.tag with
    | none => rw [Option.map_none, Option.all_none, Option.all_none]
    | some tag => rw [Option.map_some, Option.all_some, Option.all_some, sameName_foldCase]
  unfold accepts
  refine congrArg₂ _ (congrArg₂ _ (congrArg₂ _ htag ?_) ?_) ?_
  all_goals rfl

theorem acceptsChain_foldTags (conditions : List (Combinator × Compound)) (chain : List Element) :
    acceptsChain (conditions.map fun (comb, c) => (comb, c.foldTag)) (chain.map Element.foldTag)
      = acceptsChain conditions chain := by
  induction chain generalizing conditions with
  | nil => cases conditions <;> rfl
  | cons e chain ih =>
    cases conditions with
    | nil => rfl
    | cons condition conditions =>
      obtain ⟨comb, c⟩ := condition
      cases comb with
      | child =>
        rw [acceptsChain, ← ih, ← c.accepts_foldTag]
        rfl
      | descendant =>
        rw [acceptsChain, ← ih, ← ih ((.descendant, c) :: conditions), ← c.accepts_foldTag]
        rfl

namespace Selector

/-- A selector and an element may both be put in capitals. -/
theorem accepts_foldTags (s : Selector) (e : Element) (chain : List Element) :
    s.foldTags.accepts e.foldTag (chain.map Element.foldTag) = s.accepts e chain := by
  unfold accepts
  rw [← s.key.accepts_foldTag, ← acceptsChain_foldTags s.ancestors]
  rfl

/-- **No selector sees the case of a tag.** -/
theorem accepts_map_foldTag (s : Selector) (e : Element) (chain : List Element) :
    s.accepts e.foldTag (chain.map Element.foldTag) = s.accepts e chain := by
  have htwice : Element.foldTag ∘ Element.foldTag = Element.foldTag :=
    funext Element.foldTag_foldTag
  calc s.accepts e.foldTag (chain.map Element.foldTag)
      = s.foldTags.accepts e.foldTag.foldTag ((chain.map Element.foldTag).map Element.foldTag) :=
        (s.accepts_foldTags _ _).symm
    _ = s.foldTags.accepts e.foldTag (chain.map Element.foldTag) := by
        rw [e.foldTag_foldTag, List.map_map, htwice]
    _ = s.accepts e chain := s.accepts_foldTags e chain

/-- **No element sees the case of the tags in selectors.** -/
theorem any_accepts_congr {selectors selectors' : List Selector}
    (h : selectors.map foldTags = selectors'.map foldTags) (e : Element) (chain : List Element) :
    selectors.any (·.accepts e chain) = selectors'.any (·.accepts e chain) := by
  have hfold (selectors : List Selector) : selectors.any (·.accepts e chain)
      = (selectors.map foldTags).any (·.accepts e.foldTag (chain.map Element.foldTag)) := by
    simp only [List.any_map, Function.comp_def, accepts_foldTags]
  rw [hfold, h, ← hfold]

end Selector

end WidgetMarkup
