import WidgetMarkup.Proofs.Selector.Grammar
import WidgetMarkup.Proofs.Text.Trim

/-!
# Compounds are read by their grammar

Reading a compound is reading a head and then part after part. It is said here
that this reads every `CompoundText` as what it says (`Compound.parse?_text`),
and that whatever is read is one (`Compound.exists_of_parse?`).

What makes the pieces of a text come apart where they were put together is
where a run of characters ends. A name is a run of characters that begin no
part, and it ends where the next part begins. Brackets are another matter: a
separator between them does not separate. A piece of text `Passes` if nothing
in it does, all brackets counted. Names pass, brackets that are closed pass
with whatever is in them, and so every compound passes; and where a text that
is `Whole` begins with a piece that passes, what is left of it is whole
again.
-/

namespace WidgetMarkup

open Text

/-! ## Characters and runs -/

/-- White space is neither a letter nor a digit. -/
theorem isAlphanumeric_eq_false_of_isBlank {c : Char} (h : isBlank c = true) :
    isAlphanumeric c = false :=
  forall_of_coveredBy (P := fun c => isAlphanumeric c = false) (by decide) (by decide +kernel) h

theorem isNameChar_eq_false_of_opensPart {c : Char} (h : opensPart c = true) :
    isNameChar c = false := by
  simp only [opensPart, Bool.or_eq_true, beq_iff_eq] at h
  rcases h with (rfl | rfl) | rfl <;> decide +kernel

theorem isNameChar_eq_false_of_isSeparator {c : Char} (h : isSeparator c = true) :
    isNameChar c = false := by
  simp only [isSeparator, Bool.or_eq_true, beq_iff_eq] at h
  rcases h with rfl | h
  · decide +kernel
  · have hne : c ≠ '-' ∧ c ≠ '_' := by
      constructor <;> rintro rfl <;> exact absurd h (by decide)
    simp [isNameChar, isAlphanumeric_eq_false_of_isBlank h, hne]

/-- What stands in brackets is a run to the first `]`. -/
theorem takeWhile_dropWhile_close {inner : List Char} (h : ']' ∉ inner) (more : List Char) :
    (inner ++ ']' :: more).takeWhile (· != ']') = inner
      ∧ ((inner ++ ']' :: more).dropWhile (· != ']')).drop 1 = more := by
  have hinner : inner.all (· != ']') = true := by
    rw [List.all_eq_true]
    exact fun c hc => bne_iff_ne.mpr fun heq => h (heq ▸ hc)
  have hclose : EndsRun (· != ']') (']' :: more) := by simp [EndsRun]
  obtain ⟨htake, hdrop⟩ := takeWhile_dropWhile_append hinner hclose
  refine ⟨htake, ?_⟩
  rw [hdrop]
  rfl

/-- Name characters make a run to the next part. -/
theorem all_of_isName {name : List Char} (h : isName name = true) :
    name.all (!opensPart ·) = true ∧ name.all (!isSeparator ·) = true := by
  obtain ⟨-, h⟩ : name.isEmpty = false ∧ ∀ c ∈ name, isNameChar c = true := by
    simpa [isName] using h
  simp only [List.all_eq_true, Bool.not_eq_true']
  refine ⟨fun c hc => Bool.eq_false_iff.mpr fun hopens => ?_,
    fun c hc => Bool.eq_false_iff.mpr fun hsep => ?_⟩
  · exact absurd (h c hc) (by simp [isNameChar_eq_false_of_opensPart hopens])
  · exact absurd (h c hc) (by simp [isNameChar_eq_false_of_isSeparator hsep])

/-! ## Between square brackets -/

theorem unquote?_eq_some_iff {quote : Char} {s v : List Char} :
    unquote? quote s = some v ↔ s = quote :: (v ++ [quote]) := by
  cases s with
  | nil => simp [unquote?]
  | cons c rest =>
    rw [unquote?]
    constructor
    · intro h
      split at h
      · next hquote =>
        obtain ⟨rfl, hlast⟩ := hquote
        obtain ⟨ys, rfl⟩ := List.getLast?_eq_some_iff.mp hlast
        obtain rfl : ys = v := by simpa using h
        rfl
      · cases h
    · intro h
      obtain ⟨rfl, rfl⟩ := List.cons.inj h
      simp

theorem unquote?_eq_none_iff {quote : Char} {s : List Char} :
    unquote? quote s = none ↔ ∀ v, s ≠ quote :: (v ++ [quote]) := by
  rw [Option.eq_none_iff_forall_ne_some]
  exact forall_congr' fun v => not_congr unquote?_eq_some_iff

/-- **Quotes are taken off in pairs.** -/
theorem unquoted_iff {s v : List Char} : Unquoted s v ↔ unquote s = v := by
  constructor
  · intro h
    unfold unquote
    cases h with
    | double v => rw [unquote?_eq_some_iff.mpr rfl]; rfl
    | single v =>
      rw [unquote?_eq_none_iff.mpr (by simp), unquote?_eq_some_iff.mpr rfl]
      rfl
    | bare hdouble hsingle =>
      rw [unquote?_eq_none_iff.mpr hdouble, unquote?_eq_none_iff.mpr hsingle]
      rfl
  · rintro rfl
    unfold unquote
    cases hdouble : unquote? '"' s with
    | some v =>
      obtain rfl := unquote?_eq_some_iff.mp hdouble
      exact .double v
    | none =>
      cases hsingle : unquote? '\'' s with
      | some v =>
        obtain rfl := unquote?_eq_some_iff.mp hsingle
        exact .single v
      | none => exact .bare (unquote?_eq_none_iff.mp hdouble) (unquote?_eq_none_iff.mp hsingle)

/-- **What stands between brackets is read as what it is.** -/
theorem AttributeTest.parse?_eq_some_iff {inner : List Char} {t : AttributeTest} :
    AttributeTest.parse? inner = some t ↔ Bracketed inner t := by
  constructor
  · intro h
    unfold AttributeTest.parse? at h
    split at h
    · next hsplit =>
      split at h
      · cases h
      · next hblank =>
        cases h
        exact .named (splitOnce_eq_none_iff.mp hsplit) (Bool.eq_false_iff.mpr hblank)
    · next name value hsplit =>
      split at h
      · cases h
      · next hblank =>
        cases h
        obtain ⟨rfl, hname⟩ := splitOnce_eq_some_iff.mp hsplit
        exact .valued hname (Bool.eq_false_iff.mpr hblank) (unquoted_iff.mpr rfl)
  · intro h
    unfold AttributeTest.parse?
    cases h with
    | named hname hblank => simp [splitOnce_eq_none_iff.mpr hname, hblank]
    | valued hname hblank hvalue =>
      simp [splitOnce_append_cons hname, hblank, unquoted_iff.mp hvalue]

/-! ## Compounds -/

/-- A head ends where a part begins. -/
theorem Head.all_text (head : Head) : head.text.all (!opensPart ·) = true := by
  cases head with
  | none => rfl
  | star => decide
  | tag name => exact (all_of_isName name.2).1

namespace Compound

/-- The compound with one more part to its right. -/
def add (c : Compound) : Part → Compound
  | .id name => { c with id := some (String.ofList name.1) }
  | .word name => { c with classes := c.classes ++ [String.ofList name.1] }
  | .condition _ test _ _ => { c with attributes := c.attributes ++ [test] }

/-- **Parts added one by one** leave the last id, and all words and conditions
in order. -/
theorem foldl_add (c : Compound) (parts : List Part) :
    parts.foldl add c
      = { tag := c.tag
          id := (parts.filterMap Part.id?).getLast?.or c.id
          classes := c.classes ++ parts.filterMap Part.word?
          attributes := c.attributes ++ parts.filterMap Part.test? } := by
  induction parts generalizing c with
  | nil => simp
  | cons part parts ih =>
    rw [List.foldl_cons, ih]
    cases part with
    | id name =>
      simp only [add, List.filterMap_cons, Part.id?, Part.word?, Part.test?, List.getLast?_cons]
      cases (parts.filterMap Part.id?).getLast? <;> rfl
    | word name => simp [add, List.filterMap_cons, Part.id?, Part.word?, Part.test?]
    | condition inner test closed reads =>
      simp [add, List.filterMap_cons, Part.id?, Part.word?, Part.test?]

/-- A row of parts goes on where a name ends. -/
theorem endsRun_flatMap_text (parts : List Part) :
    EndsRun (!opensPart ·) (parts.flatMap Part.text) := by
  cases parts with
  | nil => exact .nil _
  | cons part parts =>
    intro c hc
    cases part <;>
      · obtain rfl := Option.some.inj hc
        rfl

/-- **Parts are read as they are written.** -/
theorem parseParts_text (c : Compound) (parts : List Part) :
    parseParts c (parts.flatMap Part.text) = some (parts.foldl add c) := by
  induction parts generalizing c with
  | nil => rw [List.flatMap_nil, parseParts]; rfl
  | cons part parts ih =>
    rw [List.flatMap_cons, List.foldl_cons, ← ih]
    have hends := endsRun_flatMap_text parts
    cases part with
    | id name =>
      obtain ⟨htake, hdrop⟩ := takeWhile_dropWhile_append (all_of_isName name.2).1 hends
      rw [Part.text, List.cons_append, parseParts]
      simp only [htake, hdrop, name.2, ↓reduceIte, add]
    | word name =>
      obtain ⟨htake, hdrop⟩ := takeWhile_dropWhile_append (all_of_isName name.2).1 hends
      rw [Part.text, List.cons_append, parseParts]
      simp only [htake, hdrop, name.2, ↓reduceIte, add]
    | condition inner test closed reads =>
      obtain ⟨htake, hdrop⟩ := takeWhile_dropWhile_close closed (parts.flatMap Part.text)
      rw [Part.text, List.cons_append, List.append_assoc, List.singleton_append, parseParts]
      simp only [htake, hdrop, AttributeTest.parse?_eq_some_iff.mpr reads, add]

end Compound

/-! ## What separates nothing -/

/-- In brackets everything is passed up to the first `]`. -/
theorem spanCompound_true (s : List Char) :
    spanCompound true s = (splitOnce ']' s).bind fun (inner, more) =>
      (spanCompound false more).map fun (word, after) => (inner ++ ']' :: word, after) := by
  induction s with
  | nil => rfl
  | cons c s ih =>
    by_cases hc : c = ']'
    · subst hc
      simp [spanCompound, splitOnce]
    · rw [spanCompound, splitOnce_cons_of_ne hc, bne_iff_ne.mpr hc, ih]
      cases splitOnce ']' s with
      | none => rfl
      | some cut =>
        show Option.map _ (Option.map _ _) = Option.map _ _
        rw [Option.map_map]
        rfl

/-- **A piece of text that nothing separates**: what comes before it goes on
over it. -/
def Passes (w : List Char) : Prop :=
  ∀ s, spanCompound false (w ++ s) = (spanCompound false s).map fun (word, after) =>
    (w ++ word, after)

namespace Passes

theorem nil : Passes [] := by
  intro s
  show spanCompound false s = Option.map id _
  rw [Option.map_id, id]

theorem append {w v : List Char} (hw : Passes w) (hv : Passes v) : Passes (w ++ v) := by
  intro s
  rw [List.append_assoc, hw, hv, Option.map_map]
  exact Option.map_congr fun p _ => congrArg (·, p.2) (List.append_assoc w v p.1).symm

theorem singleton {c : Char} (hsep : isSeparator c = false) (hopen : c ≠ '[') : Passes [c] := by
  intro s
  have hbeq : (c == '[') = false := beq_eq_false_iff_ne.mpr hopen
  rw [List.singleton_append, spanCompound, if_neg (by simp [hsep]), hbeq]
  rfl

/-- Names pass. -/
theorem of_isName {name : List Char} (h : isName name = true) : Passes name := by
  obtain ⟨hopens, hsep⟩ := all_of_isName h
  clear h
  induction name with
  | nil => exact nil
  | cons c name ih =>
    simp only [List.all_cons, Bool.and_eq_true, Bool.not_eq_true'] at hopens hsep
    have hopen : c ≠ '[' := by
      rintro rfl
      exact absurd hopens.1 (by decide)
    exact (singleton hsep.1 hopen).append (ih hopens.2 hsep.2)

/-- Brackets that are closed pass, whatever is in them. -/
theorem brackets {inner : List Char} (h : ']' ∉ inner) : Passes ('[' :: (inner ++ [']'])) := by
  intro s
  have hopen : spanCompound false ('[' :: (inner ++ [']']) ++ s)
      = (spanCompound true (inner ++ ']' :: s)).map fun (word, after) => ('[' :: word, after) := by
    rw [List.cons_append, List.append_assoc, spanCompound, if_neg (by decide)]
    rfl
  rw [hopen, spanCompound_true, splitOnce_append_cons h]
  show Option.map _ (Option.map _ _) = _
  rw [Option.map_map]
  refine Option.map_congr fun p _ => ?_
  simp

theorem part (part : Part) : Passes part.text := by
  cases part with
  | id name => exact (singleton (by decide) (by decide)).append (of_isName name.2)
  | word name => exact (singleton (by decide) (by decide)).append (of_isName name.2)
  | condition inner test closed reads => exact brackets closed

theorem head (head : Head) : Passes head.text := by
  cases head with
  | none => exact nil
  | star => exact singleton (by decide) (by decide)
  | tag name => exact of_isName name.2

/-- **Compounds pass.** -/
theorem compound (c : CompoundText) : Passes c.text := by
  have hparts : ∀ parts : List Part, Passes (parts.flatMap Part.text) := by
    intro parts
    induction parts with
    | nil => exact nil
    | cons p parts ih => exact (part p).append ih
  exact (head c.head).append (hparts c.parts)

end Passes

/-- **A piece of text in which nothing separates and every bracket is
closed.** -/
def Whole (w : List Char) : Prop :=
  spanCompound false w = some (w, [])

/-- What is cut off before a separator is whole, and what is left is nothing or
begins with the separator. -/
theorem whole_of_spanCompound {inside : Bool} {s word after : List Char}
    (h : spanCompound inside s = some (word, after)) :
    spanCompound inside word = some (word, []) ∧ EndsRun (!isSeparator ·) after := by
  induction s generalizing inside word after with
  | nil =>
    cases inside with
    | true => cases h
    | false =>
      obtain ⟨rfl, rfl⟩ : [] = word ∧ [] = after := by simpa [spanCompound] using h
      exact ⟨rfl, .nil _⟩
  | cons c rest ih =>
    cases inside with
    | true =>
      obtain ⟨⟨w, a⟩, hw, heq⟩ := Option.map_eq_some_iff.mp h
      obtain ⟨rfl, rfl⟩ : c :: w = word ∧ a = after := by simpa using heq
      obtain ⟨hwhole, hends⟩ := ih hw
      refine ⟨?_, hends⟩
      rw [spanCompound, hwhole]
      rfl
    | false =>
      rw [spanCompound] at h
      split at h
      · next hsep =>
        obtain ⟨rfl, rfl⟩ : [] = word ∧ c :: rest = after := by simpa using h
        exact ⟨rfl, by simp [EndsRun, hsep]⟩
      · next hsep =>
        obtain ⟨⟨w, a⟩, hw, heq⟩ := Option.map_eq_some_iff.mp h
        obtain ⟨rfl, rfl⟩ : c :: w = word ∧ a = after := by simpa using heq
        obtain ⟨hwhole, hends⟩ := ih hw
        refine ⟨?_, hends⟩
        rw [spanCompound, if_neg hsep, hwhole]
        rfl

/-- A compound is cut off where the text ends or a separator begins. -/
theorem Passes.spanCompound_append {w s : List Char} (hw : Passes w)
    (hs : EndsRun (!isSeparator ·) s) : spanCompound false (w ++ s) = some (w, s) := by
  have hstop : spanCompound false s = some ([], s) := by
    cases s with
    | nil => rfl
    | cons c s =>
      have hsep : isSeparator c = true := by simpa [EndsRun] using hs
      rw [spanCompound, if_pos hsep]
  rw [hw, hstop, Option.map_some]
  show some (w ++ [], s) = _
  rw [List.append_nil]

/-- A whole text is whole after a piece that passes. -/
theorem Passes.whole_of_append {w s : List Char} (hw : Passes w) (h : Whole (w ++ s)) :
    Whole s := by
  obtain ⟨⟨word, after⟩, hspan, heq⟩ := Option.map_eq_some_iff.mp ((hw s).symm.trans h)
  obtain ⟨rfl, rfl⟩ : word = s ∧ after = [] := by simpa using heq
  exact hspan

/-- In a whole text a bracket is closed, and the text is whole from there on. -/
theorem Whole.brackets {s : List Char} (h : Whole ('[' :: s)) :
    ∃ inner more, s = inner ++ ']' :: more ∧ ']' ∉ inner ∧ Whole more := by
  have hopen : (spanCompound true s).map (fun (word, after) => ('[' :: word, after))
      = some ('[' :: s, []) := by
    rw [← h, spanCompound, if_neg (by decide)]
    rfl
  obtain ⟨⟨word, after⟩, hspan, -⟩ := Option.map_eq_some_iff.mp hopen
  rw [spanCompound_true, Option.bind_eq_some_iff] at hspan
  obtain ⟨⟨inner, more⟩, hcut, -⟩ := hspan
  obtain ⟨rfl, hinner⟩ := splitOnce_eq_some_iff.mp hcut
  refine ⟨inner, more, rfl, hinner, (Passes.brackets hinner).whole_of_append ?_⟩
  simpa using h

namespace Compound

/-- A part that begins with a name leaves the rest of the text whole. -/
theorem whole_of_name {c : Char} {rest : List Char} (hsep : isSeparator c = false) (hopen : c ≠ '[')
    (hname : isName (rest.takeWhile (!opensPart ·)) = true) (h : Whole (c :: rest)) :
    Whole (rest.dropWhile (!opensPart ·)) := by
  refine ((Passes.singleton hsep hopen).append (.of_isName hname)).whole_of_append ?_
  rwa [List.append_assoc, List.takeWhile_append_dropWhile]

/-- **What is read as parts is a row of parts.** -/
theorem exists_of_parseParts {c k : Compound} {s : List Char} (h : parseParts c s = some k)
    (hs : Whole s) : ∃ parts : List Part, s = parts.flatMap Part.text ∧ parts.foldl add c = k := by
  induction c, s using parseParts.induct with
  | case1 c =>
    rw [parseParts, Option.some.injEq] at h
    exact ⟨[], rfl, h⟩
  | case2 c rest name hname ih =>
    rw [parseParts, if_pos hname] at h
    obtain ⟨parts, hparts, hread⟩ := ih h (whole_of_name (by decide) (by decide) hname hs)
    refine ⟨.id ⟨name, hname⟩ :: parts, ?_, hread⟩
    rw [List.flatMap_cons, ← hparts]
    exact congrArg ('#' :: ·) List.takeWhile_append_dropWhile.symm
  | case3 c rest name hname =>
    rw [parseParts, if_neg hname] at h
    cases h
  | case4 c rest name hname ih =>
    rw [parseParts, if_pos hname] at h
    obtain ⟨parts, hparts, hread⟩ := ih h (whole_of_name (by decide) (by decide) hname hs)
    refine ⟨.word ⟨name, hname⟩ :: parts, ?_, hread⟩
    rw [List.flatMap_cons, ← hparts]
    exact congrArg ('.' :: ·) List.takeWhile_append_dropWhile.symm
  | case5 c rest name hname =>
    rw [parseParts, if_neg hname] at h
    cases h
  | case6 c rest hnone =>
    rw [parseParts, hnone] at h
    cases h
  | case7 c rest t ht ih =>
    obtain ⟨inner, more, rfl, hinner, hmore⟩ := hs.brackets
    obtain ⟨htake, hdrop⟩ := takeWhile_dropWhile_close hinner more
    rw [parseParts, ht] at h
    rw [hdrop] at ih h
    rw [htake] at ht
    obtain ⟨parts, rfl, hread⟩ := ih h hmore
    refine ⟨.condition inner t hinner (AttributeTest.parse?_eq_some_iff.mp ht) :: parts, ?_, hread⟩
    simp [Part.text]
  | case8 c first rest hid hword hopen =>
    rw [parseParts] at h
    · cases h
    all_goals assumption

/-- The compound that a head leaves to the parts. -/
def ofHead (head : Head) : Compound :=
  { tag := head.tag? }

theorem foldl_add_ofHead (t : CompoundText) : t.parts.foldl add (ofHead t.head) = t.reading := by
  rw [foldl_add, CompoundText.reading]
  simp [ofHead]

/-- **A compound is read as it is written.** -/
theorem parse?_text (t : CompoundText) : parse? t.text = some t.reading := by
  obtain ⟨htake, hdrop⟩ := takeWhile_dropWhile_append t.head.all_text (endsRun_flatMap_text t.parts)
  rw [← foldl_add_ofHead, ← parseParts_text, CompoundText.text, parse?, htake, hdrop]
  cases t.head with
  | none => rfl
  | star => rfl
  | tag name =>
    obtain ⟨name, hname⟩ := name
    obtain ⟨hne, hall⟩ : name ≠ [] ∧ name.all isNameChar = true := by
      simpa [isName] using hname
    have hstar : name ≠ ['*'] := by
      rintro rfl
      exact absurd hall (by decide +kernel)
    exact (if_neg (not_or.mpr ⟨hne, hstar⟩)).trans (if_pos hall)

/-- What a compound begins with, up to its parts, is a head. -/
theorem exists_head {k : Compound} {s : List Char} (h : parse? s = some k) :
    ∃ head : Head, s.takeWhile (!opensPart ·) = head.text
      ∧ parseParts (ofHead head) (s.dropWhile (!opensPart ·)) = some k := by
  unfold parse? at h
  dsimp only at h
  split at h
  · next hnone =>
    rcases hnone with hnone | hstar
    · exact ⟨.none, hnone, h⟩
    · exact ⟨.star, hstar, h⟩
  · next hsome =>
    split at h
    · next hall =>
      rw [not_or] at hsome
      have hname : isName (s.takeWhile (!opensPart ·)) = true := by
        rw [isName, hall, Bool.and_true, Bool.not_eq_true', List.isEmpty_eq_false_iff]
        exact hsome.1
      exact ⟨.tag ⟨_, hname⟩, rfl, h⟩
    · cases h

/-- **What is read as a compound is a head and parts.** -/
theorem exists_of_parse? {k : Compound} {s : List Char} (h : parse? s = some k) (hs : Whole s)
    (hne : s ≠ []) : ∃ t : CompoundText, s = t.text ∧ t.reading = k := by
  obtain ⟨head, hhead, hparts⟩ := exists_head h
  have htext : s = head.text ++ s.dropWhile (!opensPart ·) := by
    rw [← hhead, List.takeWhile_append_dropWhile]
  have hwhole : Whole (s.dropWhile (!opensPart ·)) := by
    refine (Passes.head head).whole_of_append ?_
    rwa [← htext]
  obtain ⟨parts, hwritten, hread⟩ := exists_of_parseParts hparts hwhole
  rw [hwritten] at htext
  refine ⟨⟨head, parts, htext ▸ hne⟩, htext, ?_⟩
  rw [← foldl_add_ofHead]
  exact hread

end Compound

end WidgetMarkup
