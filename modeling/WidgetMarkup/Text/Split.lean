/-!
# Cutting a text at a character

A declaration is cut at its first colon, an attribute condition at its
first equals sign, a style sheet at braces: each time the text before the
first occurrence, and the text after it, are wanted, and a text without the
character cannot be cut. `splitOnce_eq_some_iff` is the whole story, and
the readers of the other modules are reasoned about through it.
-/

namespace WidgetMarkup.Text

/-- **The two sides of the first `mark`** in a text, without the mark, or
nothing where the text does not hold it. -/
def splitOnce (mark : Char) (s : List Char) : Option (List Char × List Char) :=
  match s.dropWhile (· != mark) with
  | [] => none
  | _ :: after => some (s.takeWhile (· != mark), after)

/-- A character that is not the mark joins the piece before it. -/
theorem splitOnce_cons_of_ne {mark c : Char} {s : List Char} (hc : c ≠ mark) :
    splitOnce mark (c :: s) = (splitOnce mark s).map (fun p => (c :: p.1, p.2)) := by
  have hne : (c != mark) = true := by simpa using hc
  simp only [splitOnce, List.dropWhile_cons, List.takeWhile_cons, hne, ↓reduceIte]
  split <;> simp_all

/-- A piece without the mark joins the piece before it. -/
theorem splitOnce_append {mark : Char} {front : List Char} (h : mark ∉ front) (s : List Char) :
    splitOnce mark (front ++ s) = (splitOnce mark s).map (fun p => (front ++ p.1, p.2)) := by
  induction front with
  | nil => simp
  | cons c front ih =>
    rw [List.mem_cons, not_or] at h
    rw [List.cons_append, splitOnce_cons_of_ne (Ne.symm h.1), ih h.2, Option.map_map]
    rfl

/-- **A text is cut at the first mark**: the pieces and the mark make up the
text, and the first piece is free of it. -/
theorem splitOnce_eq_some_iff {mark : Char} {s before after : List Char} :
    splitOnce mark s = some (before, after)
      ↔ s = before ++ mark :: after ∧ mark ∉ before := by
  induction s generalizing before with
  | nil => simp [splitOnce]
  | cons c s ih =>
    by_cases hc : c = mark
    · subst hc
      cases before with
      | nil => simp [splitOnce]
      | cons b before => simp +contextual [splitOnce]
    · rw [splitOnce_cons_of_ne hc, Option.map_eq_some_iff]
      cases before with
      | nil => simp [hc]
      | cons b before =>
        constructor
        · rintro ⟨⟨p, q⟩, hp, heq⟩
          obtain ⟨⟨rfl, rfl⟩, rfl⟩ : (c = b ∧ p = before) ∧ q = after := by
            simpa using heq
          obtain ⟨rfl, hmark⟩ := ih.mp hp
          grind
        · rintro ⟨heq, hmark⟩
          obtain ⟨rfl, rfl⟩ : c = b ∧ s = before ++ mark :: after := by simpa using heq
          exact ⟨(before, after), ih.mpr ⟨rfl, fun h => hmark (List.mem_cons_of_mem _ h)⟩, rfl⟩

/-- A piece that is free of the mark is what is cut off before it. -/
theorem splitOnce_append_cons {mark : Char} {before : List Char} (h : mark ∉ before)
    (after : List Char) : splitOnce mark (before ++ mark :: after) = some (before, after) :=
  splitOnce_eq_some_iff.mpr ⟨rfl, h⟩

/-- A text cannot be cut exactly when it does not hold the mark. -/
theorem splitOnce_eq_none_iff {mark : Char} {s : List Char} :
    splitOnce mark s = none ↔ mark ∉ s := by
  induction s with
  | nil => simp [splitOnce]
  | cons c s ih =>
    by_cases hc : c = mark
    · simp [splitOnce, hc]
    · rw [splitOnce_cons_of_ne hc, Option.map_eq_none_iff, ih]
      simp [Ne.symm hc]

/-- What follows the first mark is shorter than the whole. -/
theorem length_after_splitOnce {mark : Char} {s before after : List Char}
    (h : splitOnce mark s = some (before, after)) : after.length < s.length := by
  obtain ⟨rfl, -⟩ := splitOnce_eq_some_iff.mp h
  simp only [List.length_append, List.length_cons]
  omega

end WidgetMarkup.Text
