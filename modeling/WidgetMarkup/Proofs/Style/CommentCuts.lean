import Mathlib.Logic.ExistsUnique
import WidgetMarkup.Proofs.Style.Comments
import WidgetMarkup.Style.Sheet

/-!
# A text is cut at its comments in one way

Taking comments out goes from left to right: the first opening counts, then the
first end after it, and then the search begins anew behind this end.
`LeftmostCut` says of a cut that it is made in this way, by where the first
marks stand, and without a word on how they are found. A text has exactly one
such cut, and without its comments it is the pieces of the cut.

Two marks of two characters each may stand close together. `/*/` is an opening
and no comment yet, `/**/` is a comment, in `//*` the comment opens at the
second character, and in `**/` it ends at the second. No mark overlaps a mark
of its own kind, though, since its two characters differ; so the first one is
where the piece before it ends, and cannot begin within that piece.
-/

namespace WidgetMarkup.Style

/-- **No comment is complete in the text**: it has no opening, or it has no end
after the first one. -/
def Unclosed (s : List Char) : Prop :=
  ¬ ['/', '*'] <:+: s
    ∨ ∃ before after, s = before ++ '/' :: '*' :: after
        ∧ ¬ ['/', '*'] <:+: before ∧ ¬ ['*', '/'] <:+: after

/-- **A cut of a text at its comments, from left to right.** Of each comment, the
piece before it and the text in it are given. -/
structure LeftmostCut (s : List Char) (pieces : List (List Char × List Char))
    (rest : List Char) : Prop where
  /-- Pieces, comments and the rest make up the text. -/
  text : s = (pieces.flatMap fun (before, inner) =>
    before ++ '/' :: '*' :: (inner ++ ['*', '/'])) ++ rest
  /-- The first opening in a piece with the opening behind it is this one. -/
  opening : ∀ piece ∈ pieces, ∀ before after,
    piece.1 ++ ['/', '*'] = before ++ '/' :: '*' :: after → after = []
  /-- A comment holds no end. -/
  inner : ∀ piece ∈ pieces, ¬ ['*', '/'] <:+: piece.2
  /-- In the rest no comment is complete. -/
  rest : Unclosed rest

/-! ## First marks -/

/-- Where a mark stands in a text, there is a first one. -/
theorem exists_first_pair {a b : Char} {s : List Char} (h : [a, b] <:+: s) :
    ∃ before after, s = before ++ a :: b :: after ∧ ¬ [a, b] <:+: before := by
  induction s with
  | nil => simp at h
  | cons c s ih =>
    by_cases hhere : c = a ∧ s.head? = some b
    · obtain ⟨rfl, hhead⟩ := hhere
      obtain ⟨more, rfl⟩ := List.head?_eq_some_iff.mp hhead
      exact ⟨[], more, rfl, by simp⟩
    · obtain ⟨before, after, rfl, hbefore⟩ := ih ((pair_infix_cons_iff.mp h).resolve_left hhere)
      refine ⟨c :: before, after, rfl, ?_⟩
      rw [pair_infix_cons_iff, not_or]
      refine ⟨?_, hbefore⟩
      rintro ⟨rfl, hhead⟩
      obtain ⟨more, rfl⟩ := List.head?_eq_some_iff.mp hhead
      exact hhere ⟨rfl, rfl⟩

/-- **There is one first mark only**: what stands before it and what stands
behind it are given with the text. -/
theorem append_pair_inj {a b : Char} (hab : a ≠ b) {u v x y : List Char}
    (hu : ¬ [a, b] <:+: u) (hv : ¬ [a, b] <:+: v) (h : u ++ a :: b :: x = v ++ a :: b :: y) :
    u = v ∧ x = y := by
  -- a mark that begins where the other text goes on would stand in it
  have later : ∀ {c : Char} {w x y : List Char}, ¬ [a, b] <:+: c :: w →
      a :: b :: x ≠ c :: (w ++ a :: b :: y) := by
    intro c w x y hw heq
    obtain ⟨rfl, htail⟩ := List.cons.inj heq
    cases w with
    | nil => exact hab (List.cons.inj htail).1.symm
    | cons d w =>
      obtain ⟨rfl, -⟩ := List.cons.inj htail
      exact hw (pair_infix_cons_iff.mpr (Or.inl ⟨rfl, rfl⟩))
  induction u generalizing v with
  | nil =>
    cases v with
    | nil => simpa using h
    | cons c v => exact absurd h (later hv)
  | cons c u ih =>
    cases v with
    | nil => exact absurd h.symm (later hu)
    | cons d v =>
      obtain ⟨rfl, htail⟩ := List.cons.inj h
      rw [pair_infix_cons_iff, not_or] at hu hv
      obtain ⟨rfl, rfl⟩ := ih hu.2 hv.2 htail
      exact ⟨rfl, rfl⟩

/-- The first opening is the one behind a piece exactly if the piece has
none. -/
theorem opening_is_last_iff {piece : List Char} :
    (∀ before after, piece ++ ['/', '*'] = before ++ '/' :: '*' :: after → after = [])
      ↔ ¬ ['/', '*'] <:+: piece := by
  constructor
  · rintro h ⟨before, after, rfl⟩
    have hnil := h before (after ++ ['/', '*']) (by simp)
    simp at hnil
  · intro h before after heq
    rcases List.append_eq_append_iff.mp heq with ⟨more, rfl, hmore⟩ | ⟨more, rfl, hmore⟩
    · have hlength := congrArg List.length hmore
      simp only [List.length_append, List.length_cons, List.length_nil] at hlength
      exact List.length_eq_zero_iff.mp (by omega)
    · -- an earlier opening would begin in the piece, and end in it
      match more with
      | [] => simpa using hmore
      | [_] => simp at hmore
      | _ :: _ :: more =>
        obtain ⟨rfl, rfl, -⟩ : '/' = _ ∧ '*' = _ ∧ _ := by simpa using hmore
        exact absurd ⟨before, more, by simp⟩ h

/-- **No comment is complete exactly if none stands in the text.** An end after a
later opening is an end after the first one as well. -/
theorem unclosed_iff {s : List Char} : Unclosed s ↔ ¬ HasComment s := by
  constructor
  · rintro (hnone | ⟨before, after, rfl, hbefore, hend⟩)
    · rintro ⟨before, after, rfl, -⟩
      exact hnone ⟨before, after, by simp⟩
    · rw [hasComment_append_iff hbefore]
      rintro (⟨-, _, heq, -⟩ | hcomment)
      · exact absurd (List.cons.inj heq).1 (by decide)
      · exact not_hasComment_of_none (afterComment_eq_none_iff.mpr hend) hcomment
  · intro h
    by_cases hopen : ['/', '*'] <:+: s
    · obtain ⟨before, after, rfl, hbefore⟩ := exists_first_pair hopen
      exact Or.inr ⟨before, after, rfl, hbefore, fun hend => h ⟨before, after, rfl, hend⟩⟩
    · exact Or.inl hopen

/-! ## Cuts -/

/-- Both ways of saying what a cut is come to the same. -/
theorem leftmostCut_iff {s rest : List Char} {pieces : List (List Char × List Char)} :
    LeftmostCut s pieces rest ↔ CommentCut s pieces rest := by
  constructor
  · exact fun h => ⟨h.text, fun piece hpiece => opening_is_last_iff.mp (h.opening piece hpiece),
      h.inner, unclosed_iff.mp h.rest⟩
  · exact fun h => ⟨h.text, fun piece hpiece => opening_is_last_iff.mpr (h.before piece hpiece),
      h.inner, unclosed_iff.mpr h.rest⟩

namespace CommentCut

/-- Where no comment stands, none is cut out. -/
theorem eq_nil {s rest : List Char} {pieces : List (List Char × List Char)}
    (h : CommentCut s pieces rest) (hs : ¬ HasComment s) : pieces = [] := by
  cases pieces with
  | nil => rfl
  | cons piece pieces =>
    obtain ⟨more, rfl, -⟩ := cons_iff.mp h
    exact absurd ⟨piece.1, _, rfl, ⟨piece.2, more, by simp⟩⟩ hs

/-- **A text can be cut at its comments in one way only**, by induction on the
comments: the first one is the same in both cuts. -/
theorem unique {s rest rest' : List Char} {pieces pieces' : List (List Char × List Char)}
    (h : CommentCut s pieces rest) (h' : CommentCut s pieces' rest') :
    pieces = pieces' ∧ rest = rest' := by
  induction pieces generalizing s pieces' with
  | nil =>
    obtain rfl : s = rest := h.text
    obtain rfl := h'.eq_nil h.rest
    exact ⟨rfl, h'.text⟩
  | cons piece pieces ih =>
    cases pieces' with
    | nil =>
      obtain rfl : s = rest' := h'.text
      cases h.eq_nil h'.rest
    | cons piece' pieces' =>
      obtain ⟨more, rfl, hbefore, hinner, hmore⟩ := cons_iff.mp h
      obtain ⟨more', htext, hbefore', hinner', hmore'⟩ := cons_iff.mp h'
      obtain ⟨hfst, hinside⟩ := append_pair_inj (by decide) hbefore hbefore' htext
      obtain ⟨hsnd, rfl⟩ := append_pair_inj (by decide) hinner hinner' hinside
      obtain ⟨rfl, rfl⟩ := ih hmore hmore'
      exact ⟨congrArg (· :: pieces) (Prod.ext hfst hsnd), rfl⟩

end CommentCut

/-- One comment, with no opening in what stands around it. -/
theorem commentCut_singleton {before inner after : List Char}
    (h : ¬ ['/', '*'] <:+: before ++ after) (hinner : ¬ ['*', '/'] <:+: inner) :
    CommentCut (before ++ '/' :: '*' :: (inner ++ '*' :: '/' :: after)) [(before, inner)] after := by
  have hbefore : ¬ ['/', '*'] <:+: before := fun hin => h (hin.trans (List.infix_append' [] _ _))
  have hafter : ¬ ['/', '*'] <:+: after := fun hin => h (hin.trans (List.suffix_append _ _).isInfix)
  refine CommentCut.cons_iff.mpr ⟨after, rfl, hbefore, hinner, ?_⟩
  exact ⟨rfl, by simp, by simp, unclosed_iff.mp (Or.inl hafter)⟩

/-- **Comments are taken out from left to right, each up to its first end.** Every
text has exactly one cut at its comments, from left to right, and without its
comments the text is the pieces of this cut and the rest, one after another. So
a comment that is put where no opening stands before or behind it is taken out
again, and a style sheet says the same with it and without it. -/
theorem stripComments_eq_of_leftmostCut :
    (∀ s : List Char,
        (∃! cut : List (List Char × List Char) × List Char, LeftmostCut s cut.1 cut.2)
          ∧ ∀ pieces rest, LeftmostCut s pieces rest →
              stripComments s = (pieces.map Prod.fst).flatten ++ rest)
      ∧ ∀ before inner after : List Char,
          ¬ ['/', '*'] <:+: before ++ after → ¬ ['*', '/'] <:+: inner →
            stripComments (before ++ '/' :: '*' :: (inner ++ '*' :: '/' :: after)) = before ++ after
              ∧ Sheet.rules
                    (String.ofList (before ++ '/' :: '*' :: (inner ++ '*' :: '/' :: after)))
                  = Sheet.rules (String.ofList (before ++ after)) := by
  refine ⟨fun s => ⟨?_, fun pieces rest h => ?_⟩, fun before inner after hopen hinner => ?_⟩
  · obtain ⟨pieces, rest, h⟩ := exists_commentCut s
    refine ⟨(pieces, rest), leftmostCut_iff.mpr h, fun cut hcut => ?_⟩
    obtain ⟨hpieces, hrest⟩ := (leftmostCut_iff.mp hcut).unique h
    exact Prod.ext hpieces hrest
  · rw [(leftmostCut_iff.mp h).stripComments_eq]
    simp
  · have hstrip : stripComments (before ++ '/' :: '*' :: (inner ++ '*' :: '/' :: after))
        = before ++ after := by
      rw [(commentCut_singleton hopen hinner).stripComments_eq]
      simp
    have hnone : stripComments (before ++ after) = before ++ after :=
      stripComments_of_not_hasComment (unclosed_iff.mp (Or.inl hopen))
    refine ⟨hstrip, ?_⟩
    unfold Sheet.rules
    rw [String.toList_ofList, String.toList_ofList, hstrip, hnone]

/-- Marks that share no character, however close they stand. -/
example : stripComments "a/*/ **/b/**/c//**//*/".toList = "abc//*/".toList := by
  decide +kernel

end WidgetMarkup.Style
