import WidgetMarkup.Style.Comment

/-!
# What is left when comments are taken out

A text is cut at its comments: what stands before a comment opens none, what
stands in it does not close it, and with the rest no comment is complete
(`CommentCut`). Taking the comments out leaves the pieces between them, put
together (`CommentCut.stripComments_eq`).

Put together, they may hold a comment again, which was not in the text. In
`//**/* */` a comment stands between `/` and `*`, and when it is gone these two
meet, and open another one. It is the only way: none of the pieces holds a
comment, so where one is left it opens where two pieces meet
(`hasComment_flatten_iff`). Taking comments out of a text a second time then
takes this one out, and otherwise nothing.
-/

namespace WidgetMarkup.Style

/-- **A comment stands in the text**: an opening, and an end after it. -/
def HasComment (s : List Char) : Prop :=
  ∃ before after, s = before ++ '/' :: '*' :: after ∧ ['*', '/'] <:+: after

/-- **A cut of a text at its comments.** Of each comment, the piece before it
and the text in it are given. -/
structure CommentCut (s : List Char) (pieces : List (List Char × List Char))
    (rest : List Char) : Prop where
  /-- Pieces, comments and the rest make up the text. -/
  text : s = (pieces.flatMap fun (before, inner) =>
    before ++ '/' :: '*' :: (inner ++ ['*', '/'])) ++ rest
  /-- The opening of a comment is the first one. -/
  before : ∀ piece ∈ pieces, ¬ ['/', '*'] <:+: piece.1
  /-- The end of a comment is the first one after its opening. -/
  inner : ∀ piece ∈ pieces, ¬ ['*', '/'] <:+: piece.2
  /-- In the rest no comment is complete. -/
  rest : ¬ HasComment rest

/-! ## Openings and ends -/

theorem pair_infix_cons_iff {a b c : Char} {s : List Char} :
    [a, b] <:+: c :: s ↔ (c = a ∧ s.head? = some b) ∨ [a, b] <:+: s := by
  rw [List.infix_cons_iff, List.cons_prefix_cons]
  cases s <;> simp [List.cons_prefix_cons, @eq_comm _ a, @eq_comm _ b]

/-- A mark of two characters does not stand around a third one. -/
theorem pair_infix_append_cons_iff {a b c : Char} (ha : c ≠ a) (hb : c ≠ b) {s t : List Char} :
    [a, b] <:+: s ++ c :: t ↔ [a, b] <:+: s ∨ [a, b] <:+: t := by
  induction s with
  | nil => simp [pair_infix_cons_iff, ha]
  | cons d s ih =>
    rw [List.cons_append, pair_infix_cons_iff, ih, pair_infix_cons_iff, or_assoc]
    refine or_congr_left (and_congr_right fun _ => ?_)
    cases s <;> simp [hb]

/-- What is cut off after the first end. -/
theorem afterComment_eq_some_iff {s rest : List Char} :
    afterComment s = some rest
      ↔ ∃ inner, s = inner ++ '*' :: '/' :: rest ∧ ¬ ['*', '/'] <:+: inner := by
  induction s using afterComment.induct with
  | case1 => simp [afterComment]
  | case2 r =>
    rw [afterComment, Option.some.injEq]
    constructor
    · rintro rfl
      exact ⟨[], rfl, by simp⟩
    · rintro ⟨inner, heq, hinner⟩
      cases inner with
      | nil => simpa using heq
      | cons b inner =>
        -- what stands before the first end has no end in it
        cases inner with
        | nil => simp at heq
        | cons b' inner =>
          obtain ⟨rfl, rfl, -⟩ : '*' = b ∧ '/' = b' ∧ _ := by simpa using heq
          exact absurd (pair_infix_cons_iff.mpr (Or.inl ⟨rfl, rfl⟩)) hinner
  | case3 c r hne ih =>
    rw [afterComment.eq_3 c r hne, ih]
    constructor
    · rintro ⟨inner, rfl, hinner⟩
      refine ⟨c :: inner, rfl, ?_⟩
      rw [pair_infix_cons_iff, not_or]
      refine ⟨?_, hinner⟩
      rintro ⟨rfl, hhead⟩
      obtain ⟨more, rfl⟩ := List.head?_eq_some_iff.mp hhead
      exact hne _ rfl rfl
    · rintro ⟨inner, heq, hinner⟩
      cases inner with
      | nil =>
        obtain ⟨rfl, rfl⟩ := List.cons.inj heq
        exact absurd rfl (hne rest rfl)
      | cons b inner =>
        obtain ⟨rfl, rfl⟩ := List.cons.inj heq
        exact ⟨inner, rfl, fun h => hinner (pair_infix_cons_iff.mpr (Or.inr h))⟩

theorem afterComment_eq_none_iff {s : List Char} :
    afterComment s = none ↔ ¬ ['*', '/'] <:+: s := by
  induction s using afterComment.induct with
  | case1 => simp [afterComment]
  | case2 r => simp [afterComment, pair_infix_cons_iff]
  | case3 c r hne ih =>
    rw [afterComment.eq_3 c r hne, ih, pair_infix_cons_iff, not_or]
    refine (and_iff_right ?_).symm
    rintro ⟨rfl, hr⟩
    obtain ⟨r, rfl⟩ := List.head?_eq_some_iff.mp hr
    exact hne r rfl rfl

/-! ## Comments in a text -/

theorem hasComment_cons_iff {c : Char} {s : List Char} :
    HasComment (c :: s)
      ↔ (c = '/' ∧ ∃ after, s = '*' :: after ∧ ['*', '/'] <:+: after) ∨ HasComment s := by
  constructor
  · rintro ⟨before, after, heq, hafter⟩
    cases before with
    | nil =>
      obtain ⟨rfl, rfl⟩ := List.cons.inj heq
      exact Or.inl ⟨rfl, after, rfl, hafter⟩
    | cons b before =>
      obtain ⟨rfl, rfl⟩ := List.cons.inj heq
      exact Or.inr ⟨before, after, rfl, hafter⟩
  · rintro (⟨rfl, after, rfl, hafter⟩ | ⟨before, after, rfl, hafter⟩)
    · exact ⟨[], after, rfl, hafter⟩
    · exact ⟨c :: before, after, rfl, hafter⟩

/-- **Where two pieces meet** a comment may open, and otherwise one in the
second piece is all there is. -/
theorem hasComment_append_iff {piece s : List Char} (h : ¬ ['/', '*'] <:+: piece) :
    HasComment (piece ++ s)
      ↔ (piece.getLast? = some '/' ∧ ∃ after, s = '*' :: after ∧ ['*', '/'] <:+: after)
        ∨ HasComment s := by
  induction piece with
  | nil => simp
  | cons c piece ih =>
    rw [pair_infix_cons_iff, not_or] at h
    rw [List.cons_append, hasComment_cons_iff, ih h.2, ← or_assoc]
    refine or_congr_left ?_
    cases piece with
    | nil => simp
    | cons d piece =>
      rw [List.getLast?_cons_cons]
      refine or_iff_right ?_
      rintro ⟨rfl, after, heq, -⟩
      obtain ⟨rfl, -⟩ := List.cons.inj heq
      exact h.1 ⟨rfl, rfl⟩

/-! ## Taking comments out -/

theorem stripComments_of_some {inside rest : List Char} (h : afterComment inside = some rest) :
    stripComments ('/' :: '*' :: inside) = stripComments rest := by
  rw [stripComments]
  split <;> simp_all

theorem stripComments_of_none {inside : List Char} (h : afterComment inside = none) :
    stripComments ('/' :: '*' :: inside) = '/' :: '*' :: inside := by
  rw [stripComments]
  split <;> simp_all

/-- A character that begins no comment stays. -/
theorem stripComments_cons {c : Char} {s : List Char} (h : ¬ (c = '/' ∧ s.head? = some '*')) :
    stripComments (c :: s) = c :: stripComments s := by
  refine stripComments.eq_3 c s (fun inside hc hs => h ⟨hc, ?_⟩)
  rw [hs]
  rfl

/-- A piece that opens no comment, neither in it nor where it ends, stays. -/
theorem stripComments_append {piece s : List Char} (h : ¬ ['/', '*'] <:+: piece)
    (hs : ¬ (piece.getLast? = some '/' ∧ s.head? = some '*')) :
    stripComments (piece ++ s) = piece ++ stripComments s := by
  induction piece with
  | nil => rfl
  | cons c piece ih =>
    rw [pair_infix_cons_iff, not_or] at h
    rw [List.cons_append]
    cases piece with
    | nil =>
      rw [stripComments_cons (by simpa using hs)]
      rfl
    | cons d piece =>
      have hmore := ih h.2 (by rwa [List.getLast?_cons_cons] at hs)
      rw [stripComments_cons (by simpa using h.1), hmore]
      rfl

/-- A comment in a text ends in it. -/
theorem HasComment.infix {s : List Char} (h : HasComment s) : ['*', '/'] <:+: s := by
  obtain ⟨before, after, rfl, hafter⟩ := h
  exact hafter.trans ⟨before ++ ['/', '*'], [], by simp⟩

/-- An opening without an end after it opens no comment. -/
theorem not_hasComment_of_none {inside : List Char} (h : afterComment inside = none) :
    ¬ HasComment ('/' :: '*' :: inside) := by
  have hend := afterComment_eq_none_iff.mp h
  rw [hasComment_cons_iff, hasComment_cons_iff]
  rintro (⟨-, after, heq, hafter⟩ | ⟨hslash, -⟩ | hinside)
  · obtain ⟨-, rfl⟩ := List.cons.inj heq
    exact hend hafter
  · exact absurd hslash (by decide)
  · exact hend hinside.infix

/-- **Where no comment stands, nothing is taken out.** -/
theorem stripComments_of_not_hasComment {s : List Char} (h : ¬ HasComment s) :
    stripComments s = s := by
  induction s using stripComments.induct with
  | case1 => rw [stripComments]
  | case2 inside rest hrest ih =>
    obtain ⟨inner, rfl, -⟩ := afterComment_eq_some_iff.mp hrest
    exact absurd ⟨[], _, rfl, ⟨inner, rest, by simp⟩⟩ h
  | case3 inside hnone => exact stripComments_of_none hnone
  | case4 c s hne ih =>
    rw [hasComment_cons_iff, not_or] at h
    rw [stripComments.eq_3 c s hne, ih h.2]

/-- A comment goes, and what stands before it stays. -/
theorem stripComments_append_comment {before inner : List Char}
    (hbefore : ¬ ['/', '*'] <:+: before) (hinner : ¬ ['*', '/'] <:+: inner) (more : List Char) :
    stripComments (before ++ '/' :: '*' :: (inner ++ '*' :: '/' :: more))
      = before ++ stripComments more := by
  rw [stripComments_append hbefore (by simp),
    stripComments_of_some (afterComment_eq_some_iff.mpr ⟨inner, rfl, hinner⟩)]

namespace CommentCut

/-- A cut with a comment is the comment and a cut of what follows. -/
theorem cons_iff {s before inner rest : List Char} {pieces : List (List Char × List Char)} :
    CommentCut s ((before, inner) :: pieces) rest
      ↔ ∃ more, s = before ++ '/' :: '*' :: (inner ++ '*' :: '/' :: more)
          ∧ ¬ ['/', '*'] <:+: before ∧ ¬ ['*', '/'] <:+: inner ∧ CommentCut more pieces rest := by
  constructor
  · intro h
    have hbefore := List.forall_mem_cons.mp h.before
    have hinner := List.forall_mem_cons.mp h.inner
    refine ⟨_, ?_, hbefore.1, hinner.1, ⟨rfl, hbefore.2, hinner.2, h.rest⟩⟩
    rw [h.text]
    simp
  · rintro ⟨more, rfl, hbefore, hinner, h⟩
    refine ⟨?_, List.forall_mem_cons.mpr ⟨hbefore, h.before⟩,
      List.forall_mem_cons.mpr ⟨hinner, h.inner⟩, h.rest⟩
    rw [h.text]
    simp

/-- **Without its comments a text is its pieces**, one after another. -/
theorem stripComments_eq {s rest : List Char} {pieces : List (List Char × List Char)}
    (h : CommentCut s pieces rest) :
    stripComments s = (pieces.map Prod.fst ++ [rest]).flatten := by
  induction pieces generalizing s with
  | nil =>
    obtain rfl : s = rest := h.text
    simpa using stripComments_of_not_hasComment h.rest
  | cons piece pieces ih =>
    obtain ⟨more, rfl, hbefore, hinner, hmore⟩ := cons_iff.mp h
    rw [stripComments_append_comment hbefore hinner, ih hmore]
    rfl

/-- Every comment takes its four marks with it. -/
theorem length_stripComments_le {s rest : List Char} {pieces : List (List Char × List Char)}
    (h : CommentCut s pieces rest) :
    (stripComments s).length + 4 * pieces.length ≤ s.length := by
  induction pieces generalizing s with
  | nil =>
    obtain rfl : s = rest := h.text
    rw [stripComments_of_not_hasComment h.rest]
    exact Nat.le_refl _
  | cons piece pieces ih =>
    obtain ⟨more, rfl, hbefore, hinner, hmore⟩ := cons_iff.mp h
    have hlength := ih hmore
    rw [stripComments_append_comment hbefore hinner]
    simp only [List.length_append, List.length_cons] at hlength ⊢
    omega

end CommentCut

/-- **Every text can be cut at its comments.** -/
theorem exists_commentCut (s : List Char) : ∃ pieces rest, CommentCut s pieces rest := by
  induction s using stripComments.induct with
  | case1 => exact ⟨[], [], rfl, by simp, by simp, by simp [HasComment]⟩
  | case2 inside more hmore ih =>
    obtain ⟨inner, rfl, hinner⟩ := afterComment_eq_some_iff.mp hmore
    obtain ⟨pieces, rest, hcut⟩ := ih
    exact ⟨([], inner) :: pieces, rest, CommentCut.cons_iff.mpr ⟨more, rfl, by simp, hinner, hcut⟩⟩
  | case3 inside hnone =>
    exact ⟨[], _, rfl, by simp, by simp, not_hasComment_of_none hnone⟩
  | case4 c s hne ih =>
    have hopens : ¬ (c = '/' ∧ s.head? = some '*') := by
      rintro ⟨rfl, hhead⟩
      obtain ⟨inside, rfl⟩ := List.head?_eq_some_iff.mp hhead
      exact hne inside rfl rfl
    obtain ⟨pieces, rest, hcut⟩ := ih
    cases pieces with
    | nil =>
      obtain rfl : s = rest := hcut.text
      refine ⟨[], c :: s, rfl, by simp, by simp, ?_⟩
      rw [hasComment_cons_iff]
      rintro (⟨rfl, after, rfl, -⟩ | h)
      · exact hopens ⟨rfl, rfl⟩
      · exact hcut.rest h
    | cons piece pieces =>
      obtain ⟨before, inner⟩ := piece
      obtain ⟨more, rfl, hbefore, hinner, hmore⟩ := CommentCut.cons_iff.mp hcut
      refine ⟨(c :: before, inner) :: pieces, rest,
        CommentCut.cons_iff.mpr ⟨more, rfl, ?_, hinner, hmore⟩⟩
      rw [pair_infix_cons_iff, not_or]
      refine ⟨?_, hbefore⟩
      rintro ⟨rfl, hhead⟩
      obtain ⟨b, rfl⟩ := List.head?_eq_some_iff.mp hhead
      exact hopens ⟨rfl, rfl⟩

/-- **A text stays as it is exactly if no comment stands in it.** -/
theorem stripComments_eq_self_iff {s : List Char} : stripComments s = s ↔ ¬ HasComment s := by
  refine ⟨fun h hcomment => ?_, stripComments_of_not_hasComment⟩
  obtain ⟨pieces, rest, hcut⟩ := exists_commentCut s
  have hlength := hcut.length_stripComments_le
  rw [h] at hlength
  obtain rfl : pieces = [] := List.length_eq_zero_iff.mp (by omega)
  obtain rfl : s = rest := hcut.text
  exact hcut.rest hcomment

/-- **A comment opens where two pieces meet**, or there is none. -/
theorem CommentCut.hasComment_flatten_iff {s rest : List Char}
    {pieces : List (List Char × List Char)} (h : CommentCut s pieces rest) :
    HasComment (pieces.map Prod.fst ++ [rest]).flatten
      ↔ ∃ left piece right after, pieces.map Prod.fst ++ [rest] = left ++ piece :: right
          ∧ piece.getLast? = some '/' ∧ right.flatten = '*' :: after ∧ ['*', '/'] <:+: after := by
  induction pieces generalizing s with
  | nil =>
    refine iff_of_false (by simpa using h.rest) ?_
    rintro ⟨left, piece, right, after, hcut, -, hright, -⟩
    -- the rest is the only piece, and has none to meet
    obtain ⟨-, hone⟩ := List.append_eq_singleton_iff.mp hcut.symm |>.resolve_right (by simp)
    obtain rfl : right = [] := (List.cons.inj hone).2
    cases hright
  | cons piece pieces ih =>
    obtain ⟨more, rfl, hbefore, -, hmore⟩ := cons_iff.mp h
    rw [List.map_cons, List.cons_append, List.flatten_cons, hasComment_append_iff hbefore,
      ih hmore]
    constructor
    · rintro (⟨hlast, after, hright, hafter⟩ | ⟨left, p, right, after, hcut, hmeet⟩)
      · exact ⟨[], piece.1, _, after, rfl, hlast, hright, hafter⟩
      · exact ⟨piece.1 :: left, p, right, after, by rw [hcut]; rfl, hmeet⟩
    · rintro ⟨left, p, right, after, hcut, hlast, hright, hafter⟩
      cases left with
      | nil =>
        obtain ⟨rfl, rfl⟩ := List.cons.inj hcut
        exact Or.inl ⟨hlast, after, hright, hafter⟩
      | cons l left =>
        exact Or.inr ⟨left, p, right, after, (List.cons.inj hcut).2, hlast, hright, hafter⟩

/-- **When taking comments out leaves none.** A text stays as it is exactly if no
comment stands in it, so a second time takes nothing out exactly if the first
time leaves no comment. Cut a text at its comments, as every text can be; then
a comment is left exactly if one of the pieces ends with `/`, and those behind
it, put together, begin with `*` and have an end after this. -/
theorem hasComment_stripComments_iff (s : List Char) :
    (stripComments (stripComments s) = stripComments s ↔ ¬ HasComment (stripComments s))
      ∧ (∃ pieces rest, CommentCut s pieces rest)
      ∧ ∀ pieces rest, CommentCut s pieces rest →
          (HasComment (stripComments s)
            ↔ ∃ left piece right after, pieces.map Prod.fst ++ [rest] = left ++ piece :: right
              ∧ piece.getLast? = some '/' ∧ right.flatten = '*' :: after
              ∧ ['*', '/'] <:+: after) := by
  refine ⟨stripComments_eq_self_iff, exists_commentCut s, fun pieces rest h => ?_⟩
  rw [h.stripComments_eq]
  exact h.hasComment_flatten_iff

/-- Between `/` and `*` a comment is taken out, and the two open another. -/
theorem stripComments_leaves_comment :
    stripComments "a//* x */* b */c".toList = "a/* b */c".toList
      ∧ HasComment (stripComments "a//* x */* b */c".toList)
      ∧ stripComments (stripComments "a//* x */* b */c".toList)
        ≠ stripComments "a//* x */* b */c".toList := by
  have hstrip : stripComments "a//* x */* b */c".toList = "a/* b */c".toList := by decide +kernel
  rw [hstrip]
  refine ⟨rfl, ⟨['a'], " b */c".toList, rfl, ⟨" b ".toList, ['c'], rfl⟩⟩, by decide +kernel⟩

end WidgetMarkup.Style
