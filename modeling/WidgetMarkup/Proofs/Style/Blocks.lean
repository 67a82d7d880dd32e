import Mathlib.Logic.ExistsUnique
import WidgetMarkup.Proofs.Text.Trim
import WidgetMarkup.Style.Sheet

/-!
# The blocks of a style sheet

`blocks` reads one block after another and stops at the first that is not
complete. What it reads is said here of the text as a whole: a text is cut
into complete blocks and a rest with which no complete block begins. `Cut` is
such a cut, and it keeps what lies before and between the braces as it was
written, white space included.

There is exactly one cut of a text, since each brace that matters is the first
of its kind: the opening one in what is left, and the closing one after it. So
it makes no difference where reading starts over, and a brace of the other
kind may stand anywhere.
-/

namespace WidgetMarkup.Style.Sheet

/-- **No complete block begins the text**: it has no `{`, or nothing but white
space before the first one, or no `}` after it. -/
def Unfinished (s : List Char) : Prop :=
  '{' ∉ s
    ∨ ∃ before after, s = before ++ '{' :: after ∧ '{' ∉ before
        ∧ (Text.allBlank before = true ∨ '}' ∉ after)

/-- The text of blocks that stand one after another. -/
def written (pieces : List (List Char × List Char)) : List Char :=
  pieces.flatMap fun (before, body) => before ++ '{' :: (body ++ ['}'])

/-- **A cut of a text into complete blocks and a rest.** Of a block, the piece
before `{` and the piece between `{` and `}` are given. -/
structure Cut (s : List Char) (pieces : List (List Char × List Char)) (rest : List Char) :
    Prop where
  /-- The blocks and the rest make up the text. -/
  text : s = written pieces ++ rest
  /-- The `{` of a block is the first one. -/
  before : ∀ piece ∈ pieces, '{' ∉ piece.1
  /-- There is something before it. -/
  selector : ∀ piece ∈ pieces, Text.allBlank piece.1 = false
  /-- The `}` of a block is the first one after its `{`. -/
  body : ∀ piece ∈ pieces, '}' ∉ piece.2
  /-- The rest begins with no complete block. -/
  rest : Unfinished rest

/-! ## The first block -/

/-- **What the first block is.** -/
theorem firstBlock_eq_some_iff {s selector body rest : List Char} :
    firstBlock s = some (selector, body, rest)
      ↔ ∃ before, s = before ++ '{' :: (body ++ '}' :: rest) ∧ '{' ∉ before
          ∧ Text.allBlank before = false ∧ '}' ∉ body ∧ selector = Text.trim before := by
  constructor
  · intro h
    unfold firstBlock at h
    split at h
    · cases h
    · next before inside hopen =>
      split at h
      · cases h
      · next body' rest' hclose =>
        obtain ⟨hblank, rfl, rfl, rfl⟩ : Text.allBlank before = false
            ∧ Text.trim before = selector ∧ body' = body ∧ rest' = rest := by
          simpa using h
        obtain ⟨rfl, hbefore⟩ := Text.splitOnce_eq_some_iff.mp hopen
        obtain ⟨rfl, hbody⟩ := Text.splitOnce_eq_some_iff.mp hclose
        exact ⟨before, rfl, hbefore, hblank, hbody, rfl⟩
  · rintro ⟨before, rfl, hbefore, hblank, hbody, rfl⟩
    simp [firstBlock, Text.splitOnce_append_cons hbefore, Text.splitOnce_append_cons hbody, hblank]

/-- Whether a block begins the text is decided around its first `{`. -/
theorem unfinished_append_cons_iff {before after : List Char} (hbefore : '{' ∉ before) :
    Unfinished (before ++ '{' :: after)
      ↔ Text.allBlank before = true ∨ '}' ∉ after := by
  constructor
  · rintro (hnone | ⟨before', after', heq, hbefore', h⟩)
    · exact absurd (List.mem_append_right before List.mem_cons_self) hnone
    · have hcut := Text.splitOnce_append_cons hbefore after
      rw [heq, Text.splitOnce_append_cons hbefore'] at hcut
      obtain ⟨rfl, rfl⟩ : before' = before ∧ after' = after := by simpa using hcut
      exact h
  · exact fun h => Or.inr ⟨before, after, rfl, hbefore, h⟩

/-- **There is no first block exactly where none is complete.** -/
theorem firstBlock_eq_none_iff {s : List Char} : firstBlock s = none ↔ Unfinished s := by
  cases hopen : Text.splitOnce '{' s with
  | none =>
    have hnone := Text.splitOnce_eq_none_iff.mp hopen
    exact iff_of_true (by simp [firstBlock, hopen]) (Or.inl hnone)
  | some cut =>
    obtain ⟨before, after⟩ := cut
    obtain ⟨rfl, hbefore⟩ := Text.splitOnce_eq_some_iff.mp hopen
    rw [unfinished_append_cons_iff hbefore, ← Text.splitOnce_eq_none_iff, firstBlock, hopen]
    dsimp only
    cases Text.splitOnce '}' after <;> simp

/-! ## Cuts, block by block -/

/-- A cut without blocks is all rest. -/
theorem cut_nil_iff {s rest : List Char} : Cut s [] rest ↔ s = rest ∧ Unfinished rest := by
  constructor
  · exact fun h => ⟨h.text, h.rest⟩
  · rintro ⟨rfl, hrest⟩
    exact ⟨rfl, by simp, by simp, by simp, hrest⟩

/-- A cut with a block is the block and a cut of what follows. -/
theorem cut_cons_iff {s before body rest : List Char} {pieces : List (List Char × List Char)} :
    Cut s ((before, body) :: pieces) rest
      ↔ ∃ more, s = before ++ '{' :: (body ++ '}' :: more) ∧ '{' ∉ before
          ∧ Text.allBlank before = false ∧ '}' ∉ body ∧ Cut more pieces rest := by
  constructor
  · intro h
    have hbefore := List.forall_mem_cons.mp h.before
    have hselector := List.forall_mem_cons.mp h.selector
    have hbody := List.forall_mem_cons.mp h.body
    refine ⟨written pieces ++ rest, ?_, hbefore.1, hselector.1, hbody.1,
      ⟨rfl, hbefore.2, hselector.2, hbody.2, h.rest⟩⟩
    rw [h.text]
    simp [written]
  · rintro ⟨more, rfl, hbefore, hselector, hbody, h⟩
    refine ⟨?_, List.forall_mem_cons.mpr ⟨hbefore, h.before⟩,
      List.forall_mem_cons.mpr ⟨hselector, h.selector⟩,
      List.forall_mem_cons.mpr ⟨hbody, h.body⟩, h.rest⟩
    rw [h.text]
    simp [written]

/-- **What is read is cut off.** Where a text is cut, its blocks are those of
the cut, with the selectors trimmed. -/
theorem Cut.blocks_eq {s rest : List Char} {pieces : List (List Char × List Char)}
    (h : Cut s pieces rest) :
    blocks s = pieces.map fun (before, body) => (Text.trim before, body) := by
  induction pieces generalizing s with
  | nil =>
    obtain ⟨rfl, hrest⟩ := cut_nil_iff.mp h
    rw [blocks, firstBlock_eq_none_iff.mpr hrest]
    rfl
  | cons piece pieces ih =>
    obtain ⟨before, body⟩ := piece
    obtain ⟨more, hs, hbefore, hselector, hbody, hmore⟩ := cut_cons_iff.mp h
    rw [blocks, firstBlock_eq_some_iff.mpr ⟨before, hs, hbefore, hselector, hbody, rfl⟩]
    exact congrArg (_ :: ·) (ih hmore)

/-- **Every text can be cut.** -/
theorem exists_cut (s : List Char) : ∃ pieces rest, Cut s pieces rest := by
  induction s using blocks.induct with
  | case1 s hnone => exact ⟨[], s, cut_nil_iff.mpr ⟨rfl, firstBlock_eq_none_iff.mp hnone⟩⟩
  | case2 s selector body more hblock ih =>
    obtain ⟨before, hs, hbefore, hselector, hbody, -⟩ := firstBlock_eq_some_iff.mp hblock
    obtain ⟨pieces, rest, hmore⟩ := ih
    exact ⟨(before, body) :: pieces, rest,
      cut_cons_iff.mpr ⟨more, hs, hbefore, hselector, hbody, hmore⟩⟩

/-- Where no complete block begins the text, none is cut off. -/
theorem Cut.eq_nil {s rest : List Char} {pieces : List (List Char × List Char)}
    (h : Cut s pieces rest) (hs : Unfinished s) : pieces = [] := by
  cases pieces with
  | nil => rfl
  | cons piece pieces =>
    obtain ⟨more, htext, hbefore, hselector, hbody, -⟩ := cut_cons_iff.mp h
    have hblock := firstBlock_eq_some_iff.mpr ⟨_, htext, hbefore, hselector, hbody, rfl⟩
    rw [firstBlock_eq_none_iff.mpr hs] at hblock
    cases hblock

/-- **A text can be cut in one way only.** -/
theorem Cut.unique {s rest rest' : List Char} {pieces pieces' : List (List Char × List Char)}
    (h : Cut s pieces rest) (h' : Cut s pieces' rest') : pieces = pieces' ∧ rest = rest' := by
  induction pieces generalizing s pieces' with
  | nil =>
    obtain ⟨rfl, hrest⟩ := cut_nil_iff.mp h
    obtain rfl := h'.eq_nil hrest
    exact ⟨rfl, (cut_nil_iff.mp h').1⟩
  | cons piece pieces ih =>
    obtain ⟨more, htext, hbefore, -, hbody, hmore⟩ := cut_cons_iff.mp h
    cases pieces' with
    | nil =>
      obtain ⟨rfl, hrest⟩ := cut_nil_iff.mp h'
      cases h.eq_nil hrest
    | cons piece' pieces' =>
      obtain ⟨more', htext', hbefore', -, hbody', hmore'⟩ := cut_cons_iff.mp h'
      -- both cut at the first opening brace, and then at the first closing one
      have hopen := Text.splitOnce_append_cons hbefore (piece.2 ++ '}' :: more)
      rw [← htext, htext', Text.splitOnce_append_cons hbefore'] at hopen
      obtain ⟨hfst, hinside⟩ : piece'.1 = piece.1
          ∧ piece'.2 ++ '}' :: more' = piece.2 ++ '}' :: more := by
        simpa only [Option.some.injEq, Prod.mk.injEq] using hopen
      have hclose := Text.splitOnce_append_cons hbody more
      rw [← hinside, Text.splitOnce_append_cons hbody'] at hclose
      obtain ⟨hsnd, rfl⟩ : piece'.2 = piece.2 ∧ more' = more := by
        simpa only [Option.some.injEq, Prod.mk.injEq] using hclose
      obtain ⟨rfl, rfl⟩ := ih hmore hmore'
      exact ⟨congrArg (· :: pieces) (Prod.ext hfst.symm hsnd.symm), rfl⟩

/-! ## Texts one after another -/

/-- **Reading goes on with the rest.** Where more text follows, the blocks that
were cut off stay cut off, and the rest is cut together with the text that
follows. -/
theorem Cut.append {s t rest last : List Char} {pieces more : List (List Char × List Char)}
    (h : Cut s pieces rest) (hmore : Cut (rest ++ t) more last) :
    Cut (s ++ t) (pieces ++ more) last := by
  refine ⟨?_, List.forall_mem_append.mpr ⟨h.before, hmore.before⟩,
    List.forall_mem_append.mpr ⟨h.selector, hmore.selector⟩,
    List.forall_mem_append.mpr ⟨h.body, hmore.body⟩, hmore.rest⟩
  rw [h.text, List.append_assoc, hmore.text]
  simp [written]

/-- White space in front of a text is no part of its first block. -/
theorem firstBlock_append_of_allBlank {blank : List Char} (h : Text.allBlank blank = true)
    (s : List Char) : firstBlock (blank ++ s) = firstBlock s := by
  have hopen : '{' ∉ blank := by
    intro hmem
    exact absurd (List.all_eq_true.mp h _ hmem) (by decide)
  have hblank : ∀ t, Text.allBlank (blank ++ t) = Text.allBlank t := by
    intro t
    rw [Text.allBlank, List.all_append, ← Text.allBlank, h, Bool.true_and, Text.allBlank]
  rw [firstBlock, firstBlock, Text.splitOnce_append hopen]
  cases Text.splitOnce '{' s with
  | none => rfl
  | some cut =>
    obtain ⟨before, inside⟩ := cut
    simp only [Option.map_some, hblank, trim_append_of_allBlank h]

theorem blocks_append_of_allBlank {blank : List Char} (h : Text.allBlank blank = true)
    (s : List Char) : blocks (blank ++ s) = blocks s := by
  rw [blocks, blocks, firstBlock_append_of_allBlank h]

/-- **A style sheet is read as its complete blocks.** There is exactly one cut
of the text, after its comments are taken out, into complete blocks and a rest
with which none begins; and the rules of the sheet are its blocks in order,
each with what stands before its braces, trimmed, for a selector, and with the
declarations that stand between them. -/
theorem rules_eq_of_cut (text : String) :
    (∃! cut : List (List Char × List Char) × List Char,
        Cut (stripComments text.toList) cut.1 cut.2)
      ∧ ∀ pieces rest, Cut (stripComments text.toList) pieces rest →
          rules text = pieces.map fun (before, body) =>
            ⟨String.ofList (Text.trim before), parseDeclarations body⟩ := by
  constructor
  · obtain ⟨pieces, rest, h⟩ := exists_cut (stripComments text.toList)
    refine ⟨(pieces, rest), h, fun cut hcut => ?_⟩
    obtain ⟨hpieces, hrest⟩ := hcut.unique h
    exact Prod.ext hpieces hrest
  · intro pieces rest h
    rw [rules, h.blocks_eq, List.map_map]
    rfl

end WidgetMarkup.Style.Sheet
