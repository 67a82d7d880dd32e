import WidgetMarkup.Proofs.Style.Blocks
import WidgetMarkup.Proofs.Style.CommentCuts
import WidgetMarkup.Proofs.Text.Place
import WidgetMarkup.Style.Scanner

/-!
# The scanner stays in its text

Scanning by places could break down at a number that is no place, and it could go
round without end. Neither happens (`scan_in_place`). A piece is taken out exactly
between places (`exists_slice_iff`), and a byte is read at a place only; so where no
access breaks down, every number that is made on the way is one.

What carries this is a picture of the cursor that has no numbers in it: it stands
before a piece of its text, which reaches to the end (`Cursor.StandsBefore`). From
there it can only move behind the next piece of what is ahead (`Cursor.past`), and
then stands before the rest. A mark that is found is such a piece with the text
before it, since the two braces take one byte each. A byte of white space is one as
well: no character of several bytes begins with a byte that small, whatever bytes it
holds behind the first (`toNat_of_lead_lt`).

What is read on the way is what is read character by character, so the scanner gives
the same texts without comments and the same rules (`scanComments_eq`,
`scanRules_eq`).
-/

namespace WidgetMarkup.Style

open Text

/-! ## Comments -/

/-- **The first comment**, if there is one, is found between the first marks. -/
theorem nextComment_spec (rest : String) :
    (nextComment rest = .ok none ∧ ¬ HasComment rest.toList)
      ∨ ∃ before inner after, rest = before ++ "/*" ++ inner ++ "*/" ++ after
          ∧ nextComment rest = .ok (some (before, after))
          ∧ ¬ ['/', '*'] <:+: before.toList ∧ ¬ ['*', '/'] <:+: inner.toList := by
  unfold nextComment
  cases hopen : placeOf? "/*" rest with
  | none => exact Or.inl ⟨rfl, unclosed_iff.mp (Or.inl (not_infix_of_placeOf? (by decide) hopen))⟩
  | some start =>
    obtain ⟨before, inside, rfl, rfl, hbefore⟩ := exists_of_placeOf? (by decide) hopen
    have hinside : sliceFrom (before ++ "/*" ++ inside) (before.utf8ByteSize + 2) = .ok inside := by
      have h := sliceFrom_append (before ++ "/*") inside
      rwa [String.utf8ByteSize_append] at h
    cases hend : placeOf? "*/" inside with
    | none =>
      refine Or.inl ⟨bind_eq_ok_iff.mpr ⟨inside, hinside, by rw [hend]; rfl⟩, ?_⟩
      refine unclosed_iff.mp (Or.inr ⟨before.toList, inside.toList, ?_, hbefore, ?_⟩)
      · simp
      · exact not_infix_of_placeOf? (by decide) hend
    | some length =>
      obtain ⟨inner, after, rfl, rfl, hinner⟩ := exists_of_placeOf? (by decide) hend
      refine Or.inr ⟨before, inner, after, by simp only [String.append_assoc], ?_, hbefore, hinner⟩
      refine bind_eq_ok_iff.mpr ⟨_, hinside, ?_⟩
      rw [hend]
      refine bind_eq_ok_iff.mpr ⟨before, ?_, bind_eq_ok_iff.mpr ⟨after, ?_, rfl⟩⟩
      · rw [String.append_assoc]
        exact slice_zero_append before _
      · have h := sliceFrom_append (before ++ "/*" ++ inner ++ "*/") after
        simp only [String.utf8ByteSize_append] at h
        simp only [String.append_assoc] at h ⊢
        exact h

theorem scanComments_of_none {rest : String} (h : nextComment rest = .ok none) :
    scanComments rest = .ok rest := by
  rw [scanComments]
  split <;> simp_all

theorem scanComments_of_some {rest kept more : String}
    (h : nextComment rest = .ok (some (kept, more))) :
    scanComments rest = (scanComments more).map (kept ++ ·) := by
  rw [scanComments]
  split <;> simp_all

/-- **Scanning takes out the comments**, and no access breaks down. The induction
is on what remains behind a comment. -/
theorem scanComments_eq (rest : String) :
    scanComments rest = .ok (String.ofList (stripComments rest.toList)) := by
  rcases nextComment_spec rest with
    ⟨hnone, hrest⟩ | ⟨before, inner, after, htext, hsome, hbefore, hinner⟩
  · rw [scanComments_of_none hnone, stripComments_of_not_hasComment hrest, String.ofList_toList]
  · have hless := utf8ByteSize_nextComment hsome
    have hlist : rest.toList
        = before.toList ++ '/' :: '*' :: (inner.toList ++ '*' :: '/' :: after.toList) := by
      rw [htext]
      simp
    rw [scanComments_of_some hsome, scanComments_eq after, hlist,
      stripComments_append_comment hbefore hinner, String.ofList_append, String.ofList_toList]
    rfl
termination_by rest.utf8ByteSize

/-! ## Where a cursor stands -/

namespace Cursor

/-- **A cursor stands before a piece of its text**, which reaches to the end. -/
structure StandsBefore (c : Cursor) (ahead : List Char) : Prop where
  /-- There is a piece behind the cursor, and its size is the place. -/
  split : ∃ behind, c.code = behind ++ String.ofList ahead ∧ c.index = behind.utf8ByteSize
  /-- The size of the text is known. -/
  count : c.count = c.code.utf8ByteSize

/-- The cursor behind the next piece of its text. -/
def past (c : Cursor) (piece : List Char) : Cursor :=
  { c with index := c.index + String.utf8Len piece }

theorem past_append (c : Cursor) (piece more : List Char) :
    c.past (piece ++ more) = (c.past piece).past more := by
  simp only [past, String.utf8Len_append, Nat.add_assoc]

theorem standsBefore_start (text : String) : (start text).StandsBefore text.toList :=
  ⟨⟨"", by simp [start], rfl⟩, rfl⟩

namespace StandsBefore

variable {c : Cursor} {piece ahead : List Char}

theorem past (h : c.StandsBefore (piece ++ ahead)) : (c.past piece).StandsBefore ahead := by
  obtain ⟨behind, hcode, hindex⟩ := h.split
  refine ⟨⟨behind ++ String.ofList piece, ?_, ?_⟩, h.count⟩
  · rw [String.append_assoc, ← String.ofList_append]
    exact hcode
  · rw [String.utf8ByteSize_append, String.utf8ByteSize_ofList, ← hindex]
    rfl

theorem past_cons {d : Char} (h : c.StandsBefore (d :: ahead)) : (c.past [d]).StandsBefore ahead :=
  past (show c.StandsBefore ([d] ++ ahead) from h)

theorem isPlace (h : c.StandsBefore ahead) : IsPlace c.code c.index := by
  obtain ⟨behind, hcode, hindex⟩ := h.split
  exact isPlace_iff.mpr ⟨behind, _, hcode, hindex⟩

/-- What is ahead is as long as the text that is left. -/
theorem index_add (h : c.StandsBefore ahead) : c.index + String.utf8Len ahead = c.count := by
  obtain ⟨behind, hcode, hindex⟩ := h.split
  rw [h.count, hcode, hindex, String.utf8ByteSize_append, String.utf8ByteSize_ofList]

theorem sliceFrom_eq (h : c.StandsBefore ahead) :
    sliceFrom c.code c.index = .ok (String.ofList ahead) := by
  obtain ⟨behind, hcode, hindex⟩ := h.split
  rw [hcode, hindex]
  exact sliceFrom_append _ _

theorem slice_eq (h : c.StandsBefore (piece ++ ahead)) :
    slice c.code c.index (c.past piece).index = .ok (String.ofList piece) := by
  obtain ⟨behind, hcode, hindex⟩ := h.split
  have hcut := slice_append behind (String.ofList piece) (String.ofList ahead)
  rw [String.append_assoc, ← String.ofList_append, ← hcode, ← hindex,
    String.utf8ByteSize_ofList] at hcut
  exact hcut

end StandsBefore

/-! ## White space between blocks -/

/-- A byte of white space is a character of white space where it begins one. -/
theorem isBlank_of_isBlankByte {d : Char} {x : UInt8} {more : List UInt8}
    (h : String.utf8EncodeChar d = x :: more) (hx : isBlankByte x = true) :
    d.utf8Size = 1 ∧ isBlank d = true := by
  have hx : ((x = 0x20 ∨ x = 0x09) ∨ x = 0x0D) ∨ x = 0x0A := by simpa [isBlankByte] using hx
  have hlt : x.toNat < 128 := by rcases hx with ((rfl | rfl) | rfl) | rfl <;> decide
  obtain ⟨hsize, hnat⟩ := toNat_of_lead_lt h hlt
  refine ⟨hsize, ?_⟩
  rw [isBlank, hnat]
  rcases hx with ((rfl | rfl) | rfl) | rfl <;> decide

/-- Where a cursor stands before a character, its first byte can be read. -/
theorem StandsBefore.exists_of_byteAt {c : Cursor} {d : Char} {ahead : List Char}
    (h : c.StandsBefore (d :: ahead)) :
    ∃ x more, byteAt c.code c.index = .ok x ∧ String.utf8EncodeChar d = x :: more := by
  obtain ⟨behind, hcode, hindex⟩ := h.split
  rw [hcode, hindex]
  exact Text.exists_of_byteAt behind String.toList_ofList

/-- A byte of white space before the cursor is a character, and the cursor stands
before the next one when the byte is passed over. -/
theorem StandsBefore.past_byte {c : Cursor} {d : Char} {ahead : List Char} {x : UInt8}
    (h : c.StandsBefore (d :: ahead)) (hx : byteAt c.code c.index = .ok x)
    (hblank : isBlankByte x = true) :
    isBlank d = true ∧ c.past [d] = { c with index := c.index + 1 } := by
  obtain ⟨y, more, hy, hd⟩ := h.exists_of_byteAt
  obtain rfl : y = x := Except.ok.inj (hy.symm.trans hx)
  obtain ⟨hsize, hisBlank⟩ := isBlank_of_isBlankByte hd hblank
  exact ⟨hisBlank, by simp [Cursor.past, String.utf8Len_cons, hsize]⟩

/-- **White space is passed over**, character by character. -/
theorem StandsBefore.skipBlank_eq {c : Cursor} {ahead : List Char} (h : c.StandsBefore ahead) :
    ∃ blank rest, ahead = blank ++ rest ∧ allBlank blank = true
      ∧ c.skipBlank = .ok (c.past blank) := by
  induction ahead generalizing c with
  | nil =>
    have hend := h.index_add
    refine ⟨[], [], rfl, rfl, ?_⟩
    rw [skipBlank, dif_neg (by simp at hend; omega)]
    rfl
  | cons d ahead ih =>
    have hlt : c.index < c.count := by
      have hcount := h.index_add
      have hpos := d.utf8Size_pos
      rw [String.utf8Len_cons] at hcount
      omega
    obtain ⟨x, more, hx, -⟩ := h.exists_of_byteAt
    cases hblank : isBlankByte x with
    | false =>
      refine ⟨[], d :: ahead, rfl, rfl, ?_⟩
      rw [skipBlank, dif_pos hlt, hx]
      simp [hblank, Cursor.past]
    | true =>
      obtain ⟨hd, hpast⟩ := h.past_byte hx hblank
      obtain ⟨blank, rest, rfl, hrest, hskip⟩ := ih h.past_cons
      refine ⟨d :: blank, rest, rfl, by simpa [allBlank, hd] using hrest, ?_⟩
      rw [skipBlank, dif_pos hlt, hx]
      simp only [hblank, if_true]
      rw [← hpast, hskip, ← past_append]
      rfl

/-! ## Selectors and bodies -/

theorem placeOf?_open (s : List Char) :
    placeOf? "\x7b" (String.ofList s) = (splitOnce '{' s).map fun cut => String.utf8Len cut.1 :=
  placeOf?_eq_of_singleton (by simp) s

theorem placeOf?_close (s : List Char) :
    placeOf? "\x7d" (String.ofList s) = (splitOnce '}' s).map fun cut => String.utf8Len cut.1 :=
  placeOf?_eq_of_singleton (by simp) s

section

variable {c : Cursor} {ahead before inside body more : List Char}

theorem readSelector_of_none (h : c.StandsBefore ahead) (hopen : splitOnce '{' ahead = none) :
    c.readSelector = .ok none := by
  refine bind_eq_ok_iff.mpr ⟨_, h.sliceFrom_eq, ?_⟩
  rw [placeOf?_open, hopen]
  rfl

theorem readSelector_of_some (h : c.StandsBefore ahead)
    (hopen : splitOnce '{' ahead = some (before, inside)) :
    c.readSelector = .ok (some (String.ofList (trim before), c.past before)) := by
  obtain ⟨rfl, -⟩ := splitOnce_eq_some_iff.mp hopen
  refine bind_eq_ok_iff.mpr ⟨_, h.sliceFrom_eq, ?_⟩
  rw [placeOf?_open, hopen]
  refine bind_eq_ok_iff.mpr ⟨_, h.slice_eq, ?_⟩
  rw [String.toList_ofList]
  rfl

theorem readBlock_of_none (h : c.StandsBefore ahead) (hopen : splitOnce '{' ahead = none) :
    c.readBlock = .ok none := by
  refine bind_eq_ok_iff.mpr ⟨_, h.sliceFrom_eq, ?_⟩
  rw [placeOf?_open, hopen]
  rfl

theorem readBlock_of_unclosed (h : c.StandsBefore ahead)
    (hopen : splitOnce '{' ahead = some (before, inside)) (hclose : splitOnce '}' inside = none) :
    c.readBlock = .ok none := by
  obtain ⟨rfl, -⟩ := splitOnce_eq_some_iff.mp hopen
  refine bind_eq_ok_iff.mpr ⟨_, h.sliceFrom_eq, ?_⟩
  rw [placeOf?_open, hopen]
  refine bind_eq_ok_iff.mpr ⟨_, h.past.sliceFrom_eq, ?_⟩
  rw [placeOf?_close, splitOnce_cons_of_ne (by decide), hclose]
  rfl

theorem readBlock_of_some (h : c.StandsBefore ahead)
    (hopen : splitOnce '{' ahead = some (before, inside))
    (hclose : splitOnce '}' inside = some (body, more)) :
    c.readBlock
      = .ok (some (String.ofList body, c.past (before ++ '{' :: (body ++ ['}'])))) := by
  obtain ⟨rfl, -⟩ := splitOnce_eq_some_iff.mp hopen
  obtain ⟨rfl, -⟩ := splitOnce_eq_some_iff.mp hclose
  refine bind_eq_ok_iff.mpr ⟨_, h.sliceFrom_eq, ?_⟩
  rw [placeOf?_open, hopen]
  refine bind_eq_ok_iff.mpr ⟨_, h.past.sliceFrom_eq, ?_⟩
  rw [placeOf?_close, splitOnce_cons_of_ne (by decide), hclose]
  have hopened : ((c.past before).past ['{']).StandsBefore (body ++ '}' :: more) :=
    h.past.past_cons
  have hstop : c.index + String.utf8Len before + 1 + String.utf8Len body
      = c.index + String.utf8Len before + String.utf8Len ('{' :: body) := by
    rw [String.utf8Len_cons, Nat.add_assoc, Nat.add_comm 1]
    rfl
  have hpast : c.past (before ++ '{' :: (body ++ ['}']))
      = { c with index := c.index + String.utf8Len before + String.utf8Len ('{' :: body) + 1 } := by
    rw [past, String.utf8Len_append, ← List.cons_append, String.utf8Len_append, ← Nat.add_assoc,
      ← Nat.add_assoc]
    rfl
  refine bind_eq_ok_iff.mpr ⟨String.ofList body, ?_, by rw [hpast]; rfl⟩
  have hbody := hopened.slice_eq
  exact hstop ▸ hbody

/-- **A selector is read or there is none**, and the cursor stays in its text. -/
theorem StandsBefore.exists_readSelector (h : c.StandsBefore ahead) :
    ∃ found, c.readSelector = .ok found
      ∧ ∀ s next, found = some (s, next) → ∃ rest, next.StandsBefore rest := by
  cases hopen : splitOnce '{' ahead with
  | none => exact ⟨none, readSelector_of_none h hopen, nofun⟩
  | some cut =>
    obtain ⟨before, inside⟩ := cut
    refine ⟨_, readSelector_of_some h hopen, ?_⟩
    rintro s next ⟨⟩
    obtain ⟨rfl, -⟩ := splitOnce_eq_some_iff.mp hopen
    exact ⟨_, h.past⟩

/-- **A body is read or there is none**, and the cursor stays in its text. -/
theorem StandsBefore.exists_readBlock (h : c.StandsBefore ahead) :
    ∃ found, c.readBlock = .ok found
      ∧ ∀ s next, found = some (s, next) → ∃ rest, next.StandsBefore rest := by
  cases hopen : splitOnce '{' ahead with
  | none => exact ⟨none, readBlock_of_none h hopen, nofun⟩
  | some cut =>
    obtain ⟨before, inside⟩ := cut
    cases hclose : splitOnce '}' inside with
    | none => exact ⟨none, readBlock_of_unclosed h hopen hclose, nofun⟩
    | some cut =>
      obtain ⟨body, more⟩ := cut
      refine ⟨_, readBlock_of_some h hopen hclose, ?_⟩
      rintro s next ⟨⟩
      obtain ⟨rfl, -⟩ := splitOnce_eq_some_iff.mp hopen
      obtain ⟨rfl, -⟩ := splitOnce_eq_some_iff.mp hclose
      refine ⟨more, StandsBefore.past ?_⟩
      simpa using h

end

/-! ## Blocks -/

section

variable {c : Cursor} {ahead selector body more : List Char}

theorem isEmpty_trim_iff {before : List Char} :
    (String.ofList (trim before)).isEmpty = true ↔ allBlank before = true := by
  rw [String.isEmpty_iff, String.ofList_eq_empty_iff, trim_eq_nil_iff]

/-- **Where no complete block is ahead, none is read.** -/
theorem nextBlock_of_none (h : c.StandsBefore ahead) (hblock : Sheet.firstBlock ahead = none) :
    c.nextBlock = .ok none := by
  obtain ⟨blank, rest, rfl, hblank, hskip⟩ := h.skipBlank_eq
  rw [Sheet.firstBlock_append_of_allBlank hblank, Sheet.firstBlock_eq_none_iff] at hblock
  refine bind_eq_ok_iff.mpr ⟨_, hskip, ?_⟩
  rcases hblock with hopen | ⟨before, inside, rfl, hbefore, hrest⟩
  · exact bind_eq_ok_iff.mpr
      ⟨_, readSelector_of_none h.past (splitOnce_eq_none_iff.mpr hopen), rfl⟩
  · have hopen := splitOnce_append_cons hbefore inside
    refine bind_eq_ok_iff.mpr ⟨_, readSelector_of_some h.past hopen, ?_⟩
    dsimp only
    split
    · rfl
    · next hselector =>
      rw [isEmpty_trim_iff] at hselector
      have hclose := splitOnce_eq_none_iff.mpr (hrest.resolve_left hselector)
      exact bind_eq_ok_iff.mpr ⟨_, readBlock_of_unclosed h.past.past
        (splitOnce_append_cons List.not_mem_nil inside) hclose, rfl⟩

/-- **The next block is the first one ahead**, and behind it the cursor stands before
the rest. -/
theorem nextBlock_of_some (h : c.StandsBefore ahead)
    (hblock : Sheet.firstBlock ahead = some (selector, body, more)) :
    ∃ next, c.nextBlock = .ok (some ((String.ofList selector, String.ofList body), next))
      ∧ next.StandsBefore more := by
  obtain ⟨blank, rest, rfl, hblank, hskip⟩ := h.skipBlank_eq
  rw [Sheet.firstBlock_append_of_allBlank hblank, Sheet.firstBlock_eq_some_iff] at hblock
  obtain ⟨before, rfl, hbefore, hselector, hbody, rfl⟩ := hblock
  have hopen := splitOnce_append_cons hbefore (body ++ '}' :: more)
  have hopened : ((c.past blank).past before).StandsBefore ('{' :: (body ++ '}' :: more)) :=
    h.past.past
  refine ⟨((c.past blank).past before).past ('{' :: (body ++ ['}'])), ?_, ?_⟩
  · refine bind_eq_ok_iff.mpr ⟨_, hskip, bind_eq_ok_iff.mpr
      ⟨_, readSelector_of_some h.past hopen, ?_⟩⟩
    dsimp only
    rw [if_neg (by rw [isEmpty_trim_iff, hselector]; simp)]
    exact bind_eq_ok_iff.mpr ⟨_, readBlock_of_some hopened
      (splitOnce_append_cons List.not_mem_nil _) (splitOnce_append_cons hbody more), rfl⟩
  · apply StandsBefore.past
    simpa using hopened

theorem blocks_of_none (h : c.nextBlock = .ok none) : c.blocks = .ok [] := by
  rw [blocks]
  split
  · rfl
  · split <;> simp_all

theorem blocks_of_some {block : String × String} {next : Cursor}
    (hend : c.atEnd = false) (h : c.nextBlock = .ok (some (block, next))) :
    c.blocks = next.blocks.map (block :: ·) := by
  rw [blocks, dif_neg (by simp [hend])]
  split <;> simp_all

/-- **All blocks ahead are read**, by induction on what is ahead. -/
theorem StandsBefore.blocks_eq (h : c.StandsBefore ahead) :
    c.blocks = .ok ((Sheet.blocks ahead).map fun (selector, body) =>
      (String.ofList selector, String.ofList body)) := by
  induction ahead using Sheet.blocks.induct generalizing c with
  | case1 ahead hnone =>
    rw [blocks_of_none (nextBlock_of_none h hnone), Sheet.blocks, hnone]
    rfl
  | case2 ahead selector body more hsome ih =>
    obtain ⟨next, hnext, hmore⟩ := nextBlock_of_some h hsome
    have hend : c.atEnd = false := by
      have hon := goesOn_of_nextBlock hnext
      have hindex := hon.index
      have hcount := hmore.index_add
      rw [hon.count] at hcount
      simp only [atEnd, decide_eq_false_iff_not]
      omega
    rw [blocks_of_some hend hnext, ih hmore, Sheet.blocks.eq_def ahead, hsome]
    rfl

end

/-! ## Every cursor of a scan -/

/-- **A cursor a scan of the text comes to**: where it starts, behind a byte of white
space, and where a selector or a body was read. -/
inductive Reached (text : String) : Cursor → Prop
  /-- A scan begins at the start. -/
  | start : Reached text (start text)
  /-- A byte of white space is passed over. -/
  | blank {c : Cursor} {b : UInt8} (hc : Reached text c) (hlt : c.index < c.count)
      (hb : byteAt c.code c.index = .ok b) (hblank : isBlankByte b = true) :
      Reached text { c with index := c.index + 1 }
  /-- A selector is read. -/
  | selector {c next : Cursor} {s : String} (hc : Reached text c)
      (h : c.readSelector = .ok (some (s, next))) : Reached text next
  /-- A body is read. -/
  | block {c next : Cursor} {s : String} (hc : Reached text c)
      (h : c.readBlock = .ok (some (s, next))) : Reached text next

namespace Reached

variable {text : String} {c next : Cursor}

theorem skipBlank (hc : Reached text c) (h : c.skipBlank = .ok next) : Reached text next :=
  of_skipBlank hc (fun _ _ hlt hb hblank hc => hc.blank hlt hb hblank) h

theorem nextBlock {block : String × String} (hc : Reached text c)
    (h : c.nextBlock = .ok (some (block, next))) : Reached text next := by
  obtain ⟨d, opened, hskip, hselected, hclosed⟩ := exists_of_nextBlock h
  exact ((hc.skipBlank hskip).selector hselected).block hclosed

/-- **Every cursor of a scan stands before a piece of the text.** -/
theorem standsBefore (hc : Reached text c) : c.code = text ∧ ∃ ahead, c.StandsBefore ahead := by
  induction hc with
  | start => exact ⟨rfl, _, standsBefore_start text⟩
  | @blank c b hc hlt hb hblank ih =>
    obtain ⟨hcode, ahead, h⟩ := ih
    cases ahead with
    | nil =>
      have hcount := h.index_add
      simp at hcount
      omega
    | cons d ahead =>
      rw [← (h.past_byte hb hblank).2]
      exact ⟨hcode, ahead, h.past_cons⟩
  | selector hc hread ih =>
    obtain ⟨hcode, ahead, h⟩ := ih
    obtain ⟨found, hfound, hnext⟩ := h.exists_readSelector
    exact ⟨(goesOn_of_readSelector hread).code.trans hcode,
      hnext _ _ (Except.ok.inj (hfound.symm.trans hread))⟩
  | block hc hread ih =>
    obtain ⟨hcode, ahead, h⟩ := ih
    obtain ⟨found, hfound, hnext⟩ := h.exists_readBlock
    exact ⟨(goesOn_of_readBlock hread).code.trans hcode,
      hnext _ _ (Except.ok.inj (hfound.symm.trans hread))⟩

end Reached

/-- **The cursor is in place**: in the text, at one of its places, not behind its
end. -/
structure InPlace (text : String) (c : Cursor) : Prop where
  /-- The text is the one that is scanned. -/
  code : c.code = text
  /-- Its size is known. -/
  count : c.count = text.utf8ByteSize
  /-- The cursor is not behind its end. -/
  index : c.index ≤ text.utf8ByteSize
  /-- The cursor is not within a character. -/
  isPlace : IsPlace text c.index

theorem Reached.inPlace {text : String} {c : Cursor} (hc : Reached text c) : c.InPlace text := by
  obtain ⟨rfl, ahead, h⟩ := hc.standsBefore
  exact ⟨rfl, h.count, h.count ▸ Nat.le.intro h.index_add, h.isPlace⟩

/-- **A block leaves less of the text ahead**, and where none is read nothing breaks
down. -/
theorem Reached.exists_nextBlock {text : String} {c : Cursor} (hc : Reached text c) :
    ∃ ahead found, sliceFrom text c.index = .ok ahead ∧ c.nextBlock = .ok found
      ∧ ∀ block next, found = some (block, next) → Reached text next
          ∧ ∃ rest, sliceFrom text next.index = .ok rest
              ∧ rest.utf8ByteSize < ahead.utf8ByteSize := by
  obtain ⟨rfl, ahead, h⟩ := hc.standsBefore
  refine ⟨String.ofList ahead, ?_⟩
  cases hblock : Sheet.firstBlock ahead with
  | none => exact ⟨none, h.sliceFrom_eq, nextBlock_of_none h hblock, nofun⟩
  | some block =>
    obtain ⟨selector, body, more⟩ := block
    obtain ⟨next, hnext, hmore⟩ := nextBlock_of_some h hblock
    refine ⟨_, h.sliceFrom_eq, hnext, ?_⟩
    rintro block' next' ⟨⟩
    have hon := goesOn_of_nextBlock hnext
    refine ⟨hc.nextBlock hnext, _, hon.code ▸ hmore.sliceFrom_eq, ?_⟩
    have hindex := hon.index
    have hahead := h.index_add
    have hrest := hmore.index_add
    rw [hon.count] at hrest
    rw [String.utf8ByteSize_ofList, String.utf8ByteSize_ofList]
    omega

end Cursor

/-- **Scanning reads the rules**, and no access breaks down. -/
theorem scanRules_eq (text : String) : scanRules text = .ok (Sheet.rules text) := by
  have hblocks := (Cursor.standsBefore_start
    (String.ofList (stripComments text.toList))).blocks_eq
  rw [String.toList_ofList] at hblocks
  refine bind_eq_ok_iff.mpr ⟨_, scanComments_eq text, bind_eq_ok_iff.mpr ⟨_, hblocks, ?_⟩⟩
  simp only [pure, Except.pure, Sheet.rules, List.map_map, Except.ok.injEq]
  refine List.map_congr_left fun block _ => ?_
  simp

/-- **The scanner stays in place and gets on.** Of every text, whatever characters
it holds, the comments are taken out and the rules are read, and no access breaks
down on the way. Where a comment is found less of the text remains. A cursor that a
scan comes to is at a place of the text; every step from there succeeds, to a cursor
of the scan again; and behind a block less of the text is ahead. -/
theorem scan_in_place (text : String) :
    (scanComments text = .ok (String.ofList (stripComments text.toList))
        ∧ scanRules text = .ok (Sheet.rules text))
      ∧ (∃ found, nextComment text = .ok found
          ∧ ∀ kept more, found = some (kept, more) → more.utf8ByteSize < text.utf8ByteSize)
      ∧ ∀ c, Cursor.Reached text c →
          c.InPlace text
            ∧ (∃ next, c.skipBlank = .ok next ∧ Cursor.Reached text next)
            ∧ (∃ found, c.readSelector = .ok found
                ∧ ∀ s next, found = some (s, next) → Cursor.Reached text next)
            ∧ (∃ found, c.readBlock = .ok found
                ∧ ∀ s next, found = some (s, next) → Cursor.Reached text next)
            ∧ ∃ ahead found, sliceFrom text c.index = .ok ahead ∧ c.nextBlock = .ok found
                ∧ ∀ block next, found = some (block, next) → Cursor.Reached text next
                    ∧ ∃ rest, sliceFrom text next.index = .ok rest
                        ∧ rest.utf8ByteSize < ahead.utf8ByteSize := by
  refine ⟨⟨scanComments_eq text, scanRules_eq text⟩, ?_, fun c hc => ?_⟩
  · rcases nextComment_spec text with ⟨hnone, -⟩ | ⟨before, inner, after, -, hsome, -⟩
    · exact ⟨none, hnone, nofun⟩
    · refine ⟨_, hsome, ?_⟩
      rintro kept more ⟨⟩
      exact utf8ByteSize_nextComment hsome
  · obtain ⟨-, ahead, h⟩ := hc.standsBefore
    obtain ⟨blank, rest, -, -, hskip⟩ := h.skipBlank_eq
    obtain ⟨selected, hselected, -⟩ := h.exists_readSelector
    obtain ⟨closed, hclosed, -⟩ := h.exists_readBlock
    exact ⟨hc.inPlace, ⟨_, hskip, hc.skipBlank hskip⟩,
      ⟨selected, hselected, fun s next hsome => hc.selector (hsome ▸ hselected)⟩,
      ⟨closed, hclosed, fun s next hsome => hc.block (hsome ▸ hclosed)⟩, hc.exists_nextBlock⟩

end WidgetMarkup.Style
