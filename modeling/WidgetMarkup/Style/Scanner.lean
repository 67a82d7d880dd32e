import WidgetMarkup.Style.Sheet
import WidgetMarkup.Text.Place

/-!
# A style sheet scanned in its bytes

`stripComments` and `blocks` go through a text character by character. The same
can be done by places alone, without a copy of the text for each step: comments
are cut out of what remains, and a cursor goes from block to block through one
text. Here it is done so, with every access to the text by `slice` or `byteAt`,
so that nothing is taken for granted about the numbers: they are sums of places
found in different texts, of the sizes of marks, and of bytes passed over one at
a time.

Both loops go on only after a pass that found something, and each such pass
leaves less of the text. That is why they end.
-/

namespace WidgetMarkup.Style

open Text (Misplaced slice sliceFrom byteAt placeOf? bind_eq_ok_iff utf8ByteSize_of_slice)

/-! ## Comments -/

/-- **Finds the first comment** and cuts the text there: what stands before it, and
what remains behind it. -/
def nextComment (rest : String) : Except Misplaced (Option (String × String)) := do
  match placeOf? "/*" rest with
  | none => return none
  | some start =>
    match placeOf? "*/" (← sliceFrom rest (start + 2)) with
    | none => return none
    | some length =>
      let kept ← slice rest 0 start
      let more ← sliceFrom rest (start + 2 + length + 2)
      return some (kept, more)

/-- **Behind a comment less of the text remains.** -/
theorem utf8ByteSize_nextComment {rest kept more : String}
    (h : nextComment rest = .ok (some (kept, more))) : more.utf8ByteSize < rest.utf8ByteSize := by
  unfold nextComment at h
  split at h
  · cases h
  · obtain ⟨inside, -, h⟩ := bind_eq_ok_iff.mp h
    split at h
    · cases h
    · obtain ⟨before, -, h⟩ := bind_eq_ok_iff.mp h
      obtain ⟨after, hafter, h⟩ := bind_eq_ok_iff.mp h
      obtain ⟨-, rfl⟩ : before = kept ∧ after = more := by simpa [pure, Except.pure] using h
      obtain ⟨hplace, -, hsize⟩ := utf8ByteSize_of_slice hafter
      omega

/-- **The text without its comments**, scanned. -/
def scanComments (rest : String) : Except Misplaced String :=
  match _h : nextComment rest with
  | .error fault => .error fault
  | .ok none => .ok rest
  | .ok (some (kept, more)) => (scanComments more).map (kept ++ ·)
termination_by rest.utf8ByteSize
decreasing_by exact utf8ByteSize_nextComment _h

/-! ## Blocks -/

/-- **A cursor in a text.** -/
structure Cursor where
  /-- The text. -/
  code : String
  /-- The place the cursor has come to. -/
  index : Nat
  /-- The size of the text. -/
  count : Nat
deriving DecidableEq, Repr

namespace Cursor

/-- The cursor at the start of a text. -/
def start (code : String) : Cursor :=
  ⟨code, 0, code.utf8ByteSize⟩

/-- Is nothing left? -/
def atEnd (c : Cursor) : Bool :=
  c.count ≤ c.index

/-- White space between blocks, as far as it takes one byte. -/
def isBlankByte (b : UInt8) : Bool :=
  b = 0x20 || b = 0x09 || b = 0x0D || b = 0x0A

/-- **Passes over white space**, byte by byte. -/
def skipBlank (c : Cursor) : Except Misplaced Cursor :=
  if _h : c.index < c.count then
    match byteAt c.code c.index with
    | .error fault => .error fault
    | .ok b => if isBlankByte b then skipBlank { c with index := c.index + 1 } else .ok c
  else .ok c
termination_by c.count - c.index

/-- **Reads a selector**, up to the next `{`, where the cursor stays. -/
def readSelector (c : Cursor) : Except Misplaced (Option (String × Cursor)) := do
  match placeOf? "\x7b" (← sliceFrom c.code c.index) with
  | none => return none
  | some n =>
    let stop := c.index + n
    let piece ← slice c.code c.index stop
    return some (String.ofList (Text.trim piece.toList), { c with index := stop })

/-- **Reads a body**, from the next `{` to the next `}`, and goes behind it. -/
def readBlock (c : Cursor) : Except Misplaced (Option (String × Cursor)) := do
  match placeOf? "\x7b" (← sliceFrom c.code c.index) with
  | none => return none
  | some n =>
    let first := c.index + n
    match placeOf? "\x7d" (← sliceFrom c.code first) with
    | none => return none
    | some m =>
      let stop := first + m
      let body ← slice c.code (first + 1) stop
      return some (body, { c with index := stop + 1 })

/-- **Reads the next block**, if it is complete. -/
def nextBlock (c : Cursor) : Except Misplaced (Option ((String × String) × Cursor)) := do
  let c ← c.skipBlank
  match ← c.readSelector with
  | none => return none
  | some (selector, next) =>
    if selector.isEmpty then return none
    match ← next.readBlock with
    | none => return none
    | some (body, next) => return some ((selector, body), next)

/-- **The cursor has gone on** in its text, by so many bytes at least. -/
structure GoesOn (c : Cursor) (n : Nat) (next : Cursor) : Prop where
  /-- It is in the same text. -/
  code : next.code = c.code
  /-- The text has the same size. -/
  count : next.count = c.count
  /-- It has come this far at least. -/
  index : c.index + n ≤ next.index

theorem GoesOn.trans {c d e : Cursor} {m n : Nat} (h : GoesOn c m d) (h' : GoesOn d n e) :
    GoesOn c (m + n) e where
  code := h'.code.trans h.code
  count := h'.count.trans h.count
  index := by
    have := h.index
    have := h'.index
    omega

/-- **What a byte of white space leaves true** is true behind the white space. -/
theorem of_skipBlank {P : Cursor → Prop} {c next : Cursor} (hc : P c)
    (hpass : ∀ c b, c.index < c.count → byteAt c.code c.index = .ok b → isBlankByte b = true →
      P c → P { c with index := c.index + 1 })
    (h : c.skipBlank = .ok next) : P next := by
  induction c using skipBlank.induct with
  | case1 c hlt fault hb =>
    rw [skipBlank, dif_pos hlt, hb] at h
    cases h
  | case2 c hlt b hb hblank ih =>
    rw [skipBlank, dif_pos hlt, hb] at h
    exact ih (hpass c b hlt hb hblank hc) (by simpa [hblank] using h)
  | case3 c hlt b hb hblank =>
    rw [skipBlank, dif_pos hlt, hb] at h
    obtain rfl : c = next := by simpa [hblank] using h
    exact hc
  | case4 c hge =>
    rw [skipBlank, dif_neg hge] at h
    obtain rfl : c = next := by simpa using h
    exact hc

theorem goesOn_of_skipBlank {c next : Cursor} (h : c.skipBlank = .ok next) : GoesOn c 0 next := by
  refine of_skipBlank (P := GoesOn c 0) ⟨rfl, rfl, Nat.le_refl _⟩ (fun d b _ _ _ hd => ?_) h
  have hone : GoesOn d 1 { d with index := d.index + 1 } := ⟨rfl, rfl, Nat.le_refl _⟩
  have hmore := hd.trans hone
  exact ⟨hmore.code, hmore.count, Nat.le_of_add_right_le hmore.index⟩

theorem goesOn_of_readSelector {c next : Cursor} {selector : String}
    (h : c.readSelector = .ok (some (selector, next))) : GoesOn c 0 next := by
  obtain ⟨ahead, -, h⟩ := bind_eq_ok_iff.mp h
  split at h
  · cases h
  · obtain ⟨piece, -, h⟩ := bind_eq_ok_iff.mp h
    cases h
    exact ⟨rfl, rfl, Nat.le_add_right _ _⟩

theorem goesOn_of_readBlock {c next : Cursor} {body : String}
    (h : c.readBlock = .ok (some (body, next))) : GoesOn c 1 next := by
  obtain ⟨ahead, -, h⟩ := bind_eq_ok_iff.mp h
  split at h
  · cases h
  · obtain ⟨inside, -, h⟩ := bind_eq_ok_iff.mp h
    split at h
    · cases h
    · obtain ⟨body', -, h⟩ := bind_eq_ok_iff.mp h
      cases h
      exact ⟨rfl, rfl, by dsimp only; omega⟩

/-- **A block is read in three steps**, and each of them succeeded. -/
theorem exists_of_nextBlock {c next : Cursor} {selector body : String}
    (h : c.nextBlock = .ok (some ((selector, body), next))) :
    ∃ d opened, c.skipBlank = .ok d ∧ d.readSelector = .ok (some (selector, opened))
      ∧ opened.readBlock = .ok (some (body, next)) := by
  obtain ⟨d, hskip, h⟩ := bind_eq_ok_iff.mp h
  obtain ⟨selected, hselected, h⟩ := bind_eq_ok_iff.mp h
  split at h
  · cases h
  · next selector opened =>
    split at h
    · cases h
    · obtain ⟨closed, hclosed, h⟩ := bind_eq_ok_iff.mp h
      split at h
      · cases h
      · cases h
        exact ⟨d, opened, hskip, hselected, hclosed⟩

/-- **Behind a block the cursor is farther on.** -/
theorem goesOn_of_nextBlock {c next : Cursor} {block : String × String}
    (h : c.nextBlock = .ok (some (block, next))) : GoesOn c 1 next := by
  obtain ⟨d, opened, hskip, hselected, hclosed⟩ := exists_of_nextBlock h
  have hopened := (goesOn_of_skipBlank hskip).trans (goesOn_of_readSelector hselected)
  exact hopened.trans (goesOn_of_readBlock hclosed)

/-- **The blocks from the cursor on**, as long as they are complete. -/
def blocks (c : Cursor) : Except Misplaced (List (String × String)) :=
  if _hend : c.atEnd then .ok []
  else
    match _h : c.nextBlock with
    | .error fault => .error fault
    | .ok none => .ok []
    | .ok (some (block, next)) => next.blocks.map (block :: ·)
termination_by c.count - c.index
decreasing_by
  have hnext := goesOn_of_nextBlock _h
  have hindex := hnext.index
  have hcount := hnext.count
  simp only [atEnd, decide_eq_true_eq] at _hend
  omega

end Cursor

/-- **The rules of a style sheet**, scanned. -/
def scanRules (text : String) : Except Misplaced (List Rule) := do
  let code ← scanComments text
  let blocks ← (Cursor.start code).blocks
  return blocks.map fun (selector, body) => ⟨selector, parseDeclarations body.toList⟩

/-- White space that takes several bytes, a comment between such characters, and
an unfinished block. -/
example : (scanRules "é/*ü*/ \x7b ä:ö\x7d\u3000b\x7b\x7d c \x7b").toOption
    = some [⟨"é", .ofEntries [("ä", "ö")]⟩, ⟨"b", .empty⟩] := by
  decide +kernel

end WidgetMarkup.Style
