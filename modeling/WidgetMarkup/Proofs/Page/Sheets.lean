import WidgetMarkup.Page.Build
import WidgetMarkup.Proofs.Page.LastRule
import WidgetMarkup.Proofs.Style.Blocks
import WidgetMarkup.Proofs.Style.Comments

/-!
# Style sheets taken apart and put together

A block may be written in two, with the selector written twice: what the first
part declares is then overridden not where the body is read but where the rules
are applied. Between the two rules the widgets are asked for a second time, and
as a rule changes styles only, they are the same ones. So it makes no difference
(`applyRules_split_block`).

A style sheet may be cut anywhere and read in two, if no comment is cut or made
by it. Where the first text ends within a block, it is the second text that
completes the block or not, and the blocks before it are read in any case. Where
it ends between blocks, the rules of the two texts are those of the whole
(`rules_append`).
-/

namespace WidgetMarkup

namespace Style

/-! ## A block in two -/

/-- **A semicolon puts two bodies together**, and the later one overrides. -/
theorem parseDeclarations_append (a b : List Char) :
    parseDeclarations (a ++ ';' :: b) = (parseDeclarations a).merge (parseDeclarations b) := by
  rw [parseDeclarations, declarations, List.splitOn_append_cons_self, List.filterMap_append]
  exact Properties.ofEntries_append _ _

namespace Sheet

/-- Blocks in which no comment is opened open none between them. -/
theorem opening_notMem_written {pieces : List (List Char × List Char)}
    (h : ∀ piece ∈ pieces, ¬ ['/', '*'] <:+: piece.1 ∧ ¬ ['/', '*'] <:+: piece.2) :
    ¬ ['/', '*'] <:+: written pieces := by
  induction pieces with
  | nil => simp [written]
  | cons piece pieces ih =>
    obtain ⟨⟨hbefore, hbody⟩, hmore⟩ := List.forall_mem_cons.mp h
    have htext : written (piece :: pieces)
        = piece.1 ++ '{' :: (piece.2 ++ '}' :: written pieces) := by
      simp [written]
    rw [htext, pair_infix_append_cons_iff (by decide) (by decide),
      pair_infix_append_cons_iff (by decide) (by decide)]
    simp [hbefore, hbody, ih hmore]

/-- **The rules of complete blocks** in which no comment is opened. -/
theorem rules_written {pieces : List (List Char × List Char)}
    (hpieces : ∀ piece ∈ pieces, '{' ∉ piece.1 ∧ Text.allBlank piece.1 = false ∧ '}' ∉ piece.2)
    (hopen : ∀ piece ∈ pieces, ¬ ['/', '*'] <:+: piece.1 ∧ ¬ ['/', '*'] <:+: piece.2) :
    rules (String.ofList (written pieces))
      = pieces.map fun (before, body) =>
          ⟨String.ofList (Text.trim before), parseDeclarations body⟩ := by
  have hcut : Cut (written pieces) pieces [] :=
    ⟨(List.append_nil _).symm, fun piece h => (hpieces piece h).1,
      fun piece h => (hpieces piece h).2.1, fun piece h => (hpieces piece h).2.2, Or.inl (by simp)⟩
  have hcomment : ¬ HasComment (written pieces) := by
    rintro ⟨before, after, htext, -⟩
    exact opening_notMem_written hopen ⟨before, after, by rw [htext]; simp⟩
  rw [rules, String.toList_ofList, stripComments_of_not_hasComment hcomment, hcut.blocks_eq,
    List.map_map]
  rfl

end Sheet

end Style

namespace Scene

open Style

/-- Two rules with one selector do to a widget what one rule with both tables
does. -/
theorem applyRules_merge (s : Scene) (selector : String) (t u : Properties) :
    (s.applyRules [⟨selector, t⟩, ⟨selector, u⟩]).1
      = (s.applyRules [⟨selector, t.merge u⟩]).1 := by
  refine ext_widget? (fun id => ?_) ?_
  · rw [widget?_applyRules, widget?_applyRules]
    refine Option.map_congr (fun w _ => ?_)
    refine congrArg (fun style => { w with style }) ?_
    by_cases hid : id ∈ s.query selector
    · simp [restyle, hid, Properties.merge_merge]
    · simp [restyle, hid]
  · rw [flushes_applyRules, flushes_applyRules]

/-- **A block can be written in two.**

* A semicolon puts two bodies together: what they declare is what the first
  declares, overridden by what the second declares.
* Take a selector that is not white space and two bodies, such that no brace
  ends one of them early and no comment is opened in them. Then two blocks with
  this selector and these bodies do to a scene what one block does that has both
  bodies with a semicolon between them. -/
theorem applyRules_split_block :
    (∀ a b : List Char,
        parseDeclarations (a ++ ';' :: b) = (parseDeclarations a).merge (parseDeclarations b))
      ∧ ∀ selector a b : List Char,
          Text.allBlank selector = false → '{' ∉ selector → '}' ∉ a → '}' ∉ b →
          ¬ ['/', '*'] <:+: selector → ¬ ['/', '*'] <:+: a → ¬ ['/', '*'] <:+: b →
          ∀ s : Scene,
            (s.applyRules (Sheet.rules
                (String.ofList (Sheet.written [(selector, a), (selector, b)])))).1
              = (s.applyRules (Sheet.rules
                  (String.ofList (Sheet.written [(selector, a ++ ';' :: b)])))).1 := by
  refine ⟨parseDeclarations_append, fun selector a b hblank hopen ha hb hs hac hbc s => ?_⟩
  have hjoined : ¬ ['/', '*'] <:+: a ++ ';' :: b := by
    rw [pair_infix_append_cons_iff (by decide) (by decide), not_or]
    exact ⟨hac, hbc⟩
  rw [Sheet.rules_written (by simp [hblank, hopen, ha, hb]) (by simp [hs, hac, hbc]),
    Sheet.rules_written (by simp [hblank, hopen, ha, hb]) (by simp [hs, hjoined])]
  show (s.applyRules [⟨_, _⟩, ⟨_, _⟩]).1 = (s.applyRules [⟨_, _⟩]).1
  rw [applyRules_merge, ← parseDeclarations_append]

/-- Two spellings of one name, in two blocks or in one: the later one holds. -/
theorem applyRules_split_block_margins :
    Text.allBlank "text ".toList = false ∧ '\x7b' ∉ "text ".toList
      ∧ '\x7d' ∉ "margin-top:1".toList ∧ '\x7d' ∉ "marginTop:2; /".toList
      ∧ ¬ ['/', '*'] <:+: "text ".toList ∧ ¬ ['/', '*'] <:+: "margin-top:1".toList
      ∧ ¬ ['/', '*'] <:+: "marginTop:2; /".toList
      ∧ (textInView.applyRules
            (Sheet.rules "text \x7bmargin-top:1\x7dtext \x7bmarginTop:2; /\x7d")).1
          = (textInView.applyRules
              (Sheet.rules "text \x7bmargin-top:1;marginTop:2; /\x7d")).1
      ∧ ((textInView.applyRules
            (Sheet.rules "text \x7bmargin-top:1;marginTop:2; /\x7d")).1.widget? 2).map
          (·.style.entries) = some [("marginTop", "2")] := by
  have htwo : String.ofList (Sheet.written [("text ".toList, "margin-top:1".toList),
      ("text ".toList, "marginTop:2; /".toList)])
        = "text \x7bmargin-top:1\x7dtext \x7bmarginTop:2; /\x7d" := by
    decide +kernel
  have hone : String.ofList (Sheet.written
      [("text ".toList, "margin-top:1".toList ++ ';' :: "marginTop:2; /".toList)])
        = "text \x7bmargin-top:1;marginTop:2; /\x7d" := by
    decide +kernel
  have hall : Text.allBlank "text ".toList = false ∧ '\x7b' ∉ "text ".toList
      ∧ '\x7d' ∉ "margin-top:1".toList ∧ '\x7d' ∉ "marginTop:2; /".toList
      ∧ ¬ ['/', '*'] <:+: "text ".toList ∧ ¬ ['/', '*'] <:+: "margin-top:1".toList
      ∧ ¬ ['/', '*'] <:+: "marginTop:2; /".toList := by
    decide
  obtain ⟨hblank, hopen, ha, hb, hs, hac, hbc⟩ := hall
  have hsame := applyRules_split_block.2 _ _ _ hblank hopen ha hb hs hac hbc textInView
  rw [htwo, hone] at hsame
  exact ⟨hblank, hopen, ha, hb, hs, hac, hbc, hsame, by decide +kernel⟩

end Scene

/-! ## A text in two -/

namespace Style.Sheet

/-- **What is read of two texts, one after the other**: the blocks of the first,
and those of what it leaves together with the second. -/
theorem blocks_append {s rest : List Char} {pieces : List (List Char × List Char)}
    (h : Cut s pieces rest) (t : List Char) : blocks (s ++ t) = blocks s ++ blocks (rest ++ t) := by
  obtain ⟨more, last, hmore⟩ := exists_cut (rest ++ t)
  rw [(h.append hmore).blocks_eq, h.blocks_eq, hmore.blocks_eq, List.map_append]

end Style.Sheet

/-- **A style sheet can be cut in two.** Let two texts be given such that comments
are taken out of the two together as they are out of each.

* The rules of the first begin the rules of the whole.
* The first text is cut into blocks and a rest. If the rest is white space only,
  the rules of the whole are those of the first and those of the second. So it
  makes no difference whether the two are put into a book of rules one after the
  other or as one, neither to the rules in the book nor to how many are added.
-/
theorem rules_append {a b : String}
    (h : Style.stripComments (a ++ b).toList
      = Style.stripComments a.toList ++ Style.stripComments b.toList) :
    Style.Sheet.rules a <+: Style.Sheet.rules (a ++ b)
      ∧ ∃ pieces rest, Style.Sheet.Cut (Style.stripComments a.toList) pieces rest
        ∧ (Text.allBlank rest = true →
          Style.Sheet.rules (a ++ b) = Style.Sheet.rules a ++ Style.Sheet.rules b
            ∧ (∀ book : RuleBook, (book.addSheet a).addSheet b = book.addSheet (a ++ b))
            ∧ (Style.Sheet.rules a).length + (Style.Sheet.rules b).length
              = (Style.Sheet.rules (a ++ b)).length
            ∧ ∀ c : Construction,
              (c.addSheet (some a)).addSheet (some b) = c.addSheet (some (a ++ b))) := by
  obtain ⟨pieces, rest, hcut⟩ := Style.Sheet.exists_cut (Style.stripComments a.toList)
  have hblocks := Style.Sheet.blocks_append hcut (Style.stripComments b.toList)
  rw [← h] at hblocks
  refine ⟨?_, pieces, rest, hcut, fun hrest => ?_⟩
  · unfold Style.Sheet.rules
    rw [hblocks, List.map_append]
    exact List.prefix_append _ _
  · have hrules : Style.Sheet.rules (a ++ b) = Style.Sheet.rules a ++ Style.Sheet.rules b := by
      unfold Style.Sheet.rules
      rw [hblocks, Style.Sheet.blocks_append_of_allBlank hrest, List.map_append]
    have hbook : ∀ book : RuleBook, (book.addSheet a).addSheet b = book.addSheet (a ++ b) := by
      intro book
      simp [RuleBook.addSheet, RuleBook.add, hrules]
    refine ⟨hrules, hbook, by rw [hrules, List.length_append], fun c => ?_⟩
    simp [Construction.addSheet, hbook, hrules, Nat.add_assoc]

/-- A comment and white space between two blocks, and a selector without a block
at the end. -/
theorem rules_append_two_blocks :
    Style.stripComments (".a \x7b x: 1 \x7d /* b */ " ++ ".c \x7b\x7d .d").toList
        = Style.stripComments ".a \x7b x: 1 \x7d /* b */ ".toList
          ++ Style.stripComments ".c \x7b\x7d .d".toList
      ∧ Style.Sheet.Cut (Style.stripComments ".a \x7b x: 1 \x7d /* b */ ".toList)
          [(".a ".toList, " x: 1 ".toList)] "  ".toList
      ∧ Text.allBlank "  ".toList = true
      ∧ Style.Sheet.rules (".a \x7b x: 1 \x7d /* b */ " ++ ".c \x7b\x7d .d")
        = Style.Sheet.rules ".a \x7b x: 1 \x7d /* b */ "
          ++ Style.Sheet.rules ".c \x7b\x7d .d" := by
  have hstrip : Style.stripComments (".a \x7b x: 1 \x7d /* b */ " ++ ".c \x7b\x7d .d").toList
      = Style.stripComments ".a \x7b x: 1 \x7d /* b */ ".toList
        ++ Style.stripComments ".c \x7b\x7d .d".toList := by
    decide +kernel
  have hcut : Style.Sheet.Cut (Style.stripComments ".a \x7b x: 1 \x7d /* b */ ".toList)
      [(".a ".toList, " x: 1 ".toList)] "  ".toList :=
    ⟨by decide +kernel, by decide, by decide, by decide, Or.inl (by decide)⟩
  obtain ⟨-, pieces, rest, hcut', hjoined⟩ := rules_append hstrip
  obtain ⟨-, rfl⟩ := hcut.unique hcut'
  exact ⟨hstrip, hcut, by decide, (hjoined (by decide)).1⟩

end WidgetMarkup
