import WidgetMarkup.Markup.Document
import WidgetMarkup.Proofs.Text.Trim

/-!
# Text behind a document

Markup can be read in two sittings. Where nothing is open after the first,
the second goes on from what the first has made as if it were alone: an item
is cut from the characters that belong to it, so what follows an item never
changes it (`Xml.Item.afterBracket_append`), and the one thing that the seam
can run together is text, which outside all elements is not looked at.

What is read behind a document differs from what is read by itself in one
respect: the document is there already. Nothing that a step does or refuses
depends on that (`Assembly.step_behind`). So what follows a document cannot
change it, only break it, and breaks it by the fault that it has by itself.
-/

namespace WidgetMarkup

open Xml

/-! ## What follows an item -/

namespace Xml

theorem spanTag_append {quote : Option Char} {s content rest : List Char}
    (h : spanTag quote s = some (content, rest)) (more : List Char) :
    spanTag quote (s ++ more) = some (content, rest ++ more) := by
  induction s generalizing quote content with
  | nil => simp [spanTag] at h
  | cons c s ih =>
    have step {q : Option Char}
        (h : (spanTag q s).map (fun p => (c :: p.1, p.2)) = some (content, rest)) :
        (spanTag q (s ++ more)).map (fun p => (c :: p.1, p.2)) = some (content, rest ++ more) := by
      obtain ⟨⟨inside, after⟩, hs, heq⟩ := Option.map_eq_some_iff.mp h
      obtain ⟨rfl, rfl⟩ : c :: inside = content ∧ after = rest := by simpa using heq
      rw [ih hs, Option.map_some]
    cases quote with
    | some q => exact step h
    | none =>
      rw [spanTag] at h
      rw [List.cons_append, spanTag]
      split at h
      · next hc =>
        obtain ⟨rfl, rfl⟩ : [] = content ∧ s = rest := by simpa using h
        rw [if_pos hc]
      · next hc =>
        rw [if_neg hc]
        exact step h

theorem spanUntil_append {ends : List Char → Bool} {before s content rest : List Char}
    (h : spanUntil ends before s = some (content, rest)) (more : List Char) :
    spanUntil ends before (s ++ more) = some (content, rest ++ more) := by
  induction s generalizing before with
  | nil => simp [spanUntil] at h
  | cons c s ih =>
    rw [spanUntil] at h
    rw [List.cons_append, spanUntil]
    split at h
    · next hc =>
      obtain ⟨rfl, rfl⟩ : before.reverse = content ∧ s = rest := by simpa using h
      rw [if_pos hc]
    · next hc =>
      rw [if_neg hc]
      exact ih h

theorem finish_append {construct : Construct} {make : List Char → Except Fault Item}
    {found longer : Option (List Char × List Char)} {i : Item} {rest more : List Char}
    (hlonger : ∀ content rest, found = some (content, rest) →
      longer = some (content, rest ++ more))
    (h : finish construct make found = .ok (i, rest)) :
    finish construct make longer = .ok (i, rest ++ more) := by
  cases found with
  | none => cases h
  | some p =>
    obtain ⟨content, after⟩ := p
    rw [hlonger content after rfl, finish]
    rw [finish] at h
    cases hmake : make content with
    | error fault => simp [hmake, Except.map] at h
    | ok j =>
      obtain ⟨rfl, rfl⟩ : j = i ∧ after = rest := by simpa [hmake, Except.map] using h
      rfl

/-- **What follows an item is not part of it.** -/
theorem Item.afterBracket_append {s rest : List Char} {i : Item}
    (h : Item.afterBracket s = .ok (i, rest)) (more : List Char) :
    Item.afterBracket (s ++ more) = .ok (i, rest ++ more) := by
  unfold Item.afterBracket at h
  split at h
  · exact finish_append (fun _ _ hs => spanUntil_append hs more) h
  · exact finish_append (fun _ _ hs => spanUntil_append hs more) h
  · exact finish_append (fun _ _ hs => spanUntil_append hs more) h
  · exact finish_append (fun _ _ hs => spanUntil_append hs more) h
  · cases h
  · exact finish_append (fun _ _ hs => spanUntil_append hs more) h
  · next hmark hquestion =>
    -- it is a tag: no mark stands in front, also with more text behind
    cases s with
    | nil => cases h
    | cons c s =>
      have hc : c ≠ '!' ∧ c ≠ '?' :=
        ⟨fun hc => hmark s (hc ▸ rfl), fun hc => hquestion s (hc ▸ rfl)⟩
      have hlonger := finish_append (fun _ _ hs => spanTag_append hs more) h
      rw [List.cons_append, Item.afterBracket]
      · exact hlonger
      all_goals simp [hc]

end Xml

namespace Assembly

/-! ## Reading on -/

theorem addAll_cons (a : Assembly) (i : Item) (items : List Item) :
    a.addAll (i :: items) = (a.step i).bind (·.addAll items) := rfl

/-- **Reads markup on** from where the assembly stands: adds its items, and
stops at the first that is at fault, or at the fault the items end with. -/
def read (a : Assembly) (s : List Char) : Except LoadError Assembly :=
  (a.addAll (items s).1).bind fun b =>
    match (items s).2 with
    | some fault => .error (.markup fault)
    | none => .ok b

@[simp] theorem read_nil (a : Assembly) : a.read [] = .ok a := by
  rw [read, items]
  rfl

theorem read_bracket (a : Assembly) (s : List Char) :
    a.read ('<' :: s) = match Item.afterBracket s with
      | .error fault => .error (.markup fault)
      | .ok (i, after) => (a.step i).bind (·.read after) := by
  rw [read, items]
  split
  · next fault hfault =>
    rw [hfault]
    rfl
  · next i after hitem =>
    rw [hitem, addAll_cons]
    show _ = (a.step i).bind _
    cases a.step i <;> rfl

theorem read_cons_of_ne (a : Assembly) {c : Char} (hc : c ≠ '<') (s : List Char) :
    a.read (c :: s) = (a.step (.text (c :: s.takeWhile (· != '<')))).bind
      (·.read (s.dropWhile (· != '<'))) := by
  rw [read, items]
  · rw [addAll_cons]
    cases a.step _ <;> rfl
  · exact hc

/-! ## Text outside all elements -/

/-- A character of a text without brackets. -/
theorem bne_bracket_of_mem {raw : List Char} (h : '<' ∉ raw) {c : Char} (hc : c ∈ raw) :
    (c != '<') = true := by
  simpa using ne_of_mem_of_not_mem hc h

theorem step_text_of_nil {a : Assembly} (h : a.opened = []) (raw : List Char) :
    a.step (.text raw) = .ok a := by
  simp [step, h]

/-- Outside all elements, reading begins at the first bracket. -/
theorem read_dropWhile {a : Assembly} (h : a.opened = []) (s : List Char) :
    a.read (s.dropWhile (· != '<')) = a.read s := by
  cases s with
  | nil => rfl
  | cons c s =>
    by_cases hc : c = '<'
    · simp [hc]
    · rw [read_cons_of_ne a hc, step_text_of_nil h]
      simp [hc, Except.bind]

/-- **Text outside all elements is not looked at.** -/
theorem read_append_of_notMem {a : Assembly} (h : a.opened = []) {raw : List Char}
    (hraw : '<' ∉ raw) (s : List Char) : a.read (raw ++ s) = a.read s := by
  have hdrop : (raw ++ s).dropWhile (· != '<') = s.dropWhile (· != '<') :=
    List.dropWhile_append_of_pos fun c hc => bne_bracket_of_mem hraw hc
  rw [← read_dropWhile h, hdrop, read_dropWhile h]

/-! ## The seam -/

/-- Where two attempts, one after the other, come out well, the first does. -/
theorem exists_of_bind_eq_ok {ε α β : Type} {attempt : Except ε α} {next : α → Except ε β}
    {y : β} (h : attempt.bind next = .ok y) : ∃ x, attempt = .ok x ∧ next x = .ok y := by
  cases attempt with
  | error e => cases h
  | ok x => exact ⟨x, rfl, h⟩

/-- A text is kept where something is open, and leaves it open. -/
theorem eq_of_step_text {a b : Assembly} {raw : List Char} (h : a.step (.text raw) = .ok b)
    (hb : b.opened = []) : b = a := by
  cases ha : a.opened with
  | nil => exact (Except.ok.inj ((step_text_of_nil ha raw).symm.trans h)).symm
  | cons e outer =>
    cases hraw : expand raw with
    | error fault => simp [step, ha, hraw] at h
    | ok content =>
      obtain rfl : a.attachInside (.text (String.ofList content)) = b := by
        simpa [step, ha, hraw] using h
      simp [attachInside, attach, ha] at hb

/-- **Where nothing is open, reading begins anew**, from what there is. -/
theorem read_append {a b : Assembly} {s : List Char} (h : a.read s = .ok b)
    (hb : b.opened = []) (more : List Char) : a.read (s ++ more) = b.read more := by
  induction s using items.induct generalizing a with
  | case1 =>
    obtain rfl : a = b := by simpa using h
    rfl
  | case2 s fault hfault =>
    rw [read_bracket, hfault] at h
    cases h
  | case3 s i after hitem _ _ _ ih =>
    rw [read_bracket, hitem] at h
    obtain ⟨c, hstep, hread⟩ := exists_of_bind_eq_ok h
    rw [List.cons_append, read_bracket, Item.afterBracket_append hitem]
    dsimp only
    rw [hstep]
    exact ih hread
  | case4 c s hc _ _ _ ih =>
    rw [read_cons_of_ne a hc] at h
    obtain ⟨d, hstep, hread⟩ := exists_of_bind_eq_ok h
    by_cases hs : '<' ∈ s
    · -- the text ends before the seam
      obtain ⟨front, after, rfl, hfront⟩ := List.eq_append_cons_of_mem hs
      have hcut (t : List Char) := @takeWhile_dropWhile_append (· != '<') front ('<' :: t)
        (List.all_eq_true.mpr fun c hc => bne_bracket_of_mem hfront hc) (by simp [EndsRun])
      rw [(hcut after).1] at hstep
      rw [(hcut after).2] at hread ih
      rw [List.cons_append, List.append_assoc, List.cons_append, read_cons_of_ne a hc,
        (hcut (after ++ more)).1, (hcut (after ++ more)).2, hstep]
      exact ih hread
    · -- the text goes on behind the seam, and is outside on both sides of it
      have hdrop : s.dropWhile (· != '<') = [] :=
        List.dropWhile_eq_nil_iff.mpr fun c hc => bne_bracket_of_mem hs hc
      obtain rfl : d = b := by simpa [hdrop] using hread
      obtain rfl : d = a := eq_of_step_text hstep hb
      exact read_append_of_notMem hb (List.not_mem_cons_of_ne_of_not_mem (Ne.symm hc) hs) more

/-! ## A document that is there already -/

/-- The assembly with a document that is there already. -/
def behind (a : Assembly) (document : Node) : Assembly :=
  { a with root := some document }

@[simp] theorem opened_behind (a : Assembly) (document : Node) :
    (a.behind document).opened = a.opened := rfl

theorem attach_behind (a : Assembly) (document n : Node) :
    (a.behind document).attach n = (a.attach n).behind document := by
  unfold attach behind
  cases a.opened <;> rfl

theorem attachInside_behind (a : Assembly) (document n : Node) :
    (a.behind document).attachInside n = (a.attachInside n).behind document := by
  unfold attachInside
  rw [opened_behind]
  cases a.opened with
  | nil => rfl
  | cons e outer => exact attach_behind a document n

/-- **No step asks whether there is a document.** -/
theorem step_behind (a : Assembly) (document : Node) (i : Item) :
    (a.behind document).step i = (a.step i).map (·.behind document) := by
  cases i with
  | openTag content =>
    simp only [step]
    cases StartTag.read content <;> rfl
  | emptyTag content =>
    simp only [step, attach_behind]
    cases StartTag.read content <;> rfl
  | closeTag name =>
    simp only [step, opened_behind]
    cases a.opened with
    | nil => rfl
    | cons e outer =>
      by_cases hname : String.ofList name = e.tag
      · simp only [hname, ↓reduceIte]
        exact congrArg Except.ok (attach_behind { a with opened := outer } document e.close)
      · simp only [hname, ↓reduceIte]
        rfl
  | text raw =>
    simp only [step, opened_behind, attachInside_behind]
    cases a.opened with
    | nil => rfl
    | cons e outer => cases expand raw <;> rfl
  | cdata content => exact congrArg Except.ok (attachInside_behind a document _)
  | comment content => exact congrArg Except.ok (attachInside_behind a document _)
  | instruction content => rfl
  | doctype content => rfl

theorem addAll_behind (a : Assembly) (document : Node) (items : List Item) :
    (a.behind document).addAll items = (a.addAll items).map (·.behind document) := by
  induction items generalizing a with
  | nil => rfl
  | cons i items ih =>
    rw [addAll_cons, addAll_cons, step_behind]
    cases a.step i with
    | error e => rfl
    | ok b => exact ih b

/-- **What is read is the same, but that the document is there.** -/
theorem read_behind (a : Assembly) (document : Node) (s : List Char) :
    (a.behind document).read s = (a.read s).map (·.behind document) := by
  rw [read, read, addAll_behind]
  cases a.addAll (items s).1 with
  | error e => rfl
  | ok b => cases (items s).2 <;> rfl

/-- A document that is there already is the document, if nothing is left
open. -/
theorem finish_behind (a : Assembly) (document : Node) :
    (a.behind document).finish = match a.finish with
      | .error .missingRoot | .ok _ => .ok document
      | .error e => .error e := by
  unfold finish
  rw [opened_behind]
  cases a.opened with
  | nil => cases a.root <;> rfl
  | cons e outer => rfl

/-! ## Why reading is refused -/

/-- A step is refused for a fault in the markup only. -/
theorem exists_fault_of_step {a : Assembly} {i : Item} {e : LoadError} (h : a.step i = .error e) :
    ∃ fault, e = .markup fault := by
  cases i with
  | openTag content | emptyTag content =>
    rw [step] at h
    cases hread : StartTag.read content with
    | error fault =>
      rw [hread] at h
      exact ⟨fault, (Except.error.inj h).symm⟩
    | ok t =>
      rw [hread] at h
      cases h
  | closeTag name =>
    cases hopened : a.opened with
    | nil => exact ⟨_, by simpa [step, hopened] using h.symm⟩
    | cons innermost outer =>
      by_cases hname : String.ofList name = innermost.tag
      · simp [step, hopened, hname] at h
      · exact ⟨_, by simpa [step, hopened, hname] using h.symm⟩
  | text raw =>
    cases hopened : a.opened with
    | nil => simp [step, hopened] at h
    | cons innermost outer =>
      cases hraw : expand raw with
      | error fault => exact ⟨.reference fault, by simpa [step, hopened, hraw] using h.symm⟩
      | ok content => simp [step, hopened, hraw] at h
  | _ => cases h

/-- And so is reading. -/
theorem exists_fault_of_read {a : Assembly} {s : List Char} {e : LoadError}
    (h : a.read s = .error e) : ∃ fault, e = .markup fault := by
  rw [read] at h
  generalize (items s).1 = row at h
  induction row generalizing a with
  | nil =>
    cases hfault : (items s).2 with
    | none => simp [hfault, addAll, Except.bind, pure, Except.pure] at h
    | some fault =>
      exact ⟨fault, by simpa [hfault, addAll, Except.bind, pure, Except.pure] using h.symm⟩
  | cons i row ih =>
    rw [addAll_cons] at h
    cases hstep : a.step i with
    | error e' =>
      obtain rfl : e' = e := by simpa [hstep, Except.bind] using h
      exact exists_fault_of_step hstep
    | ok b =>
      rw [hstep] at h
      exact ih h

end Assembly

/-! ## Documents -/

namespace Node

/-- **A document is read from its first character on**: a byte order mark is
text outside all elements like any other. -/
theorem parse_eq (text : String) :
    Node.parse text = (Assembly.read {} text.toList).bind Assembly.finish := by
  have hmark : Assembly.read {} (dropByteOrderMark text.toList) = Assembly.read {} text.toList := by
    unfold dropByteOrderMark
    split
    · next s hs =>
      rw [hs]
      exact (@Assembly.read_append_of_notMem {} rfl ['\ufeff'] (by decide) s).symm
    · rfl
  rw [← hmark, Node.parse, Assembly.read]
  obtain ⟨row, fault⟩ := items (dropByteOrderMark text.toList)
  show Node.ofItems row fault = _
  unfold Node.ofItems
  cases Assembly.addAll {} row with
  | error e => rfl
  | ok a => cases fault <;> rfl

/-- Where a text is a document, or lacks one only, nothing is open behind it. -/
theorem exists_read_of_parse {text : String} (h : Node.parse text = .error .missingRoot
    ∨ ∃ document, Node.parse text = .ok document) :
    ∃ a, Assembly.read {} text.toList = .ok a ∧ a.opened = [] := by
  rw [parse_eq] at h
  cases hread : Assembly.read {} text.toList with
  | error e =>
    obtain ⟨fault, rfl⟩ := Assembly.exists_fault_of_read hread
    simp [hread, Except.bind] at h
  | ok a =>
    refine ⟨a, rfl, ?_⟩
    cases hopened : a.opened with
    | nil => rfl
    | cons e outer => simp [hread, Except.bind, Assembly.finish, hopened] at h

/-- Behind a document nothing is open, and the document is there. -/
theorem read_of_parse {text : String} {document : Node} (h : Node.parse text = .ok document) :
    Assembly.read {} text.toList = .ok (Assembly.behind {} document) := by
  obtain ⟨⟨opened, root⟩, hread, rfl⟩ := exists_read_of_parse (.inr ⟨document, h⟩)
  rw [parse_eq, hread] at h
  cases root with
  | none => cases h
  | some n =>
    cases h
    exact hread

/-- **What a text behind a document is read as** is what it is read as by
itself, but for the document. -/
theorem parse_append_eq {x : String} {document : Node} (h : Node.parse x = .ok document)
    (y : String) : Node.parse (x ++ y) = match Node.parse y with
      | .error .missingRoot | .ok _ => .ok document
      | .error e => .error e := by
  rw [parse_eq, String.toList_append, Assembly.read_append (read_of_parse h) rfl,
    Assembly.read_behind, parse_eq]
  cases hread : Assembly.read {} y.toList with
  | error e =>
    obtain ⟨fault, rfl⟩ := Assembly.exists_fault_of_read hread
    rfl
  | ok a => exact a.finish_behind document

end Node

/-- **Text behind a document.** Let `x` be read as a document. Where `y` by itself
is read as a document or has none, `x` with `y` behind it is read as the document
of `x`; and where `y` is refused for any other error, it is refused for that error
behind `x`.

Text outside all elements is never refused and leaves no trace, not even with
references that are wrong inside one: where nothing is open it can be put in
front of anything. -/
theorem Node.parse_append (x y : String) :
    (∀ document, Node.parse x = .ok document →
        (∀ other, Node.parse y = .ok other → Node.parse (x ++ y) = .ok document)
        ∧ (Node.parse y = .error .missingRoot → Node.parse (x ++ y) = .ok document)
        ∧ ∀ e, e ≠ .missingRoot → Node.parse y = .error e → Node.parse (x ++ y) = .error e)
      ∧ ((Node.parse x = .error .missingRoot ∨ ∃ document, Node.parse x = .ok document) →
        ∀ raw : String, '<' ∉ raw.toList →
          Node.parse (x ++ raw ++ y) = Node.parse (x ++ y)) := by
  refine ⟨fun document hx => ⟨fun other hy => ?_, fun hy => ?_, fun e hne hy => ?_⟩,
    fun hx raw hraw => ?_⟩
  · rw [Node.parse_append_eq hx, hy]
  · rw [Node.parse_append_eq hx, hy]
  · rw [Node.parse_append_eq hx, hy]
    cases e with
    | missingRoot => exact absurd rfl hne
    | _ => rfl
  · obtain ⟨a, hread, ha⟩ := Node.exists_read_of_parse hx
    rw [Node.parse_eq, Node.parse_eq, String.append_assoc, String.toList_append,
      String.toList_append, String.toList_append, Assembly.read_append hread ha,
      Assembly.read_append hread ha, Assembly.read_append_of_notMem ha hraw]

/-- An element, and behind it another one, a space, elements that are not closed,
and a reference without an end in front of one. -/
theorem Node.parse_append_of_element :
    Node.parse ("<a k='1'>t</a>" ++ "\ufeff&y<b/>") = .ok (.element "a" [("k", "1")] [.text "t"])
      ∧ Node.parse ("<a k='1'>t</a>" ++ " ") = .ok (.element "a" [("k", "1")] [.text "t"])
      ∧ Node.parse ("<a k='1'>t</a>" ++ "<b><c>") = .error (.unclosedElement "c")
      ∧ Node.parse ("<a k='1'>t</a>" ++ "&x" ++ "<b>")
        = Node.parse ("<a k='1'>t</a>" ++ "<b>") := by
  have hx : Node.parse "<a k='1'>t</a>" = .ok (.element "a" [("k", "1")] [.text "t"]) := by
    with_unfolding_all rfl
  refine ⟨?_, ?_, ?_, ?_⟩
  · exact ((Node.parse_append _ _).1 _ hx).1 (.element "b" [] []) (by with_unfolding_all rfl)
  · exact ((Node.parse_append _ _).1 _ hx).2.1 (by with_unfolding_all rfl)
  · exact ((Node.parse_append _ _).1 _ hx).2.2 _ (by decide) (by with_unfolding_all rfl)
  · exact (Node.parse_append _ _).2 (.inr ⟨_, hx⟩) _ (by decide)

end WidgetMarkup
