import WidgetMarkup.Markup.Document

/-!
# A document is what its marks say

A tree that is written down in document order leaves a row of marks: an
element begins, an element ends, and texts and comments stand in between. The
items of markup say the same marks – an empty tag says two of them, and an
instruction or a document type says none.

Putting items together undoes the writing down. The marks of a tree, met at
any place, add this tree there (`Assembly.foldl_add_marks`), so a tree is
known by its marks; and where all tags that were opened get closed, the marks
between a start and its end are those of a row of trees
(`exists_row_of_leftOpen?`). So the document is the tree whose marks stand
between the first start and the end that belongs to it, and there is no other
way to read it.
-/

namespace WidgetMarkup

open Xml

/-- **What is marked in a document**, from left to right. -/
inductive Mark where
  /-- An element begins. -/
  | start (tag : String) (attributes : List (String × String))
  /-- An element ends. -/
  | stop (tag : String)
  /-- A text, or a section of character data. -/
  | text (content : String)
  /-- A comment. -/
  | comment (content : String)
deriving DecidableEq, Repr

/-- Does an element begin here? -/
def Mark.isStart : Mark → Bool
  | start .. => true
  | _ => false

namespace Node

mutual

/-- **The marks of a tree**, in document order. -/
def marks : Node → List Mark
  | .element tag attributes children =>
    .start tag attributes :: (marksAll children ++ [.stop tag])
  | .text content => [.text content]
  | .comment content => [.comment content]

/-- The marks of a row of trees. -/
def marksAll : List Node → List Mark
  | [] => []
  | n :: more => marks n ++ marksAll more

end

end Node

/-- **The marks that an item says**, unless an attribute or a reference in it
is wrong. -/
def Xml.Item.marks? : Item → Option (List Mark)
  | openTag content =>
    (StartTag.read content).toOption.map fun t => [.start t.name t.attributes]
  | emptyTag content =>
    (StartTag.read content).toOption.map fun t => [.start t.name t.attributes, .stop t.name]
  | closeTag name => some [.stop (String.ofList name)]
  | text raw => (expand raw).toOption.map fun content => [.text (String.ofList content)]
  | cdata content => some [.text (String.ofList content)]
  | comment content => some [.comment (String.ofList content)]
  | instruction _ => some []
  | doctype _ => some []

/-- **The tags that are left open**, innermost first, by marks that are met
with these tags open. There is no answer where an end does not fit the
innermost open tag. -/
def leftOpen? : List String → List Mark → Option (List String)
  | opened, [] => some opened
  | opened, .start tag _ :: more => leftOpen? (tag :: opened) more
  | [], .stop _ :: _ => none
  | tag :: opened, .stop name :: more => if name = tag then leftOpen? opened more else none
  | opened, .text _ :: more => leftOpen? opened more
  | opened, .comment _ :: more => leftOpen? opened more

/-! ## Marks between a start and its end -/

theorem leftOpen?_append (opened : List String) (marks more : List Mark) :
    leftOpen? opened (marks ++ more) = (leftOpen? opened marks).bind (leftOpen? · more) := by
  induction opened, marks using leftOpen?.induct with
  | case1 opened => rfl
  | case2 opened tag attributes marks ih => exact ih
  | case3 => rfl
  | case4 opened tag marks ih => simpa [leftOpen?] using ih
  | case5 tag opened name marks hne => simp [leftOpen?, hne]
  | case6 opened content marks ih => simpa [leftOpen?] using ih
  | case7 opened content marks ih => simpa [leftOpen?] using ih

/-- **An element that gets closed has trees inside**, one after another, up to
its end. -/
theorem exists_row_of_leftOpen? {tag : String} {opened left : List String} {marks : List Mark}
    (h : leftOpen? (tag :: opened) marks = some left) (hleft : left.length ≤ opened.length) :
    ∃ row rest, marks = Node.marksAll row ++ .stop tag :: rest
      ∧ leftOpen? opened rest = some left := by
  match marks with
  | [] =>
    obtain rfl : tag :: opened = left := by simpa [leftOpen?] using h
    exact absurd hleft (Nat.not_succ_le_self _)
  | .stop name :: more =>
    obtain ⟨rfl, hmore⟩ : name = tag ∧ leftOpen? opened more = some left := by
      simpa [leftOpen?] using h
    exact ⟨[], more, rfl, hmore⟩
  | .text content :: more =>
    have hmore : leftOpen? (tag :: opened) more = some left := h
    obtain ⟨row, rest, rfl, hrest⟩ := exists_row_of_leftOpen? hmore hleft
    exact ⟨.text content :: row, rest, rfl, hrest⟩
  | .comment content :: more =>
    have hmore : leftOpen? (tag :: opened) more = some left := h
    obtain ⟨row, rest, rfl, hrest⟩ := exists_row_of_leftOpen? hmore hleft
    exact ⟨.comment content :: row, rest, rfl, hrest⟩
  | .start inner attributes :: more =>
    -- the inner element is closed first, and then the row goes on
    have hmore : leftOpen? (inner :: tag :: opened) more = some left := h
    obtain ⟨children, after, rfl, hafter⟩ := exists_row_of_leftOpen? hmore
      (Nat.le_succ_of_le hleft)
    obtain ⟨row, rest, rfl, hrest⟩ := exists_row_of_leftOpen? hafter hleft
    refine ⟨.element inner attributes children :: row, rest, ?_, hrest⟩
    simp [Node.marksAll, Node.marks]
termination_by marks.length

/-- Before the first start nothing is opened. -/
theorem leftOpen?_nil_of_not_isStart {before marks : List Mark} {left : List String}
    (hbefore : ∀ m ∈ before, m.isStart = false)
    (h : leftOpen? [] (before ++ marks) = some left) : leftOpen? [] marks = some left := by
  induction before with
  | nil => exact h
  | cons m before ih =>
    obtain ⟨hm, hmore⟩ := List.forall_mem_cons.mp hbefore
    cases m with
    | start tag attributes => cases hm
    | stop tag => cases h
    | text content => exact ih hmore h
    | comment content => exact ih hmore h

/-- **Where everything is closed, the first element can be cut out.** -/
theorem exists_marks_of_leftOpen? {marks : List Mark} (h : leftOpen? [] marks = some [])
    (hstart : ∃ m ∈ marks, m.isStart = true) :
    ∃ (n : Node) (before after : List Mark), n.isElement = true
      ∧ marks = before ++ n.marks ++ after ∧ ∀ m ∈ before, m.isStart = false := by
  obtain ⟨m, hfirst⟩ := Option.isSome_iff_exists.mp (List.find?_isSome.mpr hstart)
  obtain ⟨hm, before, more, rfl, hnone⟩ := List.find?_eq_some_iff_append.mp hfirst
  have hbefore : ∀ m ∈ before, m.isStart = false := by simpa using hnone
  cases m with
  | start tag attributes =>
    obtain ⟨children, after, rfl, -⟩ := exists_row_of_leftOpen?
      (leftOpen?_nil_of_not_isStart hbefore h) (Nat.le_refl _)
    refine ⟨.element tag attributes children, before, after, rfl, ?_, hbefore⟩
    simp [Node.marks]
  | _ => cases hm

namespace Assembly

/-! ## Marks put together -/

/-- **Adds one mark.** -/
def add (a : Assembly) : Mark → Assembly
  | .start tag attributes => { a with opened := ⟨tag, attributes, []⟩ :: a.opened }
  | .stop _ =>
    match a.opened with
    | [] => a
    | e :: outer => { a with opened := outer }.attach e.close
  | .text content => a.attachInside (.text content)
  | .comment content => a.attachInside (.comment content)

/-- The tags of the open elements, innermost first. -/
def tags (a : Assembly) : List String :=
  a.opened.map OpenElement.tag

theorem tags_attach (a : Assembly) (n : Node) : (a.attach n).tags = a.tags := by
  unfold attach tags
  split <;> simp_all

theorem tags_attachInside (a : Assembly) (n : Node) : (a.attachInside n).tags = a.tags := by
  unfold attachInside
  split
  · rfl
  · exact tags_attach a n

/-- **The open elements are those whose tags are left open.** -/
theorem tags_foldl_add {a : Assembly} {marks : List Mark} {left : List String}
    (h : leftOpen? a.tags marks = some left) : (marks.foldl add a).tags = left := by
  induction marks generalizing a with
  | nil => simpa [leftOpen?] using h
  | cons m marks ih =>
    refine ih ?_
    cases m with
    | start tag attributes => exact h
    | stop name =>
      cases hopened : a.opened with
      | nil => simp [tags, hopened, leftOpen?] at h
      | cons e outer =>
        obtain ⟨-, hmore⟩ : name = e.tag
            ∧ leftOpen? (outer.map OpenElement.tag) marks = some left := by
          simpa [tags, hopened, leftOpen?] using h
        simp only [add, hopened]
        rw [tags_attach]
        exact hmore
    | text content =>
      show leftOpen? (a.attachInside _).tags marks = _
      rw [tags_attachInside]
      simpa [leftOpen?] using h
    | comment content =>
      show leftOpen? (a.attachInside _).tags marks = _
      rw [tags_attachInside]
      simpa [leftOpen?] using h

/-- The marks of a row of trees add the row inside the element that is open. -/
theorem foldl_add_marksAll (e : OpenElement) (outer : List OpenElement) (root : Option Node)
    (row : List Node) :
    (Node.marksAll row).foldl add ⟨e :: outer, root⟩
      = ⟨{ e with reversed := row.reverse ++ e.reversed } :: outer, root⟩ := by
  match row with
  | [] => rfl
  | .text content :: more =>
    have hmore := foldl_add_marksAll { e with reversed := .text content :: e.reversed } outer root
      more
    simpa [Node.marksAll, Node.marks, add, attachInside, attach] using hmore
  | .comment content :: more =>
    have hmore :=
      foldl_add_marksAll { e with reversed := .comment content :: e.reversed } outer root
      more
    simpa [Node.marksAll, Node.marks, add, attachInside, attach] using hmore
  | .element tag attributes children :: more =>
    have hinner := foldl_add_marksAll ⟨tag, attributes, []⟩ (e :: outer) root children
    have hmore := foldl_add_marksAll
      { e with reversed := .element tag attributes children :: e.reversed } outer root more
    rw [Node.marksAll, Node.marks, List.foldl_append, List.foldl_cons, List.foldl_append]
    show (Node.marksAll more).foldl add ([.stop tag].foldl add ((Node.marksAll children).foldl add
      ⟨⟨tag, attributes, []⟩ :: e :: outer, root⟩)) = _
    rw [hinner]
    simpa [add, attach, OpenElement.close] using hmore

/-- **The marks of an element add the element**, wherever it stands. -/
theorem foldl_add_marks {n : Node} (hn : n.isElement = true) (a : Assembly) :
    n.marks.foldl add a = a.attach n := by
  cases n with
  | element tag attributes children =>
    rw [Node.marks, List.foldl_cons, List.foldl_append]
    show [Mark.stop tag].foldl add ((Node.marksAll children).foldl add
      ⟨⟨tag, attributes, []⟩ :: a.opened, a.root⟩) = _
    rw [foldl_add_marksAll]
    simp [add, OpenElement.close]
  | text content => cases hn
  | comment content => cases hn

/-- Outside all elements nothing is added before the first start. -/
theorem foldl_add_of_not_isStart {marks : List Mark} (h : ∀ m ∈ marks, m.isStart = false)
    (root : Option Node) : marks.foldl add ⟨[], root⟩ = ⟨[], root⟩ := by
  induction marks with
  | nil => rfl
  | cons m marks ih =>
    obtain ⟨hm, hmarks⟩ := List.forall_mem_cons.mp h
    cases m with
    | start tag attributes => cases hm
    | _ => exact ih hmarks

theorem root_attach {a : Assembly} {n : Node} (h : a.root = some n) (m : Node) :
    (a.attach m).root = some n := by
  unfold attach
  split <;> simp [h]

theorem root_attachInside {a : Assembly} {n : Node} (h : a.root = some n) (m : Node) :
    (a.attachInside m).root = some n := by
  unfold attachInside
  split
  · exact h
  · exact root_attach h m

/-- **A document that is found stays.** -/
theorem root_foldl_add {a : Assembly} {n : Node} (h : a.root = some n) (marks : List Mark) :
    (marks.foldl add a).root = some n := by
  induction marks generalizing a with
  | nil => exact h
  | cons m marks ih =>
    refine ih ?_
    cases m with
    | start tag attributes => exact h
    | stop tag =>
      unfold add
      dsimp only
      split
      · exact h
      · next e outer _ => exact @root_attach ⟨outer, a.root⟩ n h e.close
    | text content => exact root_attachInside h _
    | comment content => exact root_attachInside h _

/-- **The document is the element whose marks come first.** -/
theorem root_of_marks {n : Node} {before after : List Mark} (hn : n.isElement = true)
    (hbefore : ∀ m ∈ before, m.isStart = false) :
    ((before ++ n.marks ++ after).foldl add {}).root = some n := by
  rw [List.foldl_append, List.foldl_append]
  refine root_foldl_add ?_ after
  rw [foldl_add_of_not_isStart hbefore, foldl_add_marks hn]
  rfl

/-! ## Items put together -/

/-- What an attempt that came out well came to. -/
theorem eq_ok_of_toOption {ε α : Type} {attempt : Except ε α} {x : α}
    (h : attempt.toOption = some x) : attempt = .ok x := by
  cases attempt with
  | error e => cases h
  | ok y => exact congrArg _ (Option.some.inj h)

/-- **An item adds its marks**, if its end fits. -/
theorem step_eq {a : Assembly} {i : Item} {marks : List Mark} {left : List String}
    (hmarks : i.marks? = some marks) (hleft : leftOpen? a.tags marks = some left) :
    a.step i = .ok (marks.foldl add a) := by
  cases i with
  | openTag content =>
    obtain ⟨t, ht, rfl⟩ := Option.map_eq_some_iff.mp hmarks
    rw [step, eq_ok_of_toOption ht]
    rfl
  | emptyTag content =>
    obtain ⟨t, ht, rfl⟩ := Option.map_eq_some_iff.mp hmarks
    rw [step, eq_ok_of_toOption ht]
    rfl
  | closeTag name =>
    cases hmarks
    cases hopened : a.opened with
    | nil => simp [tags, hopened, leftOpen?] at hleft
    | cons e outer =>
      obtain ⟨hname, -⟩ : String.ofList name = e.tag
          ∧ leftOpen? (outer.map OpenElement.tag) [] = some left := by
        simpa [tags, hopened, leftOpen?] using hleft
      simp [step, add, hopened, hname]
  | text raw =>
    obtain ⟨content, hcontent, rfl⟩ := Option.map_eq_some_iff.mp hmarks
    cases hopened : a.opened with
    | nil => simp [step, add, attachInside, hopened]
    | cons e outer => simp [step, add, hopened, eq_ok_of_toOption hcontent]
  | cdata content =>
    cases hmarks
    rfl
  | comment content =>
    cases hmarks
    rfl
  | instruction content =>
    cases hmarks
    rfl
  | doctype content =>
    cases hmarks
    rfl

/-- **Items add their marks**, one after another. -/
theorem addAll_eq {a : Assembly} {items : List Item} {rows : List (List Mark)}
    {left : List String} (hrows : items.mapM Item.marks? = some rows)
    (hleft : leftOpen? a.tags rows.flatten = some left) :
    a.addAll items = .ok (rows.flatten.foldl add a) := by
  induction items generalizing a rows with
  | nil =>
    cases hrows
    rfl
  | cons i items ih =>
    rw [List.mapM_cons, Option.bind_eq_bind, Option.bind_eq_some_iff] at hrows
    obtain ⟨marks, hmarks, hrows⟩ := hrows
    rw [Option.bind_eq_bind, Option.bind_eq_some_iff] at hrows
    obtain ⟨more, hmore, heq⟩ := hrows
    obtain rfl : marks :: more = rows := Option.some.inj heq
    rw [List.flatten_cons, leftOpen?_append, Option.bind_eq_some_iff] at hleft
    obtain ⟨middle, hmiddle, hleft⟩ := hleft
    rw [← tags_foldl_add hmiddle] at hleft
    rw [addAll, List.foldlM_cons, step_eq hmarks hmiddle, List.flatten_cons, List.foldl_append]
    exact ih hmore hleft

end Assembly

/-- **What a row of items is read as**, if attributes and references are in
order and every end fits the innermost open tag. Let the marks of the items
leave the tags `opened` open.

* If some are left open, the innermost of them is reported, also where an
  element was complete before.
* If none are, and no element begins anywhere, there is no document.
* If none are, and some element begins, the document is the element whose marks
  begin with the first start. No other element has its marks there, and the
  marks before and after it do not matter, nor does any item that says none. -/
theorem Node.ofItems_of_marks {items : List Item} {rows : List (List Mark)}
    {opened : List String} (hrows : items.mapM Item.marks? = some rows)
    (hopened : leftOpen? [] rows.flatten = some opened) :
    (∀ tag outer, opened = tag :: outer →
        Node.ofItems items none = .error (.unclosedElement tag))
      ∧ (opened = [] → (∀ m ∈ rows.flatten, m.isStart = false) →
        Node.ofItems items none = .error .missingRoot)
      ∧ (opened = [] → (∃ m ∈ rows.flatten, m.isStart = true) →
        ∃ document : Node, Node.ofItems items none = .ok document
          ∧ document.isElement = true
          ∧ (∃ before after, rows.flatten = before ++ document.marks ++ after
            ∧ ∀ m ∈ before, m.isStart = false)
          ∧ ∀ (n : Node) (before after : List Mark), n.isElement = true →
            rows.flatten = before ++ n.marks ++ after →
            (∀ m ∈ before, m.isStart = false) → n = document) := by
  generalize hassembly : rows.flatten.foldl Assembly.add {} = a
  have hread : Node.ofItems items none = a.finish := by
    unfold Node.ofItems
    rw [@Assembly.addAll_eq {} _ _ _ hrows hopened, hassembly]
  have htags : a.tags = opened := by
    rw [← hassembly]
    exact Assembly.tags_foldl_add hopened
  rw [hread]
  refine ⟨fun tag outer htag => ?_, fun hnil hnone => ?_, fun hnil hsome => ?_⟩
  · rw [htag] at htags
    obtain ⟨e, more, hopen, rfl, -⟩ := List.map_eq_cons_iff.mp htags
    rw [Assembly.finish, hopen]
  · rw [← hassembly, Assembly.foldl_add_of_not_isStart hnone]
    rfl
  · rw [hnil] at hopened htags
    have hopen : a.opened = [] := List.map_eq_nil_iff.mp htags
    have hroot : ∀ (n : Node) (before after : List Mark), n.isElement = true →
        rows.flatten = before ++ n.marks ++ after → (∀ m ∈ before, m.isStart = false) →
        a.root = some n := by
      intro n before after hn hcut hbefore
      rw [← hassembly, hcut]
      exact Assembly.root_of_marks hn hbefore
    obtain ⟨document, before, after, helement, hcut, hbefore⟩ :=
      exists_marks_of_leftOpen? hopened hsome
    have hdocument := hroot document before after helement hcut hbefore
    refine ⟨document, ?_, helement, ⟨before, after, hcut, hbefore⟩,
      fun n before' after' hn hcut' hbefore' => ?_⟩
    · rw [Assembly.finish, hopen, hdocument]
    · exact Option.some.inj ((hroot n before' after' hn hcut' hbefore').symm.trans hdocument)

/-- A text in front, an element with two texts and an element in it, and a
second element behind. -/
def memo : List Item :=
  [.instruction "xml".toList, .text "t".toList, .openTag "a k='1'".toList, .text "&lt;".toList,
    .cdata "<c>".toList, .instruction "i".toList, .emptyTag "e".toList, .closeTag "a".toList,
    .comment "d".toList, .emptyTag "f".toList]

/-- The marks of the memo, item by item. -/
def memoMarks : List (List Mark) :=
  [[], [.text "t"], [.start "a" [("k", "1")]], [.text "<"], [.text "<c>"], [],
    [.start "e" [], .stop "e"], [.stop "a"], [.comment "d"], [.start "f" [], .stop "f"]]

/-- The first element is read; and where another one is opened behind and not
closed, that one is reported. -/
theorem Node.ofItems_of_marks_memo :
    Node.ofItems memo none
        = .ok (.element "a" [("k", "1")] [.text "<", .text "<c>", .element "e" [] []])
      ∧ Node.ofItems (memo ++ [Item.openTag ['g']]) none = .error (.unclosedElement "g") := by
  have hrows : memo.mapM Item.marks? = some memoMarks := by decide +kernel
  have hclosed : leftOpen? [] memoMarks.flatten = some [] := by decide
  have hmore : (memo ++ [Item.openTag ['g']]).mapM Item.marks?
      = some (memoMarks ++ [[Mark.start "g" []]]) := by
    decide +kernel
  have hopen : leftOpen? [] (memoMarks ++ [[Mark.start "g" []]]).flatten = some ["g"] := by decide
  obtain ⟨-, -, hdocument⟩ := Node.ofItems_of_marks hrows hclosed
  obtain ⟨hunclosed, -, -⟩ := Node.ofItems_of_marks hmore hopen
  obtain ⟨document, hread, -, -, hunique⟩ := hdocument rfl (by decide)
  refine ⟨?_, hunclosed "g" [] rfl⟩
  rw [hread, ← hunique (.element "a" [("k", "1")] [.text "<", .text "<c>", .element "e" [] []])
    [.text "t"] [.comment "d", .start "f" [], .stop "f"] rfl rfl (by decide)]

end WidgetMarkup
