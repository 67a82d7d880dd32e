import WidgetMarkup.Xml.Fault
import WidgetMarkup.Xml.StartTag

/-!
# Markup as a row of items

Before anything is made of it, markup is cut into items: tags, texts,
comments, sections of character data, and the instructions and document
types that say nothing to a reader of elements. The cut looks at the
characters that begin and end an item and at nothing inside it; whether the
attributes of a tag are in order is not asked here.

A cut may end at a fault, and the items before it count all the same: a
fault *inside* one of them comes first. So `items` answers with both, the
items in front of the fault and the fault.
-/

namespace WidgetMarkup.Xml

/-- **One item of markup.** -/
inductive Item where
  /-- The inside of a start tag, without the angle brackets. -/
  | openTag (content : List Char)
  /-- The inside of a tag that ends in `/`, without it: an element without
  content. -/
  | emptyTag (content : List Char)
  /-- The name in a closing tag. -/
  | closeTag (name : List Char)
  /-- Text between tags, its references as they are written. -/
  | text (raw : List Char)
  /-- A section of character data: text in which nothing has a special
  meaning. -/
  | cdata (content : List Char)
  /-- A comment. -/
  | comment (content : List Char)
  /-- A processing instruction or the declaration at the top. -/
  | instruction (content : List Char)
  /-- A document type. -/
  | doctype (content : List Char)
deriving DecidableEq, Repr

/-! ## Where items end -/

/-- Reads a tag up to its `>`. An angle bracket between quotes does not end
the tag; the first argument is the quote that is open. -/
def spanTag : Option Char → List Char → Option (List Char × List Char)
  | _, [] => none
  | some quote, c :: rest =>
    (spanTag (if c = quote then none else some quote) rest).map
      fun (content, after) => (c :: content, after)
  | none, c :: rest =>
    if c = '>' then some ([], rest)
    else
      (spanTag (if c = '"' ∨ c = '\'' then some c else none) rest).map
        fun (content, after) => (c :: content, after)

/-- Reads up to the first `>` that ends the construct, and gives the text
before and after it. Whether a `>` ends it is told from the text before,
which the test is given backwards. -/
def spanUntil (ends : List Char → Bool) (before : List Char) :
    List Char → Option (List Char × List Char)
  | [] => none
  | c :: rest =>
    if c = '>' ∧ ends before then some (before.reverse, rest)
    else spanUntil ends (c :: before) rest

/-- An instruction ends after a question mark. -/
def endsInstruction (before : List Char) : Bool :=
  before.head? == some '?'

/-- A comment ends after two dashes, but the dashes that began it cannot end
it: with the mark in front at least five characters come before. -/
def endsComment (before : List Char) : Bool :=
  before.take 2 == ['-', '-'] && 5 ≤ before.length

/-- Character data ends after two square brackets. -/
def endsCdata (before : List Char) : Bool :=
  before.take 2 == [']', ']']

/-- A document type ends where every `<` in it has been closed. -/
def endsDoctype (before : List Char) : Bool :=
  before.count '<' == before.count '>'

/-- What follows a tag is shorter than the tag with it. -/
theorem length_spanTag {quote : Option Char} {s content rest : List Char}
    (h : spanTag quote s = some (content, rest)) : rest.length < s.length := by
  induction s generalizing quote content rest with
  | nil => simp [spanTag] at h
  | cons c s ih =>
    have step {q : Option Char}
        (h : (spanTag q s).map (fun p => (c :: p.1, p.2)) = some (content, rest)) :
        rest.length < (c :: s).length := by
      obtain ⟨⟨content', rest'⟩, hs, heq⟩ := Option.map_eq_some_iff.mp h
      obtain ⟨-, rfl⟩ : _ ∧ rest' = rest := by simpa using heq
      have := ih hs
      simp only [List.length_cons]
      omega
    cases quote with
    | some q => exact step h
    | none =>
      rw [spanTag] at h
      split at h
      · obtain ⟨-, rfl⟩ : _ ∧ s = rest := by simpa using h
        simp
      · exact step h

/-- What follows a construct is shorter than the construct with it. -/
theorem length_spanUntil {ends : List Char → Bool} {before s content rest : List Char}
    (h : spanUntil ends before s = some (content, rest)) : rest.length < s.length := by
  induction s generalizing before with
  | nil => simp [spanUntil] at h
  | cons c s ih =>
    rw [spanUntil] at h
    split at h
    · obtain ⟨-, rfl⟩ : _ ∧ s = rest := by simpa using h
      simp
    · have := ih h
      simp only [List.length_cons]
      omega

/-! ## What an item is -/

/-- The name in a closing tag: what follows the slash, without the white
space at its end. White space alone is kept as the name. -/
def closingName (content : List Char) : List Char :=
  match content.reverse.dropWhile isSpace with
  | [] => content
  | name => name.reverse

/-- The item made by a tag. -/
def Item.ofTag (content : List Char) : Item :=
  match content with
  | '/' :: name => .closeTag (closingName name)
  | _ =>
    match content.getLast? with
    | some '/' => .emptyTag content.dropLast
    | _ => .openTag content

/-- The item made by an instruction, whose text begins and ends with a
question mark; one question mark cannot be both. -/
def Item.ofInstruction : List Char → Except Fault Item
  | _ :: c :: rest => .ok (.instruction (c :: rest).dropLast)
  | _ => .error (.unclosed .instruction)

/-- The item made by a comment, whose text ends with its dashes. -/
def Item.ofComment : List Char → Except Fault Item
  | '!' :: '-' :: '-' :: rest => .ok (.comment (rest.dropLast.dropLast))
  | _ => .error (.unclosed .comment)

/-- The item made by character data, whose text ends with its brackets. -/
def Item.ofCdata : List Char → Except Fault Item
  | '!' :: '[' :: 'C' :: 'D' :: 'A' :: 'T' :: 'A' :: '[' :: rest =>
    .ok (.cdata rest.dropLast.dropLast)
  | _ => .error (.unclosed .cdata)

/-- The item made by a document type. The keyword may be written in either
case, and a name must follow it. -/
def Item.ofDoctype (content : List Char) : Except Fault Item :=
  if (content.take 8).map Char.toUpper = ['!', 'D', 'O', 'C', 'T', 'Y', 'P', 'E'] then
    match (content.drop 8).dropWhile isSpace with
    | [] => .error .unnamedDoctype
    | name => .ok (.doctype name)
  else .error (.unclosed .doctype)

/-- Completes an item once the text that makes it up is found. -/
def finish (construct : Construct) (make : List Char → Except Fault Item)
    (found : Option (List Char × List Char)) : Except Fault (Item × List Char) :=
  match found with
  | none => .error (.unclosed construct)
  | some (content, rest) => (make content).map fun i => (i, rest)

/-- The item that begins with the `<` in front of the text, and what follows
it. -/
def Item.afterBracket (s : List Char) : Except Fault (Item × List Char) :=
  match s with
  | '!' :: '-' :: _ => finish .comment ofComment (spanUntil endsComment [] s)
  | '!' :: '[' :: _ => finish .cdata ofCdata (spanUntil endsCdata [] s)
  | '!' :: 'D' :: _ | '!' :: 'd' :: _ =>
    finish .doctype ofDoctype (spanUntil endsDoctype [] s)
  | '!' :: _ => .error .strayMark
  | '?' :: _ => finish .instruction ofInstruction (spanUntil endsInstruction [] s)
  | _ => finish .tag (fun content => .ok (ofTag content)) (spanTag none s)

/-- A completed item uses up text. -/
theorem length_finish {construct : Construct} {make : List Char → Except Fault Item}
    {found : Option (List Char × List Char)} {i : Item} {s rest : List Char}
    (hfound : ∀ content rest, found = some (content, rest) → rest.length < s.length)
    (h : finish construct make found = .ok (i, rest)) : rest.length < s.length := by
  cases found with
  | none => cases h
  | some p =>
    obtain ⟨content, rest'⟩ := p
    rw [finish] at h
    cases hm : make content with
    | error f => simp [hm, Except.map] at h
    | ok j =>
      obtain ⟨-, rfl⟩ : j = i ∧ rest' = rest := by simpa [hm, Except.map] using h
      exact hfound _ _ rfl

/-- Reading an item uses up text. -/
theorem Item.length_afterBracket {s rest : List Char} {i : Item}
    (h : Item.afterBracket s = .ok (i, rest)) : rest.length < s.length := by
  unfold Item.afterBracket at h
  split at h
  · exact length_finish (fun _ _ => length_spanUntil) h
  · exact length_finish (fun _ _ => length_spanUntil) h
  · exact length_finish (fun _ _ => length_spanUntil) h
  · exact length_finish (fun _ _ => length_spanUntil) h
  · cases h
  · exact length_finish (fun _ _ => length_spanUntil) h
  · exact length_finish (fun _ _ => length_spanTag) h

/-- **The items of markup**, up to its end or to the first fault, and the
fault if there is one. -/
def items (s : List Char) : List Item × Option Fault :=
  match s with
  | [] => ([], none)
  | '<' :: rest =>
    match _h : Item.afterBracket rest with
    | .error fault => ([], some fault)
    | .ok (i, after) =>
      let (more, fault) := items after
      (i :: more, fault)
  | c :: rest =>
    let (more, fault) := items (rest.dropWhile (· != '<'))
    (.text (c :: rest.takeWhile (· != '<')) :: more, fault)
termination_by s.length
decreasing_by
  · have := Item.length_afterBracket _h
    simp only [List.length_cons]
    omega
  · have := (List.dropWhile_suffix (l := rest) (· != '<')).length_le
    simp only [List.length_cons]
    omega

/-- The text without a byte order mark at its front. -/
def dropByteOrderMark : List Char → List Char
  | '\ufeff' :: rest => rest
  | s => s

end WidgetMarkup.Xml
