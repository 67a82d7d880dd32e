import WidgetMarkup.Selector.Parser

/-!
# The grammar of selectors

What the text of a selector may look like, and what it then says, is given
here without reading it. A `SelectorText` is a selector as it stands on
paper, with every piece of white space in its place: compounds with gaps
between them, each compound a head and a row of parts. `text` is what is
written, and `reading` is what it says.

The pieces cannot be put together wrongly. A name is made of name characters,
what stands between square brackets does not close them and is a condition, a
gap holds white space and at most one `>`, and a compound is not empty. So
whatever has the type is a selector, and the grammar is the type.

Some selectors have many texts. White space in gaps and brackets says
nothing, of several `#name` in a compound only the last counts, and `*` in
front of a part may as well be left out.
-/

namespace WidgetMarkup

open Text

/-- **A name**, as it is written. -/
abbrev Name : Type := { s : List Char // isName s = true }

/-! ## Between square brackets -/

/-- **What is left of a value without quotes**: of a pair around it, one is
taken off, and a value that no pair stands around stays as it is. -/
inductive Unquoted : List Char → List Char → Prop where
  /-- A pair of double quotes. -/
  | double (v : List Char) : Unquoted ('"' :: (v ++ ['"'])) v
  /-- A pair of single quotes. -/
  | single (v : List Char) : Unquoted ('\'' :: (v ++ ['\''])) v
  /-- No pair. -/
  | bare {v : List Char} : (∀ w, v ≠ '"' :: (w ++ ['"'])) → (∀ w, v ≠ '\'' :: (w ++ ['\''])) →
      Unquoted v v

/-- **What stands between square brackets** is a name, or a name, `=` and a
value. The `=` is the first one, so the value may hold others. White space
around the name and around the value says nothing. -/
inductive Bracketed : List Char → AttributeTest → Prop where
  /-- A name: the attribute is there. -/
  | named {name : List Char} : '=' ∉ name → allBlank name = false →
      Bracketed name ⟨String.ofList (trim name), none⟩
  /-- A name and a value: the attribute has this value. -/
  | valued {name value bare : List Char} : '=' ∉ name → allBlank name = false →
      Unquoted (trim value) bare →
      Bracketed (name ++ '=' :: value) ⟨String.ofList (trim name), some (String.ofList bare)⟩

/-! ## Compounds -/

/-- **A part of a compound.** -/
inductive Part where
  /-- `#name` -/
  | id (name : Name)
  /-- `.name` -/
  | word (name : Name)
  /-- `[...]`, with what stands between the brackets and the condition that
  this is. -/
  | condition (inner : List Char) (test : AttributeTest) (closed : ']' ∉ inner)
      (reads : Bracketed inner test)

namespace Part

/-- The part as it is written. -/
def text : Part → List Char
  | id name => '#' :: name.1
  | word name => '.' :: name.1
  | condition inner _ _ _ => '[' :: (inner ++ [']'])

/-- The value for the attribute `id`. -/
def id? : Part → Option String
  | id name => some (String.ofList name.1)
  | _ => none

/-- The word for the attribute `class`. -/
def word? : Part → Option String
  | word name => some (String.ofList name.1)
  | _ => none

/-- The condition on an attribute. -/
def test? : Part → Option AttributeTest
  | condition _ test _ _ => some test
  | _ => none

end Part

/-- **What a compound may begin with.** -/
inductive Head where
  /-- Nothing. -/
  | none
  /-- `*` -/
  | star
  /-- A tag. -/
  | tag (name : Name)

namespace Head

/-- The head as it is written. -/
def text : Head → List Char
  | none => []
  | star => ['*']
  | tag name => name.1

/-- The tag. -/
def tag? : Head → Option String
  | tag name => some (String.ofList name.1)
  | _ => Option.none

end Head

/-- **A compound**, as it is written: a head and parts, and not nothing. -/
structure CompoundText where
  /-- What it begins with. -/
  head : Head
  /-- The parts, in order. -/
  parts : List Part
  /-- Something is written. -/
  nonempty : head.text ++ parts.flatMap Part.text ≠ []

namespace CompoundText

/-- The compound as it is written. -/
def text (c : CompoundText) : List Char :=
  c.head.text ++ c.parts.flatMap Part.text

/-- **What the compound says**: the tag it begins with, the last `#name`, and
all words and conditions in the order in which they are written. -/
def reading (c : CompoundText) : Compound where
  tag := c.head.tag?
  id := (c.parts.filterMap Part.id?).getLast?
  classes := c.parts.filterMap Part.word?
  attributes := c.parts.filterMap Part.test?

end CompoundText

/-! ## Selectors -/

/-- **What stands between two compounds**: white space, or one `>` with white
space around it at will. -/
inductive Gap where
  /-- White space, and some. -/
  | space (s : List Char) (blank : allBlank s = true) (nonempty : s ≠ [])
  /-- `>` -/
  | arrow (before after : List Char) (blankBefore : allBlank before = true)
      (blankAfter : allBlank after = true)

namespace Gap

/-- The gap as it is written. -/
def text : Gap → List Char
  | space s _ _ => s
  | arrow before after _ _ => before ++ '>' :: after

/-- What the gap stands for. -/
def combinator : Gap → Combinator
  | space _ _ _ => .descendant
  | arrow _ _ _ _ => .child

end Gap

/-- **A selector**, as it is written: a compound, and further compounds with a
gap before each. -/
structure SelectorText where
  /-- The first compound. -/
  first : CompoundText
  /-- The others, each with the gap before it. -/
  rest : List (Gap × CompoundText)

namespace SelectorText

/-- Gaps and compounds as they are written. -/
def tail (rest : List (Gap × CompoundText)) : List Char :=
  rest.flatMap fun (gap, c) => gap.text ++ c.text

/-- The selector as it is written. -/
def text (t : SelectorText) : List Char :=
  t.first.text ++ tail t.rest

/-- What the compounds say, from left to right. -/
def compounds (t : SelectorText) : List Compound :=
  t.first.reading :: t.rest.map fun (_, c) => c.reading

/-- What the gaps stand for, from left to right. -/
def combinators (t : SelectorText) : List Combinator :=
  t.rest.map fun (gap, _) => gap.combinator

/-- **What the selector says**: the last compound is the key, and the others,
from right to left, are conditions on the ancestors, each with the combinator
to its right. -/
def reading (t : SelectorText) : Selector where
  key := t.compounds.getLast (List.cons_ne_nil _ _)
  ancestors := (t.combinators.zip t.compounds.dropLast).reverse

end SelectorText

end WidgetMarkup
