/-!
# Selectors

A selector says which elements it selects: by what they are themselves, and
by what they lie in. A `Compound` is the first kind of condition, a
conjunction over tag, id, classes and attributes. A `Selector` is a compound
for the element, its *key*, together with conditions on the ancestors, read
from the element outward: each says how far out to go and what must be found
there.

Reading a selector from left to right meets the outermost compound first, so
each further compound becomes the new key and pushes the old one outward:
`Selector.extend` is this step.
-/

namespace WidgetMarkup

/-- A condition on one attribute. -/
structure AttributeTest where
  /-- The attribute that must be there. -/
  name : String
  /-- The value it must have; any value will do if there is none. -/
  value : Option String
deriving DecidableEq, Inhabited

/-- **A compound selector**: conditions on one element, all of which must
hold. The compound without conditions is met by every element. -/
structure Compound where
  /-- The tag, up to the case of ASCII letters. -/
  tag : Option String := none
  /-- The value of the attribute `id`. -/
  id : Option String := none
  /-- Words that the attribute `class` must hold. -/
  classes : List String := []
  /-- Further conditions on attributes. -/
  attributes : List AttributeTest := []
deriving DecidableEq, Inhabited

/-- How far out from an element the next condition looks. -/
inductive Combinator where
  /-- At some ancestor. -/
  | descendant
  /-- At the parent. -/
  | child
deriving DecidableEq, Inhabited

/-- **A selector**: a compound for the element itself, and conditions on its
ancestors. -/
structure Selector where
  /-- What the element must be. -/
  key : Compound
  /-- What must be found outside it, nearest first; each combinator leads
  from the condition before it to its own. -/
  ancestors : List (Combinator × Compound) := []
deriving DecidableEq, Inhabited

/-- The selector with one more compound to its right: the new compound is
the key, and the old key becomes the nearest ancestor condition. -/
def Selector.extend (s : Selector) (c : Combinator) (key : Compound) : Selector :=
  ⟨key, (c, s.key) :: s.ancestors⟩

end WidgetMarkup
