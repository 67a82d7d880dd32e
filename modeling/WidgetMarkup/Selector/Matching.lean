import WidgetMarkup.Selector.Basic
import WidgetMarkup.Text.Blank
import WidgetMarkup.Text.LetterCase

/-!
# Which elements a selector selects

An element is judged together with the chain of its ancestors, parent
first. The key of the selector looks at the element alone; each further
condition looks out along the chain, the child combinator one step and the
descendant combinator any number of steps. An ancestor that meets a
descendant condition may still turn out to be the wrong one, when a
condition further out fails from there: `acceptsChain` then goes on to the
next.
-/

namespace WidgetMarkup

/-- **What a selector can see of an element**: its tag and its
attributes. -/
structure Element where
  /-- The tag as it was written. -/
  tag : String
  /-- Names and values, of which the first of a name counts. -/
  attributes : List (String × String)
deriving DecidableEq, Inhabited

/-- The value of an attribute, if the element has it. -/
def Element.attribute? (e : Element) (name : String) : Option String :=
  e.attributes.lookup name

/-- The words of the attribute `class`. -/
def Element.classes (e : Element) : List String :=
  (Text.words ((e.attribute? "class").getD "").toList).map String.ofList

/-- Does the element meet the condition on an attribute? -/
def AttributeTest.accepts (t : AttributeTest) (e : Element) : Bool :=
  match e.attribute? t.name, t.value with
  | none, _ => false
  | some _, none => true
  | some found, some wanted => found == wanted

/-- **Does the element meet every condition** of the compound? -/
def Compound.accepts (c : Compound) (e : Element) : Bool :=
  c.tag.all (Text.sameName e.tag)
    && c.id.all (fun id => e.attribute? "id" == some id)
    && c.classes.all e.classes.contains
    && c.attributes.all (·.accepts e)

/-- **Are the ancestor conditions met** by a chain of ancestors, parent
first? -/
def acceptsChain : List (Combinator × Compound) → List Element → Bool
  | [], _ => true
  | _ :: _, [] => false
  | (.child, c) :: conditions, e :: chain =>
    c.accepts e && acceptsChain conditions chain
  | (.descendant, c) :: conditions, e :: chain =>
    c.accepts e && acceptsChain conditions chain
      || acceptsChain ((.descendant, c) :: conditions) chain
termination_by structural _ chain => chain

/-- The nearest `b` is the wrong one, its parent being no `a`, and the one
farther out is found. -/
example :
    let b : Element := ⟨"b", []⟩
    acceptsChain [(.descendant, { tag := some "b" }), (.child, { tag := some "a" })]
      [b, ⟨"x", []⟩, b, ⟨"A", []⟩] = true := by
  decide

/-- **Is the element selected**, given its ancestors with the parent
first? -/
def Selector.accepts (s : Selector) (e : Element) (ancestors : List Element) : Bool :=
  s.key.accepts e && acceptsChain s.ancestors ancestors

end WidgetMarkup
