import WidgetMarkup.LoadError
import WidgetMarkup.Markup.Node
import WidgetMarkup.Xml.Item

/-!
# From items to a document

The items of markup are put together from left to right. What is open at a
moment is a stack of elements without their ends; a closing tag must fit the
innermost of them and completes it, and what is complete becomes a child of
the element around it.

The document is the first element that is not inside another. Further
elements beside it are read, and can be at fault, but are not kept. Outside
all elements, texts are not even looked at, and instructions and document
types leave no trace anywhere.

An item in front of a fault comes first: its own faults win. And if the
markup has an end, an element left open is reported before a missing one.
-/

namespace WidgetMarkup

open Xml

/-- An element whose closing tag has not come yet. -/
structure OpenElement where
  /-- The tag. -/
  tag : String
  /-- The attributes. -/
  attributes : List (String × String)
  /-- The children so far, the last one first. -/
  reversed : List Node

/-- The element, closed. -/
def OpenElement.close (e : OpenElement) : Node :=
  .element e.tag e.attributes e.reversed.reverse

/-- **A document in the making.** -/
structure Assembly where
  /-- The elements that are open, innermost first. -/
  opened : List OpenElement := []
  /-- The first complete element outside all others, if there is one yet. -/
  root : Option Node := none

namespace Assembly

/-- Adds a complete element where the assembly stands. -/
def attach (a : Assembly) (n : Node) : Assembly :=
  match a.opened with
  | [] => { a with root := a.root.or (some n) }
  | e :: outer => { a with opened := { e with reversed := n :: e.reversed } :: outer }

/-- Adds a text or a comment, which is kept inside an element only. -/
def attachInside (a : Assembly) (n : Node) : Assembly :=
  match a.opened with
  | [] => a
  | _ :: _ => a.attach n

/-- **Adds one item.** -/
def step (a : Assembly) : Item → Except LoadError Assembly
  | .openTag content =>
    match StartTag.read content with
    | .error fault => .error (.markup fault)
    | .ok t => .ok { a with opened := ⟨t.name, t.attributes, []⟩ :: a.opened }
  | .emptyTag content =>
    match StartTag.read content with
    | .error fault => .error (.markup fault)
    | .ok t => .ok (a.attach (.element t.name t.attributes []))
  | .closeTag name =>
    let found := String.ofList name
    match a.opened with
    | [] => .error (.markup (.unmatchedClose found))
    | e :: outer =>
      if found = e.tag then .ok ({ a with opened := outer }.attach e.close)
      else .error (.markup (.mismatchedClose e.tag found))
  | .text raw =>
    match a.opened with
    | [] => .ok a
    | _ :: _ =>
      match expand raw with
      | .error fault => .error (.markup (.reference fault))
      | .ok content => .ok (a.attachInside (.text (String.ofList content)))
  | .cdata content => .ok (a.attachInside (.text (String.ofList content)))
  | .comment content => .ok (a.attachInside (.comment (String.ofList content)))
  | .instruction _ => .ok a
  | .doctype _ => .ok a

/-- Adds a row of items. -/
def addAll (a : Assembly) (items : List Item) : Except LoadError Assembly :=
  items.foldlM step a

/-- The document, if the assembly is complete. -/
def finish (a : Assembly) : Except LoadError Node :=
  match a.opened, a.root with
  | e :: _, _ => .error (.unclosedElement e.tag)
  | [], none => .error .missingRoot
  | [], some root => .ok root

end Assembly

/-- **The document that a row of items makes up**, given the fault that the
row ends with, if it ends with one. -/
def Node.ofItems (items : List Item) (fault : Option Fault) : Except LoadError Node :=
  match Assembly.addAll {} items, fault with
  | .error error, _ => .error error
  | .ok _, some fault => .error (.markup fault)
  | .ok a, none => a.finish

/-- **Reads a document.** -/
def Node.parse (text : String) : Except LoadError Node :=
  let (items, fault) := items (dropByteOrderMark text.toList)
  Node.ofItems items fault

/-- References are replaced in an element, text outside is not looked at, and
a second element beside the first is not kept. -/
example : ((Node.parse "&x;<a k='1'>b&amp;c<!--d--></a>&y;<e/>").toOption.map
    fun n => (n.attribute? "k", n.leadingText?, n.children.length))
      = some (some "1", some "b&c", 2) := by
  decide +kernel

/-- What is open is reported before what is missing. -/
example : (["<a><b>", "<a/><b>", " "].map fun text =>
    match Node.parse text with
    | .error error => some error
    | .ok _ => none)
      = [some (.unclosedElement "b"), some (.unclosedElement "b"), some .missingRoot] := by
  decide +kernel

end WidgetMarkup
