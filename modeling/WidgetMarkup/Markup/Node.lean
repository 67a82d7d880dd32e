/-!
# Markup documents

A document is a tree: an element has a tag, attributes and a row of
children, and a child is an element again, a text or a comment. What is made
of a document looks at it in two ways. It goes through the element children
of an element; and it asks for the *leading text* of an element, which is
its first child if that is a text or a comment. An element whose first child
is an element has no leading text, whatever text comes later.
-/

namespace WidgetMarkup

/-- **A node of a document.** -/
inductive Node where
  /-- An element. -/
  | element (tag : String) (attributes : List (String × String)) (children : List Node)
  /-- A text, or a section of character data. -/
  | text (content : String)
  /-- A comment. -/
  | comment (content : String)
deriving Inhabited

namespace Node

/-- Is the node an element? -/
def isElement : Node → Bool
  | .element .. => true
  | _ => false

/-- The children of the node. -/
def children : Node → List Node
  | .element _ _ children => children
  | _ => []

/-- The element children of the node, in order. -/
def elementChildren (n : Node) : List Node :=
  n.children.filter isElement

/-- The value of an attribute of the node: the first of that name. -/
def attribute? : Node → String → Option String
  | .element _ attributes _, name => attributes.lookup name
  | _, _ => none

/-- The content of a node that is not an element. -/
def content? : Node → Option String
  | .element .. => none
  | .text content => some content
  | .comment content => some content

/-- The leading text of an element with these children. -/
def leadingTextOf? (children : List Node) : Option String :=
  children.head?.bind content?

/-- **The leading text** of a node: the content of its first child, unless
that is an element or there is none. -/
def leadingText? (n : Node) : Option String :=
  leadingTextOf? n.children

mutual

/-- **The nodes in document order**, each with its depth below the node that
the walk began at. -/
def preorder (depth : Nat) : Node → List (Nat × Node)
  | .element tag attributes children =>
    (depth, .element tag attributes children) :: preorderAll (depth + 1) children
  | .text content => [(depth, .text content)]
  | .comment content => [(depth, .comment content)]

/-- The nodes of a row of trees in document order. -/
def preorderAll (depth : Nat) : List Node → List (Nat × Node)
  | [] => []
  | n :: more => preorder depth n ++ preorderAll depth more

end

end Node

end WidgetMarkup
