import WidgetMarkup.Text.LetterCase

/-!
# What tags mean to a page

Most elements of a page become widgets. Two tags are for the page itself:
`style` holds a style sheet, and `flush` signals diagnostics. Among the
others the leaves are told apart, which show their leading text as a value
and have nothing inside. Which tags are leaves can be chosen, but `style` and
`flush` mean what they mean even if they are chosen as leaves.
-/

namespace WidgetMarkup

/-- What an element with a certain tag does. -/
inductive TagRole where
  /-- It holds a style sheet. -/
  | style
  /-- It signals diagnostics. -/
  | flush
  /-- It becomes a widget with a value and nothing inside. -/
  | leaf
  /-- It becomes a widget with widgets inside. -/
  | container
deriving DecidableEq, Repr, Inhabited

/-- **The tags that are leaves**, their ASCII letters in upper case. -/
structure TagRoles where
  /-- The names, folded. -/
  leaves : List String
deriving DecidableEq, Inhabited

namespace TagRoles

/-- The roles when these tags are leaves. -/
def ofLeaves (tags : List String) : TagRoles :=
  ⟨tags.map Text.foldCase⟩

/-- **The role of a tag**, up to the case of ASCII letters. -/
def role (roles : TagRoles) (tag : String) : TagRole :=
  let name := Text.foldCase tag
  if name = "STYLE" then .style
  else if name = "FLUSH" then .flush
  else if name ∈ roles.leaves then .leaf
  else .container

/-- The role of a tag depends on its folded name only. -/
theorem role_congr {roles : TagRoles} {a b : String} (h : Text.foldCase a = Text.foldCase b) :
    roles.role a = roles.role b := by
  simp only [role, h]

end TagRoles

end WidgetMarkup
