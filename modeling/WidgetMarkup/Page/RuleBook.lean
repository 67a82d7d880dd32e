import WidgetMarkup.Scene.Query
import WidgetMarkup.Style.Sheet

/-!
# The rule book

The rules of all style sheets met so far stand in one book, in the order in
which they were met. Rules are only added, and the same rule may stand there
more than once: what counts is the order.

A rule gives its properties to every widget that its selector selects, and
the rules are applied in the order of the book: where two of them give the
same property to one widget, the later one holds. A rule looks at tags and
attributes only and changes styles only, so it does not matter to a rule
what earlier rules did.
-/

namespace WidgetMarkup

/-- **The rules in force**, oldest first. -/
structure RuleBook where
  /-- The rules. -/
  rules : List Style.Rule := []
deriving DecidableEq, Inhabited

namespace RuleBook

/-- The book with further rules at its end. -/
def add (b : RuleBook) (rules : List Style.Rule) : RuleBook :=
  ⟨b.rules ++ rules⟩

/-- The book with the rules of a style sheet at its end. -/
def addSheet (b : RuleBook) (text : String) : RuleBook :=
  b.add (Style.Sheet.rules text)

@[simp]
theorem rules_add (b : RuleBook) (rules : List Style.Rule) :
    (b.add rules).rules = b.rules ++ rules := rfl

end RuleBook

/-! ## Applying rules -/

namespace Scene

/-- Gives properties to each of the widgets. -/
def mergeStyles (s : Scene) (ids : List WidgetId) (properties : Style.Properties) : Scene :=
  ids.foldl (fun s id => s.mergeStyle id properties) s

/-- Applies a rule. -/
def applyRule (s : Scene) (r : Style.Rule) : Scene :=
  s.mergeStyles (s.query r.selector) r.properties

/-- **Applies rules in order**, and counts how often a rule met a
widget. -/
def applyRules : Scene → List Style.Rule → Scene × Nat
  | s, [] => (s, 0)
  | s, r :: more =>
    let (styled, n) := (s.applyRule r).applyRules more
    (styled, (s.query r.selector).length + n)

end Scene

end WidgetMarkup
