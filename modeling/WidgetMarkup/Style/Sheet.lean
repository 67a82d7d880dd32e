import WidgetMarkup.Json.Writer
import WidgetMarkup.Style.Comment
import WidgetMarkup.Style.Declaration

/-!
# Style sheets

A style sheet is read as blocks `selector { declarations }`, after its
comments are taken out. The selector is the text up to the next `{`, the
body the text from there to the next `}`; neither brace is looked for
anywhere else, so a body may hold `{` and a selector `}`.

Reading never fails. It stops where the next block is not complete – no `{`,
nothing but white space before it, or no `}` after it – and the blocks read
so far are the sheet.

Rules are handed on as a JSON array with an object for each rule: its
selector, and its properties as an object with the names in order.
-/

namespace WidgetMarkup.Style

/-- **A rule**: a selector as it was written, and the properties it gives to
what it selects. -/
structure Rule where
  /-- The selector text, without white space around it. -/
  selector : String
  /-- The properties given. -/
  properties : Properties
deriving DecidableEq, Inhabited

namespace Sheet

/-- The first block, if it is complete: its selector, its body, and the text
after it. -/
def firstBlock (s : List Char) : Option (List Char × List Char × List Char) :=
  match Text.splitOnce '{' s with
  | none => none
  | some (before, inside) =>
    match Text.splitOnce '}' inside with
    | none => none
    | some (body, rest) =>
      if Text.allBlank before then none else some (Text.trim before, body, rest)

/-- Reading a block uses up some text. -/
theorem length_firstBlock {s selector body rest : List Char}
    (h : firstBlock s = some (selector, body, rest)) : rest.length < s.length := by
  unfold firstBlock at h
  split at h
  · cases h
  · next before inside hopen =>
    split at h
    · cases h
    · next body' rest' hclose =>
      have h₁ := Text.length_after_splitOnce hopen
      have h₂ := Text.length_after_splitOnce hclose
      obtain ⟨-, -, -, rfl⟩ : _ ∧ _ ∧ _ ∧ rest' = rest := by simpa using h
      omega

/-- The complete blocks at the front of a text, up to the first that is not
complete. -/
def blocks (s : List Char) : List (List Char × List Char) :=
  match _h : firstBlock s with
  | none => []
  | some (selector, body, rest) => (selector, body) :: blocks rest
termination_by s.length
decreasing_by exact length_firstBlock _h

/-- **The rules of a style sheet**, in the order in which they are
written. -/
def rules (text : String) : List Rule :=
  (blocks (stripComments text.toList)).map fun (selector, body) =>
    ⟨String.ofList selector, parseDeclarations body⟩

/-- An unfinished block at the end leaves the earlier ones alone. -/
example : rules ".a \x7b color: red \x7d /* x */ \x7d .b \x7b\x7d .c \x7b d: e"
    = [⟨".a", .ofEntries [("color", "red")]⟩, ⟨"\x7d .b", .empty⟩] := by
  decide +kernel

end Sheet

/-! ## Rules as JSON -/

/-- A rule as JSON. -/
def Rule.toJson (layout : Json.Layout) (r : Rule) : String :=
  layout.record [
    ("selector", Json.writeText r.selector),
    ("rule", layout.inner.record
      (r.properties.entries.map fun (name, value) => (name, Json.writeText value)))]

/-- **A list of rules as JSON.** -/
def rulesToJson (layout : Json.Layout) (rules : List Rule) : String :=
  layout.list (rules.map (Rule.toJson layout.inner))

/-- One rule, on one line. -/
example : rulesToJson .compact [⟨".a", .ofEntries [("k", "v")]⟩]
    = "[\x7b\"selector\":\".a\",\"rule\":\x7b\"k\":\"v\"\x7d\x7d]" := by
  decide +kernel

end WidgetMarkup.Style
