import WidgetMarkup.Selector.Basic
import WidgetMarkup.Text.Alphanumeric
import WidgetMarkup.Text.Blank
import WidgetMarkup.Text.Split

/-!
# Reading selectors

The text of a selector is a row of compounds with separators between them. A
separator is white space, which stands for the descendant combinator, or one
`>` with white space around it at will, which stands for the child
combinator. Square brackets protect what is in them: there, white space and
`>` are ordinary characters.

A compound is a tag or `*`, or neither, and then any number of parts:
`#name`, `.name`, `[attribute]` and `[attribute=value]`. Names are made of
letters and digits of any script, `-` and `_`. Brackets end at the first
`]`, and a value in them may be quoted.

Anything else is not a selector, and the answer is `none`. A list of
selectors is read only if all its members are.
-/

namespace WidgetMarkup

open Text

/-! ## Compounds -/

/-- The characters of names. -/
def isNameChar (c : Char) : Bool :=
  isAlphanumeric c || c == '-' || c == '_'

/-- A name has at least one character, and name characters only. -/
def isName (s : List Char) : Bool :=
  !s.isEmpty && s.all isNameChar

/-- The characters that begin a part of a compound. -/
def opensPart (c : Char) : Bool :=
  c == '#' || c == '.' || c == '['

/-- The text between two quotes of the given kind, if it stands between
two. -/
def unquote? (quote : Char) : List Char → Option (List Char)
  | [] => none
  | c :: rest =>
    if c = quote ∧ rest.getLast? = some quote then some rest.dropLast else none

/-- A value without the pair of quotes around it, if there is one. -/
def unquote (s : List Char) : List Char :=
  ((unquote? '"' s).or (unquote? '\'' s)).getD s

/-- The condition that stands between square brackets. -/
def AttributeTest.parse? (inner : List Char) : Option AttributeTest :=
  match splitOnce '=' inner with
  | none =>
    if allBlank inner then none else some ⟨String.ofList (trim inner), none⟩
  | some (name, value) =>
    if allBlank name then none
    else some ⟨String.ofList (trim name), some (String.ofList (unquote (trim value)))⟩

namespace Compound

/-- Reads the parts of a compound, adding each to what is read so far. A
later `#name` takes the place of an earlier one. -/
def parseParts (c : Compound) : List Char → Option Compound
  | [] => some c
  | '#' :: rest =>
    let name := rest.takeWhile (!opensPart ·)
    if isName name then
      parseParts { c with id := some (String.ofList name) } (rest.dropWhile (!opensPart ·))
    else none
  | '.' :: rest =>
    let name := rest.takeWhile (!opensPart ·)
    if isName name then
      parseParts { c with classes := c.classes ++ [String.ofList name] }
        (rest.dropWhile (!opensPart ·))
    else none
  | '[' :: rest =>
    match AttributeTest.parse? (rest.takeWhile (· != ']')) with
    | none => none
    | some t =>
      parseParts { c with attributes := c.attributes ++ [t] }
        ((rest.dropWhile (· != ']')).drop 1)
  | _ :: _ => none
termination_by s => s.length
decreasing_by
  all_goals
    have hname := (List.dropWhile_suffix (l := rest) (!opensPart ·)).length_le
    have hinner := (List.dropWhile_suffix (l := rest) (· != ']')).length_le
    simp only [List.length_cons, List.length_drop]
    omega

/-- **Reads one compound.** -/
def parse? (s : List Char) : Option Compound :=
  let tag := s.takeWhile (!opensPart ·)
  let parts := s.dropWhile (!opensPart ·)
  if tag = [] ∨ tag = ['*'] then parseParts {} parts
  else if tag.all isNameChar then parseParts { tag := some (String.ofList tag) } parts
  else none

end Compound

/-! ## Selectors -/

/-- The characters that separate compounds. -/
def isSeparator (c : Char) : Bool :=
  c == '>' || isBlank c

/-- The text up to the next separator, and the text from there on. Inside
square brackets – the flag says whether the text begins there – nothing
separates; a bracket that is never closed makes the text unreadable. -/
def spanCompound : Bool → List Char → Option (List Char × List Char)
  | true, [] => none
  | false, [] => some ([], [])
  | true, c :: rest =>
    (spanCompound (c != ']') rest).map fun (word, after) => (c :: word, after)
  | false, c :: rest =>
    if isSeparator c then some ([], c :: rest)
    else (spanCompound (c == '[') rest).map fun (word, after) => (c :: word, after)

/-- The word and what follows it make up the text. -/
theorem append_of_spanCompound {inside : Bool} {s word after : List Char}
    (h : spanCompound inside s = some (word, after)) : s = word ++ after := by
  induction s generalizing inside word after with
  | nil => cases inside <;> simp_all [spanCompound]
  | cons c rest ih =>
    cases inside with
    | true =>
      obtain ⟨⟨w, a⟩, hw, heq⟩ := Option.map_eq_some_iff.mp h
      obtain ⟨rfl, rfl⟩ : c :: w = word ∧ a = after := by simpa using heq
      simp [← ih hw]
    | false =>
      rw [spanCompound] at h
      split at h
      · obtain ⟨rfl, rfl⟩ : [] = word ∧ c :: rest = after := by simpa using h
        rfl
      · obtain ⟨⟨w, a⟩, hw, heq⟩ := Option.map_eq_some_iff.mp h
        obtain ⟨rfl, rfl⟩ : c :: w = word ∧ a = after := by simpa using heq
        simp [← ih hw]

/-- Reads the compound that the text begins with, and gives the text after
it. -/
def firstCompound? : List Char → Option (Compound × List Char)
  | [] => none
  | c :: rest =>
    if isSeparator c then none
    else
      match spanCompound (c == '[') rest with
      | none => none
      | some (word, after) => (Compound.parse? (c :: word)).map fun k => (k, after)

/-- Reading a compound uses up some text. -/
theorem length_firstCompound? {s after : List Char} {k : Compound}
    (h : firstCompound? s = some (k, after)) : after.length < s.length := by
  cases s with
  | nil => simp [firstCompound?] at h
  | cons c rest =>
    rw [firstCompound?] at h
    split at h
    · cases h
    · split at h
      · cases h
      · next word after' hspan =>
        obtain ⟨k', -, heq⟩ := Option.map_eq_some_iff.mp h
        obtain ⟨-, rfl⟩ : k' = k ∧ after' = after := by simpa using heq
        rw [append_of_spanCompound hspan]
        simp only [List.length_cons, List.length_append]
        omega

/-- What a separator stands for: the child combinator if it holds a `>`, and
the descendant combinator if it does not. Two of them stand for nothing. -/
def combinator? (gap : List Char) : Option Combinator :=
  match gap.count '>' with
  | 0 => some .descendant
  | 1 => some .child
  | _ => none

namespace Selector

/-- Reads separators and compounds to the end of the text, extending the
selector read so far to the right. -/
def parseTail (s : Selector) (text : List Char) : Option Selector :=
  let gap := text.takeWhile isSeparator
  match _h : text.dropWhile isSeparator with
  | [] => if '>' ∈ gap then none else some s
  | c :: rest =>
    match combinator? gap, _hc : firstCompound? (c :: rest) with
    | some comb, some (k, after) => parseTail (s.extend comb k) after
    | _, _ => none
termination_by text.length
decreasing_by
  have hdrop := (List.dropWhile_suffix (l := text) isSeparator).length_le
  have hlen := length_firstCompound? _hc
  rw [_h] at hdrop
  omega

/-- **Reads a selector.** -/
def parse? (text : List Char) : Option Selector :=
  match firstCompound? (trim text) with
  | none => none
  | some (k, after) => parseTail ⟨k, []⟩ after

/-- A child condition and a descendant condition, nearest first; the
brackets protect what is in them. -/
example : parse? "panel > .row  text#t[x='> y']".toList
    = some ⟨{ tag := some "text", id := some "t", attributes := [⟨"x", some "> y"⟩] },
        [(.descendant, { classes := ["row"] }), (.child, { tag := some "panel" })]⟩ := by
  decide +kernel

/-- A combinator must stand between two compounds, and a colon nowhere. -/
example : ["", "> a", "a >", "a > > b", "a:hover", "[open"].all
    (fun s => (parse? s.toList).isNone) = true := by
  decide +kernel

/-- **Reads a list of selectors** with commas between them. -/
def parseList? (text : String) : Option (List Selector) :=
  (text.toList.splitOn ',').mapM parse?

end Selector

end WidgetMarkup
