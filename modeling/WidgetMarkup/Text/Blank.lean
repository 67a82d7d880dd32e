import WidgetMarkup.Text.Ranges

/-!
# White space

A character is *blank* when the Unicode Character Database gives it the
property White_Space: the six ASCII ones, the next-line control, the
no-break space, and the spaces and separators of typography. Trimming a
selector or a style value, and cutting a class attribute into words, all
mean this set. The white space of markup is a smaller one, and is told
apart where markup is read.

The byte order mark and the zero width space are not blank, whatever their
names suggest.
-/

namespace WidgetMarkup.Text

/-- The ranges of the property White_Space. -/
def blankRanges : List (Nat × Nat) :=
  [(0x09, 0x0D), (0x20, 0x20), (0x85, 0x85), (0xA0, 0xA0), (0x1680, 0x1680),
   (0x2000, 0x200A), (0x2028, 0x2029), (0x202F, 0x202F), (0x205F, 0x205F),
   (0x3000, 0x3000)]

/-- **Is the character white space?** -/
def isBlank (c : Char) : Bool :=
  coveredBy blankRanges c.toNat

/-- Does the text hold white space only? The empty text does. -/
def allBlank (s : List Char) : Bool :=
  s.all isBlank

/-- The text without the white space at its two ends. -/
def trim (s : List Char) : List Char :=
  ((s.dropWhile isBlank).reverse.dropWhile isBlank).reverse

/-- The words of a text: its longest pieces without white space, in
order. -/
def words (s : List Char) : List (List Char) :=
  (s.splitOnP isBlank).filter (fun w => !w.isEmpty)

/-- Dropping the leading white space leaves nothing exactly when there is
nothing else. -/
theorem dropWhile_isBlank_eq_nil_iff (s : List Char) :
    s.dropWhile isBlank = [] ↔ allBlank s = true := by
  induction s with
  | nil => simp [allBlank]
  | cons c s ih =>
    rw [List.dropWhile_cons]
    cases hc : isBlank c <;> simp_all [allBlank]

/-- Nothing is left of a text exactly when it holds white space only. -/
theorem trim_eq_nil_iff (s : List Char) : trim s = [] ↔ allBlank s = true := by
  rw [trim, List.reverse_eq_nil_iff, dropWhile_isBlank_eq_nil_iff, allBlank,
    List.all_reverse, ← allBlank]
  induction s with
  | nil => simp
  | cons c s ih =>
    rw [List.dropWhile_cons]
    cases hc : isBlank c <;> simp_all [allBlank]

/-- Trimming takes off both ends and leaves the middle. -/
example : trim " \t a b\u3000".toList = "a b".toList := by decide

/-- Words are cut at every kind of blank, and there are no empty words. -/
example : words " big  red\u00a0sale\n".toList
    = ["big".toList, "red".toList, "sale".toList] := by decide

end WidgetMarkup.Text
