/-!
# Comments in style text

A comment runs from `/*` to the next `*/`. Comments do not nest: the first
`*/` ends the comment whatever stands in between, line breaks included. An
opening without an end opens nothing, and stays in the text together with
all that follows it.
-/

namespace WidgetMarkup.Style

/-- What follows the first `*/`, if there is one. -/
def afterComment : List Char → Option (List Char)
  | [] => none
  | '*' :: '/' :: rest => some rest
  | _ :: rest => afterComment rest

/-- What follows a comment is shorter than the comment with it. -/
theorem length_afterComment {s rest : List Char} (h : afterComment s = some rest) :
    rest.length < s.length := by
  induction s using afterComment.induct with
  | case1 => simp [afterComment] at h
  | case2 r =>
    obtain rfl : r = rest := by simpa [afterComment] using h
    simp only [List.length_cons]
    omega
  | case3 c r hne ih =>
    rw [afterComment.eq_3 c r hne] at h
    have := ih h
    simp only [List.length_cons]
    omega

/-- **The text without its comments.** -/
def stripComments : List Char → List Char
  | [] => []
  | '/' :: '*' :: inside =>
    match _h : afterComment inside with
    | some rest => stripComments rest
    | none => '/' :: '*' :: inside
  | c :: rest => c :: stripComments rest
termination_by s => s.length
decreasing_by
  · have := length_afterComment _h
    simp only [List.length_cons]
    omega
  · simp

/-- The shortest comments are taken out, and a lonely opening stays. -/
example : stripComments "a/* 1 */b/*/ 2 */c/* /* d".toList = "abc/* /* d".toList := by
  decide +kernel

end WidgetMarkup.Style
