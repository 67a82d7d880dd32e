import Mathlib.Data.List.DropRight
import WidgetMarkup.Text.Blank

/-!
# Runs of characters and trimmed texts

Texts are cut where a run of characters ends: a name at the first character
that is none of a name, a text at its first character that is not white space.
`EndsRun` says that no run begins with a text, and a run in front of such a text
is taken to its end (`takeWhile_dropWhile_append`).

Trimming drops two runs of white space. What is left has white space at neither
end, and a text without white space at its ends is left as it is; so the trimmed
texts are exactly those (`trim_eq_self_iff`), and trimming twice is trimming
once.
-/

namespace WidgetMarkup

open Text

/-! ## Runs -/

/-- A run of such characters ends where this text begins. -/
def EndsRun (p : Char → Bool) (s : List Char) : Prop :=
  ∀ c ∈ s.head?, p c = false

theorem EndsRun.nil (p : Char → Bool) : EndsRun p [] := by simp [EndsRun]

theorem EndsRun.dropWhile (p : Char → Bool) (s : List Char) : EndsRun p (s.dropWhile p) := by
  intro c hc
  have h := List.head?_dropWhile_not p s
  rwa [Option.mem_def.mp hc] at h

/-- **A run is taken to its end**, and no further. -/
theorem takeWhile_dropWhile_append {p : Char → Bool} {run s : List Char} (hrun : run.all p = true)
    (hs : EndsRun p s) : (run ++ s).takeWhile p = run ∧ (run ++ s).dropWhile p = s := by
  rw [List.all_eq_true] at hrun
  rw [List.takeWhile_append_of_pos hrun, List.dropWhile_append_of_pos hrun]
  cases s with
  | nil => simp
  | cons c s => simp [hs c rfl]

/-! ## Trimmed texts -/

/-- No white space is taken off a text that neither begins nor ends with
some. -/
theorem trim_eq_self {s : List Char} (hfirst : EndsRun isBlank s)
    (hlast : EndsRun isBlank s.reverse) : trim s = s := by
  have hdrop : ∀ {s : List Char}, EndsRun isBlank s → s.dropWhile isBlank = s :=
    fun h => (takeWhile_dropWhile_append List.all_nil h).2
  rw [trim, hdrop hfirst, hdrop hlast, List.reverse_reverse]

/-- No white space stands at the end of a trimmed text. -/
theorem endsRun_reverse_trim (s : List Char) : EndsRun isBlank (trim s).reverse := by
  rw [trim, List.reverse_reverse]
  exact EndsRun.dropWhile isBlank _

/-- Nor at its front: what is left of a text at its front is its front. -/
theorem endsRun_trim (s : List Char) : EndsRun isBlank (trim s) := by
  intro c hc
  obtain ⟨rest, htrim⟩ := List.head?_eq_some_iff.mp hc
  have hpre : c :: rest <+: s.dropWhile isBlank := htrim ▸ List.rdropWhile_prefix _ _
  obtain ⟨more, hmore⟩ := hpre
  exact EndsRun.dropWhile isBlank s c (by rw [← hmore]; rfl)

/-- **The trimmed texts** are those with white space at neither end. -/
theorem trim_eq_self_iff {s : List Char} :
    trim s = s ↔ EndsRun isBlank s ∧ EndsRun isBlank s.reverse := by
  constructor
  · intro h
    exact ⟨h ▸ endsRun_trim s, h ▸ endsRun_reverse_trim s⟩
  · exact fun h => trim_eq_self h.1 h.2

theorem trim_trim (s : List Char) : trim (trim s) = trim s :=
  trim_eq_self (endsRun_trim s) (endsRun_reverse_trim s)

/-- Trimming puts nothing into a text. -/
theorem mem_of_mem_trim {c : Char} {s : List Char} (h : c ∈ trim s) : c ∈ s :=
  (List.dropWhile_suffix _).subset ((List.rdropWhile_prefix _ _).subset h)

/-- White space in front makes no difference to what is left. -/
theorem trim_append_of_allBlank {blank : List Char} (h : allBlank blank = true) (s : List Char) :
    trim (blank ++ s) = trim s := by
  rw [trim, trim, List.dropWhile_append_of_pos (List.all_eq_true.mp h)]

/-- Of a text that does not begin with white space, only the white space at its
end is taken off. -/
theorem trim_cons_of_not_isBlank {c : Char} (hc : isBlank c = false) (s : List Char) :
    trim (c :: s) = c :: (s.reverse.dropWhile isBlank).reverse := by
  have hlast : [c].dropWhile isBlank = [c] := by simp [hc]
  have hdrop : (s.reverse ++ [c]).dropWhile isBlank = s.reverse.dropWhile isBlank ++ [c] := by
    rw [List.dropWhile_append, hlast]
    split
    · next hnil => rw [List.isEmpty_iff.mp hnil, List.nil_append]
    · rfl
  rw [trim, List.dropWhile_cons_of_neg (by simp [hc]), List.reverse_cons, hdrop,
    List.reverse_append]
  rfl

end WidgetMarkup
