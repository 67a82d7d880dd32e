import WidgetMarkup.Proofs.Text.Trim
import WidgetMarkup.Style.Declaration

/-!
# What a property name can hold

A name in camel case is the written name without its dashes, where the character
after a run of dashes stands in upper case. To say this of the name as a whole,
the name is cut behind each character that is no dash: a `Piece` is such a
character with the run of dashes in front of it, and what is left is a run of
dashes at the end. There is one such cut (`nameOf_inj`), and in camel case each
piece has its own spelling and the dashes at the end have none
(`camelCase_nameOf`). What else is said here of camel case is seen piece by piece.

So a name in camel case holds what the written name holds, up to the case of
letters, and it holds no dash. What matters for reading a name again are the
characters that keep names and values apart: they have no upper case, and are the
upper case of nothing else (`eq_of_mem_uppercase`).

Names are put in camel case after they are trimmed, and are not trimmed again.
White space that stood between the dashes at an end of a name and the rest of it
comes to stand at the end itself (`trim_camelCase_eq_self_iff`).
-/

namespace WidgetMarkup

namespace Text

/-! ## Upper case and delimiters -/

/-- The ranges of the characters that keep names and values apart: white space,
the dash, the colon and the semicolon. -/
def delimiterRanges : List (Nat × Nat) :=
  [(0x09, 0x0D), (0x20, 0x20), (0x2D, 0x2D), (0x3A, 0x3B), (0x85, 0x85), (0xA0, 0xA0),
   (0x1680, 0x1680), (0x2000, 0x200A), (0x2028, 0x2029), (0x202F, 0x202F), (0x205F, 0x205F),
   (0x3000, 0x3000)]

/-- Does the character keep names and values apart? -/
def isDelimiter (c : Char) : Bool :=
  coveredBy delimiterRanges c.toNat

theorem isDelimiter_iff {c : Char} :
    isDelimiter c = true ↔ ∃ r ∈ delimiterRanges, r.1 ≤ c.toNat ∧ c.toNat ≤ r.2 :=
  coveredBy_iff (by decide) _

theorem isDelimiter_of_isBlank {c : Char} (h : isBlank c = true) : isDelimiter c = true := by
  have table : ∀ r ∈ blankRanges, r ∈ delimiterRanges := by decide
  obtain ⟨r, hr, hc⟩ := (coveredBy_iff (by decide) _).mp h
  exact isDelimiter_iff.mpr ⟨r, table r hr, hc⟩

/-- A number that is none of a character stands for the first one. -/
theorem toNat_ofNat (n : Nat) : (Char.ofNat n).toNat = n ∨ (Char.ofNat n).toNat = 0 := by
  by_cases h : n.isValidChar
  · rw [Char.ofNat, dif_pos h]
    exact Or.inl rfl
  · rw [Char.ofNat, dif_neg h]
    exact Or.inr rfl

/-- A delimiter has no other upper case. -/
theorem uppercase_of_isDelimiter {c : Char} (h : isDelimiter c = true) : uppercase c = [c] :=
  forall_of_coveredBy (P := fun c => uppercase c = [c]) (by decide) (by decide +kernel) h

theorem uppercase_ne_nil (c : Char) : uppercase c ≠ [] := by
  have table : ∀ p ∈ spelledOut, p.2 ≠ [] := by decide
  unfold uppercase
  dsimp only
  split
  · simp
  · split
    · next ns hns =>
      obtain ⟨before, after, hcut, -⟩ := List.lookup_eq_some_iff.mp hns
      have hmem : (c.toNat, ns) ∈ spelledOut := hcut ▸ List.mem_append_right _ List.mem_cons_self
      simpa using table _ hmem
    · simp

/-- **A delimiter is the upper case of nothing else.** The rows of letters are
moved to where no delimiter stands, and none is spelled out with one. -/
theorem eq_of_mem_uppercase {c d : Char} (hd : isDelimiter d = true) (h : d ∈ uppercase c) :
    d = c := by
  obtain ⟨r, hr, hfirst, hlast⟩ := isDelimiter_iff.mp hd
  have hpos : ∀ r ∈ delimiterRanges, 0 < r.1 := by decide
  have rows : ∀ s ∈ stretches ++ supplementaryStretches, ∀ r ∈ delimiterRanges,
      s.last + s.offset < r.1 ∨ (r.2 : Int) < s.first + s.offset := by
    decide +kernel
  have spellings : ∀ p ∈ spelledOut, ∀ n ∈ p.2, isDelimiter (Char.ofNat n) = false := by
    decide +kernel
  unfold uppercase at h
  dsimp only at h
  split at h
  · next s hs =>
    have hholds : s.first ≤ c.toNat ∧ c.toNat ≤ s.last := by
      have hfind := List.find?_some hs
      simp only [Stretch.holds, Bool.and_eq_true, decide_eq_true_eq] at hfind
      exact hfind.1
    obtain rfl : d = Char.ofNat (c.toNat + s.offset).toNat := by simpa using h
    have hrow := rows s (List.mem_of_find?_eq_some hs) r hr
    have hr₀ := hpos r hr
    rcases toNat_ofNat (c.toNat + s.offset).toNat with hd | hd <;> omega
  · split at h
    · next ns hns =>
      obtain ⟨before, after, hcut, -⟩ := List.lookup_eq_some_iff.mp hns
      have hmem : (c.toNat, ns) ∈ spelledOut := hcut ▸ List.mem_append_right _ List.mem_cons_self
      obtain ⟨n, hn, rfl⟩ := List.mem_map.mp h
      rw [spellings _ hmem n hn] at hd
      cases hd
    · simpa using h

end Text

namespace Style

open Text

/-! ## Names in pieces -/

/-- **A piece of a name**: a character that is no dash, with the run of dashes
that stands in front of it. -/
@[ext]
structure Piece where
  /-- The length of the run; there is none in front of most characters. -/
  dashes : Nat
  /-- The character the run leads to. -/
  char : Char
  /-- The run ends in front of it. -/
  char_ne : char ≠ '-'

namespace Piece

/-- A piece as it is written. -/
def written (p : Piece) : List Char :=
  List.replicate p.dashes '-' ++ [p.char]

/-- A piece in camel case: a character after dashes is put in upper case, and
any other is kept. -/
def spelled (p : Piece) : List Char :=
  if p.dashes = 0 then [p.char] else uppercase p.char

/-- The run of dashes ends at the character, whatever comes after it. -/
theorem takeWhile_dropWhile_written (p : Piece) (s : List Char) :
    (p.written ++ s).takeWhile (· == '-') = List.replicate p.dashes '-'
      ∧ (p.written ++ s).dropWhile (· == '-') = p.char :: s := by
  have hends : EndsRun (· == '-') (p.char :: s) := by simpa [EndsRun] using p.char_ne
  rw [written, List.append_assoc, List.singleton_append]
  exact takeWhile_dropWhile_append (by simp) hends

end Piece

/-- **The name that is made of such pieces**, with a number of dashes behind them.
In front of each run stands the last character of a piece or nothing, so the runs
are those of the name, each in full. -/
def nameOf (pieces : List Piece) (dashes : Nat) : List Char :=
  pieces.flatMap Piece.written ++ List.replicate dashes '-'

theorem nameOf_cons (p : Piece) (pieces : List Piece) (dashes : Nat) :
    nameOf (p :: pieces) dashes = p.written ++ nameOf pieces dashes := by
  rw [nameOf, List.flatMap_cons, List.append_assoc, nameOf]

/-- **Every name is made of pieces.** -/
theorem exists_nameOf (name : List Char) : ∃ pieces dashes, name = nameOf pieces dashes := by
  induction name with
  | nil => exact ⟨[], 0, rfl⟩
  | cons c name ih =>
    obtain ⟨pieces, dashes, rfl⟩ := ih
    by_cases hc : c = '-'
    · subst hc
      -- one dash more, in front of the first piece or of the dashes at the end
      cases pieces with
      | nil => exact ⟨[], dashes + 1, rfl⟩
      | cons p pieces => exact ⟨⟨p.dashes + 1, p.char, p.char_ne⟩ :: pieces, dashes, rfl⟩
    · exact ⟨⟨0, c, hc⟩ :: pieces, dashes, rfl⟩

/-- No piece is made of dashes. -/
theorem nameOf_cons_ne_replicate (p : Piece) (pieces : List Piece) (dashes n : Nat) :
    nameOf (p :: pieces) dashes ≠ List.replicate n '-' := by
  intro h
  have hmem : p.char ∈ nameOf (p :: pieces) dashes := by simp [nameOf, Piece.written]
  rw [h] at hmem
  exact p.char_ne (List.eq_of_mem_replicate hmem)

/-- **A name is made of its pieces in one way only.** -/
theorem nameOf_inj {pieces pieces' : List Piece} {dashes dashes' : Nat}
    (h : nameOf pieces dashes = nameOf pieces' dashes') :
    pieces = pieces' ∧ dashes = dashes' := by
  induction pieces generalizing pieces' with
  | nil =>
    cases pieces' with
    | nil => exact ⟨rfl, by simpa [nameOf] using congrArg List.length h⟩
    | cons p' pieces' => exact absurd h.symm (nameOf_cons_ne_replicate p' pieces' dashes' dashes)
  | cons p pieces ih =>
    cases pieces' with
    | nil => exact absurd h (nameOf_cons_ne_replicate p pieces dashes dashes')
    | cons p' pieces' =>
      rw [nameOf_cons, nameOf_cons] at h
      -- both begin with the first run and the character it leads to
      obtain ⟨hrun, hrest⟩ := p.takeWhile_dropWhile_written (nameOf pieces dashes)
      obtain ⟨hrun', hrest'⟩ := p'.takeWhile_dropWhile_written (nameOf pieces' dashes')
      rw [h, hrun'] at hrun
      rw [h, hrest'] at hrest
      have hdashes : p.dashes = p'.dashes := by simpa using (congrArg List.length hrun).symm
      obtain ⟨hchar, hmore⟩ := List.cons.inj hrest
      obtain ⟨rfl, rfl⟩ := ih hmore.symm
      exact ⟨congrArg (· :: pieces) (Piece.ext hdashes hchar.symm), rfl⟩

/-! ## Camel case, piece by piece -/

@[simp]
theorem camelCase_nil : camelCase [] = [] := by rw [camelCase]

theorem camelCase_cons {c : Char} (hc : c ≠ '-') (s : List Char) :
    camelCase (c :: s) = c :: camelCase s := by
  rw [camelCase, if_neg hc]

/-- A run of dashes gives way to the character after it. -/
theorem camelCase_dash_of_cons {s more : List Char} {c : Char}
    (h : s.dropWhile (· == '-') = c :: more) :
    camelCase ('-' :: s) = uppercase c ++ camelCase more := by
  rw [camelCase, if_pos rfl]
  split <;> simp_all

/-- A run of dashes with no character after it is dropped. -/
theorem camelCase_dash_of_nil {s : List Char} (h : s.dropWhile (· == '-') = []) :
    camelCase ('-' :: s) = [] := by
  rw [camelCase, if_pos rfl]
  split <;> simp_all

/-- There is no name in dashes. -/
theorem camelCase_of_dropWhile {name : List Char} (h : name.dropWhile (· == '-') = []) :
    camelCase name = [] := by
  cases name with
  | nil => exact camelCase_nil
  | cons b name =>
    have hall : ∀ c ∈ b :: name, c = '-' := by simpa using h
    obtain rfl := hall b List.mem_cons_self
    exact camelCase_dash_of_nil h

/-- **A piece has its own spelling**, whatever comes after it. -/
theorem camelCase_written_append (p : Piece) (s : List Char) :
    camelCase (p.written ++ s) = p.spelled ++ camelCase s := by
  obtain ⟨dashes, c, hc⟩ := p
  cases dashes with
  | zero => exact camelCase_cons hc s
  | succ n => exact camelCase_dash_of_cons (Piece.takeWhile_dropWhile_written ⟨n, c, hc⟩ s).2

theorem camelCase_flatMap_written_append (pieces : List Piece) (s : List Char) :
    camelCase (pieces.flatMap Piece.written ++ s)
      = pieces.flatMap Piece.spelled ++ camelCase s := by
  induction pieces with
  | nil => rfl
  | cons p pieces ih =>
    rw [List.flatMap_cons, List.append_assoc, camelCase_written_append, ih, List.flatMap_cons,
      List.append_assoc]

/-- **A name in camel case is made of the spellings of its pieces**, and the dashes
at its end are dropped. -/
theorem camelCase_nameOf (pieces : List Piece) (dashes : Nat) :
    camelCase (nameOf pieces dashes) = pieces.flatMap Piece.spelled := by
  have hdashes : camelCase (List.replicate dashes '-') = [] := camelCase_of_dropWhile (by simp)
  rw [nameOf, camelCase_flatMap_written_append, hdashes, List.append_nil]

/-- No spelling makes a delimiter, a dash or another. -/
theorem Piece.eq_of_mem_spelled {p : Piece} {d : Char} (hd : isDelimiter d = true)
    (h : d ∈ p.spelled) : d = p.char := by
  unfold Piece.spelled at h
  split at h
  · exact List.mem_singleton.mp h
  · exact eq_of_mem_uppercase hd h

/-- **A name in camel case holds no dash**, and no other delimiter that the
written name does not hold. -/
theorem mem_of_mem_camelCase {d : Char} (hd : isDelimiter d = true) {s : List Char}
    (h : d ∈ camelCase s) : d ∈ s ∧ d ≠ '-' := by
  obtain ⟨pieces, dashes, rfl⟩ := exists_nameOf s
  rw [camelCase_nameOf] at h
  obtain ⟨p, hp, hmem⟩ := List.mem_flatMap.mp h
  obtain rfl := Piece.eq_of_mem_spelled hd hmem
  have hwritten : p.char ∈ p.written := List.mem_append_right _ List.mem_cons_self
  exact ⟨List.mem_append_left _ (List.mem_flatMap.mpr ⟨p, hp, hwritten⟩), p.char_ne⟩

theorem dash_notMem_camelCase (s : List Char) : '-' ∉ camelCase s :=
  fun h => (mem_of_mem_camelCase (by decide) h).2 rfl

/-- **A name without dashes stays as it is.** -/
theorem camelCase_of_notMem {s : List Char} (h : '-' ∉ s) : camelCase s = s := by
  induction s with
  | nil => exact camelCase_nil
  | cons c s ih =>
    rw [List.mem_cons, not_or] at h
    rw [camelCase_cons (Ne.symm h.1), ih h.2]

/-- **A name can be put in camel case piece by piece**, if no piece ends within a
run of dashes. -/
theorem camelCase_append {s : List Char} (h : s.getLast? ≠ some '-') (t : List Char) :
    camelCase (s ++ t) = camelCase s ++ camelCase t := by
  obtain ⟨pieces, dashes, rfl⟩ := exists_nameOf s
  cases dashes with
  | zero =>
    rw [camelCase_nameOf, nameOf, List.replicate_zero, List.append_nil,
      camelCase_flatMap_written_append]
  | succ n => exact absurd (by simp [nameOf, List.replicate_succ']) h

/-- **Camel case, said of the name as a whole.** A name is cut in exactly one way
into its runs of dashes, each in full and with the character it leads to, the
characters with no dash in front of them, and the dashes at its end. In camel case
each run and its character give way to the upper case of that character, however
many characters that takes, the other characters are kept in their places, and the
dashes at the end are dropped. So no dash is left, since none stands in the upper
case of another character; doing it again changes nothing; and two names can be
joined before or after if the first does not end with a dash. -/
theorem camelCase_eq_of_pieces (name : List Char) :
    (∃! cut : List Piece × Nat, name = nameOf cut.1 cut.2)
      ∧ (∀ pieces dashes, name = nameOf pieces dashes →
          camelCase name = pieces.flatMap Piece.spelled)
      ∧ '-' ∉ camelCase name
      ∧ camelCase (camelCase name) = camelCase name
      ∧ ∀ more, name.getLast? ≠ some '-' →
          camelCase (name ++ more) = camelCase name ++ camelCase more := by
  refine ⟨?_, ?_, dash_notMem_camelCase name, camelCase_of_notMem (dash_notMem_camelCase name),
    fun more h => camelCase_append h more⟩
  · obtain ⟨pieces, dashes, h⟩ := exists_nameOf name
    refine ⟨(pieces, dashes), h, fun cut hcut => ?_⟩
    obtain ⟨hpieces, hdashes⟩ := nameOf_inj (hcut.symm.trans h)
    exact Prod.ext hpieces hdashes
  · rintro pieces dashes rfl
    exact camelCase_nameOf pieces dashes

/-- Dashes in front and inside, a letter that is put in upper case and the same
letter kept. -/
theorem camelCase_eq_of_pieces_sharpS :
    "--aß-ßb".toList
        = nameOf [⟨2, 'a', by decide⟩, ⟨0, 'ß', by decide⟩, ⟨1, 'ß', by decide⟩,
            ⟨0, 'b', by decide⟩] 0
      ∧ camelCase "--aß-ßb".toList = "AßSSb".toList
      ∧ "--aß-ßb".toList.getLast? ≠ some '-'
      ∧ camelCase ("--aß-ßb".toList ++ "-c-".toList) = "AßSSbC".toList := by
  obtain ⟨-, hpieces, -, -, happend⟩ := camelCase_eq_of_pieces "--aß-ßb".toList
  have hcut : "--aß-ßb".toList
      = nameOf [⟨2, 'a', by decide⟩, ⟨0, 'ß', by decide⟩, ⟨1, 'ß', by decide⟩,
          ⟨0, 'b', by decide⟩] 0 :=
    rfl
  have hname : camelCase "--aß-ßb".toList = "AßSSb".toList :=
    (hpieces _ _ hcut).trans (by decide +kernel)
  have hlast : "--aß-ßb".toList.getLast? ≠ some '-' := by decide
  refine ⟨hcut, hname, hlast, ?_⟩
  rw [happend "-c-".toList hlast, hname]
  decide +kernel

/-! ## White space at the ends of a name -/

/-- A character as a name in camel case has it: as it was written, or in upper
case. -/
def Spells (spelled : List Char) (c : Char) : Prop :=
  spelled = [c] ∨ spelled = uppercase c

/-- No spelling makes white space, and none hides it. -/
theorem Spells.isBlank_eq {spelled : List Char} {c d : Char} (h : Spells spelled c)
    (hd : d ∈ spelled) : isBlank d = isBlank c := by
  rcases h with rfl | rfl
  · rw [List.mem_singleton.mp hd]
  · cases hblank : isBlank d with
    | true => rw [← eq_of_mem_uppercase (isDelimiter_of_isBlank hblank) hd, hblank]
    | false =>
      refine (Bool.eq_false_iff.mpr fun hc => ?_).symm
      rw [uppercase_of_isDelimiter (isDelimiter_of_isBlank hc), List.mem_singleton] at hd
      rw [hd, hc] at hblank
      cases hblank

theorem Spells.ne_nil {spelled : List Char} {c : Char} (h : Spells spelled c) : spelled ≠ [] := by
  rcases h with rfl | rfl
  · simp
  · exact uppercase_ne_nil c

/-- White space begins the name if the first character is white space. -/
theorem Spells.endsRun_append_iff {spelled : List Char} {c : Char} (h : Spells spelled c)
    (more : List Char) : EndsRun isBlank (spelled ++ more) ↔ isBlank c = false := by
  obtain ⟨d, rest, rfl⟩ := List.exists_cons_of_ne_nil h.ne_nil
  rw [← h.isBlank_eq List.mem_cons_self]
  simp [EndsRun]

/-- White space ends the name if the last character is white space. -/
theorem Spells.endsRun_reverse_append_iff {spelled : List Char} {c : Char} (h : Spells spelled c)
    (front : List Char) : EndsRun isBlank (front ++ spelled).reverse ↔ isBlank c = false := by
  obtain ⟨rest, d, rfl⟩ := (List.eq_nil_or_concat' spelled).resolve_left h.ne_nil
  rw [← h.isBlank_eq (List.mem_append_right rest List.mem_cons_self)]
  simp [EndsRun]

theorem Piece.spells_spelled (p : Piece) : Spells p.spelled p.char := by
  unfold Piece.spelled
  split
  · exact Or.inl rfl
  · exact Or.inr rfl

/-- The name begins with the first character that is no dash. -/
theorem exists_camelCase_of_dropWhile {name more : List Char} {c : Char}
    (h : name.dropWhile (· == '-') = c :: more) :
    ∃ spelled, Spells spelled c ∧ camelCase name = spelled ++ camelCase more := by
  cases name with
  | nil => cases h
  | cons b name =>
    by_cases hb : b = '-'
    · subst hb
      exact ⟨uppercase c, Or.inr rfl, camelCase_dash_of_cons h⟩
    · rw [List.dropWhile_cons_of_neg (by simpa using hb)] at h
      obtain ⟨rfl, rfl⟩ := List.cons.inj h
      exact ⟨[b], Or.inl rfl, camelCase_cons hb name⟩

/-- The name ends with the last character that is no dash. -/
theorem exists_camelCase_concat (s : List Char) {c : Char} (hc : c ≠ '-') :
    ∃ front spelled, Spells spelled c ∧ camelCase (s ++ [c]) = front ++ spelled := by
  obtain ⟨pieces, dashes, rfl⟩ := exists_nameOf s
  -- the dashes at the end of the rest lead to this character
  have hlast := camelCase_written_append ⟨dashes, c, hc⟩ []
  rw [List.append_nil, camelCase_nil, List.append_nil] at hlast
  refine ⟨pieces.flatMap Piece.spelled, _, Piece.spells_spelled ⟨dashes, c, hc⟩, ?_⟩
  rw [nameOf, List.append_assoc, camelCase_flatMap_written_append, ← hlast]
  rfl

/-- What is between the dashes at the two ends of a name. -/
def betweenDashes (name : List Char) : List Char :=
  (name.dropWhile (· == '-')).rdropWhile (· == '-')

/-- Dashes at the end of a name make no difference. -/
theorem camelCase_append_of_all_dash {name dashes : List Char} (h : name.getLast? ≠ some '-')
    (hdashes : ∀ c ∈ dashes, c = '-') : camelCase (name ++ dashes) = camelCase name := by
  have hnil : camelCase dashes = [] := camelCase_of_dropWhile (by simpa using hdashes)
  rw [camelCase_append h, hnil, List.append_nil]

/-- **When a name in camel case is trimmed**: there is no white space at the
ends of what is between its dashes. -/
theorem trim_camelCase_eq_self_iff {name : List Char} :
    trim (camelCase name) = camelCase name ↔ trim (betweenDashes name) = betweenDashes name := by
  cases hname : name.dropWhile (· == '-') with
  | nil => simp [betweenDashes, hname, camelCase_of_dropWhile hname]
  | cons c more =>
    have hc : ¬ (c == '-') = true := by
      simp [EndsRun.dropWhile (· == '-') name c (by rw [hname]; rfl)]
    have hcore : betweenDashes name = (c :: more).rdropWhile (· == '-') := by
      rw [betweenDashes, hname]
    have hne : (c :: more).rdropWhile (· == '-') ≠ [] := by
      rw [ne_eq, List.rdropWhile_eq_nil_iff]
      exact fun h => hc (h c List.mem_cons_self)
    -- the first character of the part is the first one of the name
    have hfirst : EndsRun isBlank (camelCase name) ↔ EndsRun isBlank (betweenDashes name) := by
      obtain ⟨spelled, hspelled, hcamel⟩ := exists_camelCase_of_dropWhile hname
      obtain ⟨dashes, hdashes⟩ := List.rdropWhile_prefix (· == '-') (c :: more)
      rw [hcamel, hspelled.endsRun_append_iff, hcore]
      obtain ⟨d, core, hd⟩ := List.exists_cons_of_ne_nil hne
      rw [hd] at hdashes ⊢
      obtain ⟨rfl, -⟩ := List.cons.inj hdashes
      simp [EndsRun]
    -- and its last character the last one that is no dash
    have hlast : EndsRun isBlank (camelCase name).reverse
        ↔ EndsRun isBlank (betweenDashes name).reverse := by
      obtain ⟨core, b, hb⟩ := (List.eq_nil_or_concat' _).resolve_left hne
      have hbdash : b ≠ '-' := by
        have hnot := List.rdropWhile_last_not (· == '-') (c :: more) hne
        simpa [hb] using hnot
      have hcut : name = (name.takeWhile (· == '-') ++ core ++ [b])
          ++ (c :: more).rtakeWhile (· == '-') := by
        rw [List.append_assoc _ core, ← hb, List.append_assoc, List.rdropWhile_append_rtakeWhile,
          ← hname, List.takeWhile_append_dropWhile]
      obtain ⟨front, spelled, hspelled, hcamel⟩ :=
        exists_camelCase_concat (name.takeWhile (· == '-') ++ core) hbdash
      have hdashes : ∀ d ∈ (c :: more).rtakeWhile (· == '-'), d = '-' :=
        fun d hd => by simpa using List.mem_rtakeWhile_imp hd
      rw [hcut, camelCase_append_of_all_dash (by simpa using hbdash) hdashes, hcamel,
        hspelled.endsRun_reverse_append_iff, ← hcut, hcore, hb]
      simp [EndsRun]
    rw [trim_eq_self_iff, trim_eq_self_iff, hfirst, hlast]

end Style

end WidgetMarkup
