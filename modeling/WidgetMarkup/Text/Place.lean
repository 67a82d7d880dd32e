/-!
# Places in a text

A text is kept as the bytes of its UTF-8 form, and a reader that remembers where
it is remembers a number of bytes. Not every number is a place in the text: it
may lie behind the end, or within a character of several bytes. So whatever is
taken out of a text by numbers is taken by `slice` or `byteAt`, and these break
down at a number that is no place. A reader that goes through a text character by
character and only reports where it is counts the bytes of what lies behind it
(`byteLength`).
-/

namespace WidgetMarkup.Text

/-- **The number of bytes** that a text takes in UTF-8. -/
def byteLength : List Char → Nat
  | [] => 0
  | c :: rest => c.utf8Size + byteLength rest

/-- **An access that breaks down**: a number that is no place in the text, or none
at which anything can be taken out. -/
structure Misplaced where
  /-- The text. -/
  text : String
  /-- The number of bytes. -/
  place : Nat
deriving DecidableEq, Repr

/-- **Is the number a place in the text**, neither behind its end nor within a
character? -/
def IsPlace (s : String) (i : Nat) : Prop :=
  String.Pos.Raw.IsValid s ⟨i⟩

instance (s : String) (i : Nat) : Decidable (IsPlace s i) :=
  inferInstanceAs (Decidable (String.Pos.Raw.IsValid s ⟨i⟩))

/-- **The text from one place to another**, which must not lie before it. -/
def slice (s : String) (i j : Nat) : Except Misplaced String :=
  if hi : IsPlace s i then
    if hj : IsPlace s j ∧ i ≤ j then .ok (String.extract (s := s) ⟨⟨i⟩, hi⟩ ⟨⟨j⟩, hj.1⟩)
    else .error ⟨s, j⟩
  else .error ⟨s, i⟩

/-- The text from a place on. -/
def sliceFrom (s : String) (i : Nat) : Except Misplaced String :=
  slice s i s.utf8ByteSize

/-- **The byte at a place**, which must be the first of a character. -/
def byteAt (s : String) (i : Nat) : Except Misplaced UInt8 :=
  if h : IsPlace s i ∧ i < s.utf8ByteSize then .ok (s.getUTF8Byte ⟨i⟩ h.2)
  else .error ⟨s, i⟩

/-- Where the first mark stands in a text, if there is one. -/
def placeOfMark? (mark : List Char) : List Char → Option Nat
  | [] => none
  | c :: rest =>
    if mark.isPrefixOf (c :: rest) then some 0
    else (placeOfMark? mark rest).map (c.utf8Size + ·)

/-- **The place of the first mark** in a text. -/
def placeOf? (mark s : String) : Option Nat :=
  placeOfMark? mark.toList s.toList

/-- **Two accesses, one after the other**, both succeed or break down. -/
theorem bind_eq_ok_iff {ε α β : Type} {first : Except ε α} {second : α → Except ε β} {b : β} :
    first >>= second = .ok b ↔ ∃ a, first = .ok a ∧ second a = .ok b := by
  cases first with
  | error fault => exact iff_of_false nofun nofun
  | ok a => exact ⟨fun h => ⟨a, rfl, h⟩, fun ⟨_, h, hb⟩ => Except.ok.inj h ▸ hb⟩

/-- **A piece is taken out exactly between places**, in their order. -/
theorem exists_slice_iff {s : String} {i j : Nat} :
    (∃ t, slice s i j = .ok t) ↔ IsPlace s i ∧ IsPlace s j ∧ i ≤ j := by
  unfold slice
  split
  · next hi =>
    split
    · next hj => exact iff_of_true ⟨_, rfl⟩ ⟨hi, hj⟩
    · next hj => exact iff_of_false nofun fun h => hj h.2
  · next hi => exact iff_of_false nofun fun h => hi h.1

/-- What is taken out has as many bytes as there are between the places. -/
theorem utf8ByteSize_of_slice {s t : String} {i j : Nat} (h : slice s i j = .ok t) :
    i ≤ j ∧ j ≤ s.utf8ByteSize ∧ t.utf8ByteSize = j - i := by
  obtain ⟨hi, hj, hle⟩ := exists_slice_iff.mp ⟨t, h⟩
  have hsize : j ≤ s.utf8ByteSize := hj.le_utf8ByteSize
  rw [slice, dif_pos hi, dif_pos ⟨hj, hle⟩] at h
  obtain rfl : String.extract (s := s) ⟨⟨i⟩, hi⟩ ⟨⟨j⟩, hj⟩ = t := by simpa using h
  refine ⟨hle, hsize, ?_⟩
  rw [String.utf8ByteSize, String.toByteArray_extract, ByteArray.size_extract]
  exact congrArg (· - i) (Nat.min_eq_left hsize)

/-- A letter with an accent takes two bytes, and between them is no place. -/
example : placeOf? "\x7b" "é\x7b" = some 2 ∧ (slice "é\x7b" 0 2).toOption = some "é"
    ∧ ¬ IsPlace "é\x7b" 1 := by
  decide +kernel

end WidgetMarkup.Text
