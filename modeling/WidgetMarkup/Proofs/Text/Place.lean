import Mathlib.Data.String.Basic
import WidgetMarkup.Text.Place
import WidgetMarkup.Text.Split

/-!
# What stands at a place

A number is a place in a text exactly if the text has a front of so many bytes.
So a place is best told by the two pieces it lies between, and what is taken out
of a text at places is then known at once: `slice_append`, `sliceFrom_append`,
`exists_of_byteAt`. Numbers that are added up stay places as long as what is added
is the size of the next piece.

The place of a mark is such a number, and the text before it holds no such mark
(`exists_of_placeOf?`).
-/

namespace WidgetMarkup.Text

/-! ## Taking out -/

/-- **A place lies between two pieces.** -/
theorem isPlace_iff {s : String} {i : Nat} :
    IsPlace s i ↔ ∃ a b, s = a ++ b ∧ i = a.utf8ByteSize := by
  unfold IsPlace
  rw [String.Pos.Raw.isValid_iff_exists_append]
  exact exists₂_congr fun a b => and_congr_right fun _ => String.Pos.Raw.ext_iff

theorem isPlace_append (a b : String) : IsPlace (a ++ b) a.utf8ByteSize :=
  isPlace_iff.mpr ⟨a, b, rfl, rfl⟩

/-- **The piece between two places** is taken out. -/
theorem slice_append (a t b : String) :
    slice (a ++ t ++ b) a.utf8ByteSize (a.utf8ByteSize + t.utf8ByteSize) = .ok t := by
  have hi : IsPlace (a ++ t ++ b) a.utf8ByteSize := by
    rw [String.append_assoc]
    exact isPlace_append a (t ++ b)
  have hj : IsPlace (a ++ t ++ b) (a.utf8ByteSize + t.utf8ByteSize) := by
    rw [← String.utf8ByteSize_append]
    exact isPlace_append (a ++ t) b
  have hfront : a.toByteArray.extract a.utf8ByteSize (a.utf8ByteSize + t.utf8ByteSize) = .empty :=
    ByteArray.extract_eq_empty_iff.mpr (Nat.min_le_right _ _)
  have hwhole : t.toByteArray.extract 0 t.utf8ByteSize = t.toByteArray :=
    ByteArray.extract_zero_size
  rw [slice, dif_pos hi, dif_pos ⟨hj, Nat.le_add_right _ _⟩, Except.ok.injEq,
    ← String.toByteArray_inj, String.toByteArray_extract]
  simp only [String.toByteArray_append, ByteArray.extract_append, String.utf8ByteSize]
  simp [hfront, hwhole]

/-- The piece before a place. -/
theorem slice_zero_append (t b : String) : slice (t ++ b) 0 t.utf8ByteSize = .ok t := by
  simpa using slice_append "" t b

/-- **The piece behind a place.** -/
theorem sliceFrom_append (a b : String) : sliceFrom (a ++ b) a.utf8ByteSize = .ok b := by
  have h := slice_append a b ""
  rwa [String.append_empty, ← String.utf8ByteSize_append] at h

/-- **The byte at a place** is the first of the character behind it. -/
theorem exists_of_byteAt (a : String) {b : String} {c : Char} {rest : List Char}
    (h : b.toList = c :: rest) :
    ∃ x more, byteAt (a ++ b) a.utf8ByteSize = .ok x ∧ String.utf8EncodeChar c = x :: more := by
  obtain ⟨x, more, hx⟩ := List.exists_cons_of_ne_nil (String.utf8EncodeChar_ne_nil (c := c))
  have hb : b.toByteArray = (x :: more).toByteArray ++ List.utf8Encode rest := by
    rw [← String.ofList_toList (s := b), h, String.toByteArray_ofList, List.utf8Encode_cons,
      List.utf8Encode_singleton, hx]
  have hlt : a.utf8ByteSize < (a ++ b).utf8ByteSize := by
    rw [String.utf8ByteSize_append, String.utf8ByteSize, String.utf8ByteSize, hb]
    simp
  have hle : a.toByteArray.size ≤ a.utf8ByteSize := Nat.le_refl _
  refine ⟨x, more, ?_, hx⟩
  rw [byteAt, dif_pos ⟨isPlace_append a b, hlt⟩, Except.ok.injEq, String.getUTF8Byte_eq_getElem]
  simp only [String.toByteArray_append, hb]
  rw [ByteArray.getElem_append_right hle]
  simp [ByteArray.getElem_append_left]

/-- **A byte below 128 is a character** where it is the first of one. -/
theorem toNat_of_lead_lt {c : Char} {x : UInt8} {more : List UInt8}
    (h : String.utf8EncodeChar c = x :: more) (hx : x.toNat < 128) :
    c.utf8Size = 1 ∧ c.toNat = x.toNat := by
  -- the first byte of a longer character has the highest bit set
  have high : ∀ y k : UInt8, 128 ≤ k.toNat → x ≠ y ||| k := by
    rintro y k hk rfl
    rw [UInt8.toNat_or] at hx
    exact absurd (hk.trans Nat.right_le_or) (Nat.not_le.mpr hx)
  rcases Char.utf8Size_eq c with hsize | hsize | hsize | hsize
  · rw [String.utf8EncodeChar_eq_singleton hsize] at h
    obtain ⟨rfl, -⟩ := List.cons.inj h
    have hle := UInt32.le_iff_toNat_le.mp (Char.utf8Size_eq_one_iff.mp hsize)
    refine ⟨hsize, ?_⟩
    rw [UInt32.toNat_toUInt8]
    exact (Nat.mod_eq_of_lt (Nat.lt_of_le_of_lt hle (by decide))).symm
  · rw [String.utf8EncodeChar_eq_cons_cons hsize] at h
    exact absurd (List.cons.inj h).1.symm (high _ _ (by decide))
  · rw [String.utf8EncodeChar_eq_cons_cons_cons hsize] at h
    exact absurd (List.cons.inj h).1.symm (high _ _ (by decide))
  · rw [String.utf8EncodeChar_eq_cons_cons_cons_cons hsize] at h
    exact absurd (List.cons.inj h).1.symm (high _ _ (by decide))

/-! ## Finding marks -/

theorem exists_of_placeOfMark? {mark : List Char} (hmark : mark ≠ []) {s : List Char} {n : Nat}
    (h : placeOfMark? mark s = some n) :
    ∃ before after, s = before ++ mark ++ after ∧ n = (String.ofList before).utf8ByteSize
      ∧ ¬ mark <:+: before := by
  induction s generalizing n with
  | nil => cases h
  | cons c s ih =>
    rw [placeOfMark?] at h
    split at h
    · next hhere =>
      obtain ⟨after, hafter⟩ := List.isPrefixOf_iff_prefix.mp hhere
      cases h
      exact ⟨[], after, hafter.symm, rfl, by simpa using hmark⟩
    · next hnot =>
      obtain ⟨m, hm, rfl⟩ := Option.map_eq_some_iff.mp h
      obtain ⟨before, after, rfl, rfl, hbefore⟩ := ih hm
      refine ⟨c :: before, after, rfl, ?_, ?_⟩
      · rw [String.utf8ByteSize_ofList, String.utf8ByteSize_ofList, String.utf8Len_cons,
          Nat.add_comm]
      · rw [List.infix_cons_iff, not_or]
        refine ⟨fun hprefix => hnot (List.isPrefixOf_iff_prefix.mpr ?_), hbefore⟩
        exact hprefix.trans ⟨mark ++ after, by simp⟩

/-- **A mark that is found** has a text before it that holds none. -/
theorem exists_of_placeOf? {mark s : String} (hmark : mark ≠ "") {n : Nat}
    (h : placeOf? mark s = some n) :
    ∃ before after, s = before ++ mark ++ after ∧ n = before.utf8ByteSize
      ∧ ¬ mark.toList <:+: before.toList := by
  obtain ⟨before, after, hs, hn, hbefore⟩ := exists_of_placeOfMark? (by simpa using hmark) h
  refine ⟨String.ofList before, String.ofList after, ?_, hn, by simpa using hbefore⟩
  apply String.toList_injective
  simpa using hs

theorem not_infix_of_placeOfMark? {mark : List Char} (hmark : mark ≠ []) {s : List Char}
    (h : placeOfMark? mark s = none) : ¬ mark <:+: s := by
  induction s with
  | nil => simpa using hmark
  | cons c s ih =>
    rw [placeOfMark?] at h
    split at h
    · cases h
    · next hnot =>
      rw [List.infix_cons_iff, not_or]
      exact ⟨fun hprefix => hnot (List.isPrefixOf_iff_prefix.mpr hprefix),
        ih (Option.map_eq_none_iff.mp h)⟩

/-- **A mark that is not found** is not in the text. -/
theorem not_infix_of_placeOf? {mark s : String} (hmark : mark ≠ "") (h : placeOf? mark s = none) :
    ¬ mark.toList <:+: s.toList :=
  not_infix_of_placeOfMark? (by simpa using hmark) h

/-- **A mark of one character** is found where the text is cut at it. -/
theorem placeOf?_eq_of_singleton {mark : String} {d : Char} (hmark : mark.toList = [d])
    (s : List Char) :
    placeOf? mark (String.ofList s) = (splitOnce d s).map fun cut => String.utf8Len cut.1 := by
  rw [placeOf?, hmark, String.toList_ofList]
  induction s with
  | nil => rfl
  | cons c s ih =>
    rw [placeOfMark?, ih]
    by_cases hc : c = d
    · subst hc
      simp [splitOnce]
    · rw [splitOnce_cons_of_ne hc, if_neg (by simp [Ne.symm hc]), Option.map_map, Option.map_map]
      refine Option.map_congr fun cut _ => ?_
      simp only [Function.comp_apply, String.utf8Len_cons, Nat.add_comm]

end WidgetMarkup.Text
