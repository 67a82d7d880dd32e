/-!
# Sets of characters as ranges of code points

A property of the Unicode Character Database is a set of code points that
falls into a few hundred ranges. A table of such ranges, in order, is the
plainest way to hold it, and `coveredBy` asks whether a code point lies in
one of them. On an ordered table the search may stop at the first range
that begins too late: `coveredBy_iff` says that nothing is lost by it.
-/

namespace WidgetMarkup.Text

/-- **Membership in a table of ranges.** Each pair holds the first and the
last code point of a range, and the ranges stand in order. -/
def coveredBy : List (Nat × Nat) → Nat → Bool
  | [], _ => false
  | (first, last) :: more, n =>
    if n < first then false else n ≤ last || coveredBy more n

/-- A table is in order when each range begins after all ranges before it
have begun. -/
def InOrder (table : List (Nat × Nat)) : Prop :=
  table.Pairwise (fun a b => a.1 ≤ b.1)

/-- Order needs to be looked at between neighbours only. -/
theorem inOrder_cons_cons {a b : Nat × Nat} {more : List (Nat × Nat)} :
    InOrder (a :: b :: more) ↔ a.1 ≤ b.1 ∧ InOrder (b :: more) := by
  simp only [InOrder, List.pairwise_cons, List.mem_cons, forall_eq_or_imp]
  constructor
  · rintro ⟨⟨hab, -⟩, hmore⟩
    exact ⟨hab, hmore⟩
  · rintro ⟨hab, hb, hmore⟩
    exact ⟨⟨hab, fun r hr => Nat.le_trans hab (hb r hr)⟩, hb, hmore⟩

/-- Order is decided by one pass over the table. -/
instance decidableInOrder : (table : List (Nat × Nat)) → Decidable (InOrder table)
  | [] => isTrue List.Pairwise.nil
  | [r] => isTrue (List.pairwise_singleton _ r)
  | _ :: b :: more =>
    have := decidableInOrder (b :: more)
    decidable_of_iff _ inOrder_cons_cons.symm

/-- **Stopping early loses nothing**: on a table in order, `coveredBy` finds
exactly the code points that lie in some range. -/
theorem coveredBy_iff {table : List (Nat × Nat)} (h : InOrder table) (n : Nat) :
    coveredBy table n = true ↔ ∃ r ∈ table, r.1 ≤ n ∧ n ≤ r.2 := by
  induction table with
  | nil => simp [coveredBy]
  | cons r more ih =>
    obtain ⟨hr, hmore⟩ := List.pairwise_cons.mp h
    by_cases hlt : n < r.1
    · simp only [coveredBy, hlt, ↓reduceIte, Bool.false_eq_true, false_iff]
      rintro ⟨q, hq, hle, -⟩
      rcases List.mem_cons.mp hq with rfl | hq
      · omega
      · have := hr q hq
        omega
    · simp only [coveredBy, hlt, ↓reduceIte, Bool.or_eq_true, decide_eq_true_eq,
        ih hmore, List.mem_cons, exists_eq_or_imp]
      constructor
      · rintro (hle | hmem)
        · exact Or.inl ⟨Nat.le_of_not_lt hlt, hle⟩
        · exact Or.inr hmem
      · rintro (⟨-, hle⟩ | hmem)
        · exact Or.inl hle
        · exact Or.inr hmem

/-- What is seen of the numbers in a table holds of the characters that the
table covers. -/
theorem forall_of_coveredBy {P : Char → Prop} {table : List (Nat × Nat)} (htable : InOrder table)
    (h : ∀ r ∈ table, ∀ n ∈ List.range' r.1 (r.2 + 1 - r.1), P (Char.ofNat n)) {c : Char}
    (hc : coveredBy table c.toNat = true) : P c := by
  obtain ⟨r, hr, hfirst, hlast⟩ := (coveredBy_iff htable _).mp hc
  have hP := h r hr c.toNat (List.mem_range'_1.mpr ⟨hfirst, by omega⟩)
  rwa [Char.ofNat_toNat] at hP

end WidgetMarkup.Text
