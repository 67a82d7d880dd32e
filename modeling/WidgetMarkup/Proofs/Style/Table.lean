import Mathlib.Data.List.Sort
import WidgetMarkup.Style.Properties

/-!
# Tables are known by their answers

A table of properties keeps its entries in the order of their names, and so
there is nothing to a table beyond what `get?` says: two tables that answer
alike are the same table. Equations between tables are proved in this way,
name by name.
-/

namespace WidgetMarkup

/-- Where no name occurs twice, what is looked up is what is there. -/
theorem lookup_eq_some_iff_mem {entries : List (String × String)}
    (h : (entries.map Prod.fst).Nodup) {k v : String} :
    entries.lookup k = some v ↔ (k, v) ∈ entries := by
  rw [List.lookup_eq_some_iff]
  constructor
  · rintro ⟨before, after, rfl, -⟩
    exact List.mem_append_right _ List.mem_cons_self
  · intro hmem
    obtain ⟨before, after, rfl⟩ := List.append_of_mem hmem
    refine ⟨before, after, rfl, fun p hp => ?_⟩
    rw [List.map_append, List.map_cons] at h
    have hne := (List.nodup_append.mp h).2.2 p.1 (List.mem_map_of_mem hp) k List.mem_cons_self
    rw [bne_iff_ne]
    exact hne.symm

namespace Style.Properties

/-- The entries are what `get?` finds. -/
theorem mem_entries_iff {t : Properties} {k v : String} :
    (k, v) ∈ t.entries ↔ t.get? k = some v := by
  have hne : ∀ {a b : String × String}, a.1 < b.1 → a.1 ≠ b.1 := by
    intro a b hlt heq
    rw [heq] at hlt
    exact String.lt_irrefl b.1 hlt
  have hnodup : (t.entries.map Prod.fst).Nodup := List.pairwise_map.mpr (t.sorted.imp hne)
  exact (lookup_eq_some_iff_mem hnodup).symm

/-- **Two tables that answer alike are equal.** -/
theorem ext_get? {t u : Properties} (h : ∀ k, t.get? k = u.get? k) : t = u := by
  have hirrefl : Std.Irrefl (fun a b : String × String => a.1 < b.1) :=
    ⟨fun a => String.lt_irrefl a.1⟩
  have hantisymm : Std.Antisymm (fun a b : String × String => a.1 < b.1) :=
    ⟨fun a b hab hba => absurd (String.lt_trans hab hba) (String.lt_irrefl a.1)⟩
  have hentries : t.entries = u.entries := by
    refine t.sorted.eq_of_mem_iff u.sorted (fun p => ?_)
    obtain ⟨k, v⟩ := p
    rw [mem_entries_iff, mem_entries_iff, h]
  obtain ⟨entries, sorted⟩ := t
  obtain ⟨entries', sorted'⟩ := u
  subst hentries
  rfl

/-- In a table made of entries, a name has the last value that is given to
it. -/
theorem get?_ofEntries (entries : List (String × String)) (k : String) :
    (ofEntries entries).get? k = entries.reverse.lookup k := by
  rw [ofEntries, get?_foldl_insert, get?_empty, Option.or_none]

/-- What is in a table made of entries is one of them. -/
theorem mem_of_mem_entries_ofEntries {entries : List (String × String)} {p : String × String}
    (h : p ∈ (ofEntries entries).entries) : p ∈ entries := by
  rw [← Prod.eta p, mem_entries_iff, get?_ofEntries] at h
  obtain ⟨before, after, hcut, -⟩ := List.lookup_eq_some_iff.mp h
  exact List.mem_reverse.mp (hcut ▸ List.mem_append_right before List.mem_cons_self)

/-- **A table made of entries has all their names.** -/
theorem mem_names_ofEntries {entries : List (String × String)} {k : String} :
    k ∈ (ofEntries entries).entries.map Prod.fst ↔ k ∈ entries.map Prod.fst := by
  constructor
  · intro h
    obtain ⟨p, hp, rfl⟩ := List.mem_map.mp h
    exact List.mem_map_of_mem (mem_of_mem_entries_ofEntries hp)
  · intro h
    obtain ⟨p, hp, rfl⟩ := List.mem_map.mp h
    cases hget : (ofEntries entries).get? p.1 with
    | none =>
      rw [get?_ofEntries, List.lookup_eq_none_iff] at hget
      simpa using hget p (List.mem_reverse.mpr hp)
    | some v => exact List.mem_map.mpr ⟨(p.1, v), mem_entries_iff.mpr hget, rfl⟩

/-- A table is made of its own entries. -/
theorem ofEntries_entries (t : Properties) : ofEntries t.entries = t :=
  ext_get? fun k => by rw [get?_ofEntries, lookup_reverse_entries]

/-- Further entries override. -/
theorem ofEntries_append (entries more : List (String × String)) :
    ofEntries (entries ++ more) = (ofEntries entries).merge (ofEntries more) := by
  refine ext_get? (fun k => ?_)
  rw [get?_merge, get?_ofEntries, get?_ofEntries, get?_ofEntries, List.reverse_append,
    List.lookup_append]

/-- Merging one table and then another is merging the two merged. -/
theorem merge_merge (t u v : Properties) : (t.merge u).merge v = t.merge (u.merge v) := by
  refine ext_get? (fun k => ?_)
  rw [get?_merge, get?_merge, get?_merge, get?_merge, Option.or_assoc]

/-- Merging a table in a second time changes nothing. -/
theorem merge_merge_self (t u : Properties) : (t.merge u).merge u = t.merge u := by
  refine ext_get? (fun k => ?_)
  rw [get?_merge, get?_merge, ← Option.or_assoc, Option.or_self]

end Style.Properties

end WidgetMarkup
