/-!
# Tables of style properties

The body of a rule, and the style a widget has come to wear, are tables from
property names to values. A name occurs once, and whatever shows a table
shows it in the order of the names, by code point. So a `Properties` is the
list of its entries with strictly increasing names: there is only one such
list for each table, and two tables that answer every `get?` alike are
equal.

Each operation is known by what it does to `get?`: `get?_insert` says that
an insertion overrides, and `get?_merge` that a merge prefers the table
merged in.
-/

namespace WidgetMarkup.Style

/-- The entries after writing `value` under `name`, in order. -/
def insertEntry (name value : String) : List (String × String) → List (String × String)
  | [] => [(name, value)]
  | (n, v) :: more =>
    if name < n then (name, value) :: (n, v) :: more
    else if name = n then (name, value) :: more
    else (n, v) :: insertEntry name value more

/-- A name found after an insertion was there before or is the new one. -/
theorem mem_insertEntry {name value : String} {p : String × String}
    {entries : List (String × String)} (h : p ∈ insertEntry name value entries) :
    p = (name, value) ∨ p ∈ entries := by
  induction entries with
  | nil => simpa [insertEntry] using h
  | cons q more ih =>
    simp only [insertEntry] at h
    split at h
    · simpa using h
    · split at h
      · simp only [List.mem_cons] at h ⊢
        exact h.imp_right Or.inr
      · simp only [List.mem_cons] at h ⊢
        rcases h with h | h
        · exact Or.inr (Or.inl h)
        · exact (ih h).imp_right Or.inr

/-- Writing keeps the names in order. -/
theorem insertEntry_sorted {name value : String} {entries : List (String × String)}
    (h : entries.Pairwise (fun a b => a.1 < b.1)) :
    (insertEntry name value entries).Pairwise (fun a b => a.1 < b.1) := by
  induction entries with
  | nil => simp [insertEntry]
  | cons q more ih =>
    obtain ⟨hq, hmore⟩ := List.pairwise_cons.mp h
    simp only [insertEntry]
    split
    · next hlt =>
      refine List.pairwise_cons.mpr ⟨fun p hp => ?_, h⟩
      rcases List.mem_cons.mp hp with rfl | hp
      · exact hlt
      · exact String.lt_trans hlt (hq p hp)
    · split
      · next heq =>
        subst heq
        exact List.pairwise_cons.mpr ⟨hq, hmore⟩
      · next hnlt hne =>
        refine List.pairwise_cons.mpr ⟨fun p hp => ?_, ih hmore⟩
        rcases mem_insertEntry hp with rfl | hp
        · refine Decidable.byContradiction fun hge => hne ?_
          exact String.le_antisymm (String.not_lt.mp hge) (String.not_lt.mp hnlt)
        · exact hq p hp

/-- **A table of style properties**: entries with strictly increasing
names. -/
structure Properties where
  /-- The entries, a name and its value each. -/
  entries : List (String × String)
  /-- Every name is below all names after it, by code point. -/
  sorted : entries.Pairwise (fun a b => a.1 < b.1)

namespace Properties

instance : DecidableEq Properties := fun a b =>
  if h : a.entries = b.entries then
    isTrue (by cases a; cases b; simpa using h)
  else
    isFalse (fun hab => h (congrArg entries hab))

/-- The table without entries. -/
def empty : Properties := ⟨[], List.Pairwise.nil⟩

instance : Inhabited Properties := ⟨empty⟩

/-- The value under a name, if there is one. -/
def get? (t : Properties) (name : String) : Option String :=
  t.entries.lookup name

/-- The table with `value` under `name`, whatever stood there before. -/
def insert (t : Properties) (name value : String) : Properties :=
  ⟨insertEntry name value t.entries, insertEntry_sorted t.sorted⟩

/-- The table overridden by the entries of another. -/
def merge (t u : Properties) : Properties :=
  u.entries.foldl (fun t p => t.insert p.1 p.2) t

/-- The table that holds these entries, of which a later one overrides an
earlier one of the same name. -/
def ofEntries (entries : List (String × String)) : Properties :=
  entries.foldl (fun t p => t.insert p.1 p.2) empty

/-- The entries as one line of text: `name: value`, in order, with a
semicolon and a space between them. -/
def render (t : Properties) : String :=
  String.intercalate "; " (t.entries.map (fun p => p.1 ++ ": " ++ p.2))

@[simp]
theorem get?_empty (name : String) : empty.get? name = none := rfl

/-- A name is looked up in the first entry that bears it. -/
theorem lookup_cons_eq_ite (k : String) (q : String × String)
    (more : List (String × String)) :
    (q :: more).lookup k = if k = q.1 then some q.2 else more.lookup k := by
  obtain ⟨n, v⟩ := q
  rw [List.lookup_cons]
  by_cases hk : k = n
  · simp [hk]
  · simp [hk, beq_false_of_ne hk]

/-- **An insertion overrides one name** and leaves every other as it
was. -/
@[simp]
theorem get?_insert (t : Properties) (name value k : String) :
    (t.insert name value).get? k = if k = name then some value else t.get? k := by
  obtain ⟨entries, sorted⟩ := t
  simp only [get?, insert]
  clear sorted
  induction entries with
  | nil => rw [insertEntry, lookup_cons_eq_ite]
  | cons q more ih =>
    simp only [insertEntry]
    split
    · rw [lookup_cons_eq_ite]
    · split
      · next heq =>
        subst heq
        simp only [lookup_cons_eq_ite]
        split <;> rfl
      · next hne =>
        simp only [lookup_cons_eq_ite, ih]
        grind

/-- Folding entries into a table looks a name up in the last entry that
bears it, and in the table where there is none. -/
theorem get?_foldl_insert (entries : List (String × String)) (t : Properties) (k : String) :
    (entries.foldl (fun t p => t.insert p.1 p.2) t).get? k
      = (entries.reverse.lookup k).or (t.get? k) := by
  induction entries generalizing t with
  | nil => simp
  | cons q more ih =>
    rw [List.foldl_cons, ih, get?_insert, List.reverse_cons, List.lookup_append,
      lookup_cons_eq_ite]
    split <;> cases more.reverse.lookup k <;> simp

/-- Names that increase occur once, so either end of the list finds the same
entry. -/
theorem lookup_reverse_entries (t : Properties) (k : String) :
    t.entries.reverse.lookup k = t.get? k := by
  obtain ⟨entries, sorted⟩ := t
  simp only [get?]
  induction entries with
  | nil => rfl
  | cons q more ih =>
    obtain ⟨hq, hmore⟩ := List.pairwise_cons.mp sorted
    rw [List.reverse_cons, List.lookup_append, ih hmore, lookup_cons_eq_ite,
      lookup_cons_eq_ite]
    split
    · next hk =>
      have : more.lookup k = none := by
        rw [List.lookup_eq_none_iff]
        intro p hp
        have hlt := hq p hp
        rw [← hk] at hlt
        rw [bne_iff_ne]
        intro h
        exact String.lt_irrefl k (h ▸ hlt)
      simp [this]
    · cases more.lookup k <;> simp

/-- **A merge prefers the table merged in.** -/
@[simp]
theorem get?_merge (t u : Properties) (k : String) :
    (t.merge u).get? k = (u.get? k).or (t.get? k) := by
  rw [merge, get?_foldl_insert, lookup_reverse_entries]

end Properties

end WidgetMarkup.Style
