import WidgetMarkup.Proofs.Style.Names
import WidgetMarkup.Proofs.Style.Table
import WidgetMarkup.Style.Declaration

/-!
# Reading the text of a table

The style of a widget is shown as a line of declarations: `Properties.render`
writes what `parseDeclarations` reads. No name holds a colon and neither names
nor values hold a semicolon, so the line is cut where the entries were joined,
and a value, which is trimmed already, is read as it is.

A name need not be. It was trimmed before it was put in camel case, and where
white space stood next to the dashes at its ends, it begins or ends with this
white space. Reading the line trims it, and so a table that has such a name is
not read as it is (`reread_parseDeclarations`). The table that is read instead
has no such name any more.
-/

namespace WidgetMarkup.Style

open Text

/-- **The table that is read** where the text of a table is taken for the body of
a rule. -/
def reread (t : Properties) : Properties :=
  parseDeclarations t.render.toList

/-- An entry as it is read: its name trimmed, and nothing where no name is
left. -/
def readAgain? (p : String × String) : Option (String × String) :=
  match trim p.1.toList with
  | [] => none
  | name => some (String.ofList name, p.2)

/-- The names that a body writes, before they are put in camel case. -/
def writtenNames (body : List Char) : List (List Char) :=
  (body.splitOn ';').filterMap fun piece => (splitOnce ':' piece).map fun cut => trim cut.1

/-- **What a declaration can say.** -/
structure Declarable (p : String × String) : Prop where
  /-- There is a name. -/
  name_ne_nil : p.1.toList ≠ []
  /-- Nothing in the name is taken for something else. -/
  notMem_name : '-' ∉ p.1.toList ∧ ':' ∉ p.1.toList ∧ ';' ∉ p.1.toList
  /-- The value does not end early. -/
  notMem_value : ';' ∉ p.2.toList
  /-- The value is trimmed. -/
  trim_value : trim p.2.toList = p.2.toList

/-! ## One declaration -/

/-- **What one piece declares.** -/
theorem declaration?_eq_some_iff {piece : List Char} {p : String × String} :
    declaration? piece = some p
      ↔ ∃ name value, splitOnce ':' piece = some (name, value) ∧ camelCase (trim name) ≠ []
          ∧ p = (String.ofList (camelCase (trim name)), String.ofList (trim value)) := by
  unfold declaration?
  constructor
  · intro h
    split at h
    · cases h
    · next name value hsplit =>
      split at h
      · cases h
      · next hname => exact ⟨name, value, hsplit, hname, (Option.some.inj h).symm⟩
  · rintro ⟨name, value, hsplit, hname, rfl⟩
    rw [hsplit]
    dsimp only
    split
    · next hnil => exact absurd hnil hname
    · rfl

/-- A piece between semicolons holds none. -/
theorem notMem_of_mem_splitOn {mark : Char} {s piece : List Char}
    (h : piece ∈ s.splitOn mark) : mark ∉ piece := by
  induction s generalizing piece with
  | nil =>
    obtain rfl : piece = [] := by simpa using h
    simp
  | cons c s ih =>
    rw [List.splitOn_cons_eq_if_modifyHead] at h
    split at h
    · rcases List.mem_cons.mp h with rfl | h
      · simp
      · exact ih h
    · next hc =>
      obtain ⟨first, more, hsplit⟩ := List.exists_cons_of_ne_nil (List.splitOn_ne_nil mark s)
      rw [hsplit] at h ih
      rcases List.mem_cons.mp h with rfl | h
      · have hne : mark ≠ c := fun heq => hc (by simp [heq])
        simpa [hne] using ih List.mem_cons_self
      · exact ih (List.mem_cons_of_mem _ h)

/-- A delimiter in a name in camel case stood in the piece, before its colon. -/
theorem mem_of_mem_camelCase_trim {piece name value : List Char} {c : Char}
    (hsplit : splitOnce ':' piece = some (name, value)) (hc : isDelimiter c = true)
    (h : c ∈ camelCase (trim name)) : c ∈ piece ∧ c ≠ '-' ∧ c ≠ ':' := by
  obtain ⟨rfl, hcolon⟩ := splitOnce_eq_some_iff.mp hsplit
  obtain ⟨hmem, hdash⟩ := mem_of_mem_camelCase hc h
  have hname := mem_of_mem_trim hmem
  refine ⟨List.mem_append_left _ hname, hdash, ?_⟩
  rintro rfl
  exact hcolon hname

theorem declarable_of_declaration? {piece : List Char} {p : String × String}
    (hpiece : ';' ∉ piece) (h : declaration? piece = some p) : Declarable p := by
  obtain ⟨name, value, hsplit, hne, rfl⟩ := declaration?_eq_some_iff.mp h
  refine ⟨by simpa using hne, ?_, ?_, by simpa using trim_trim value⟩
  · simp only [String.toList_ofList]
    refine ⟨fun hmem => ?_, fun hmem => ?_, fun hmem => ?_⟩
    · exact (mem_of_mem_camelCase_trim hsplit (by decide) hmem).2.1 rfl
    · exact (mem_of_mem_camelCase_trim hsplit (by decide) hmem).2.2 rfl
    · exact hpiece (mem_of_mem_camelCase_trim hsplit (by decide) hmem).1
  · obtain ⟨rfl, -⟩ := splitOnce_eq_some_iff.mp hsplit
    simp only [String.toList_ofList]
    intro hmem
    exact hpiece (List.mem_append_right _ (List.mem_cons_of_mem _ (mem_of_mem_trim hmem)))

/-- **What a body declares can be declared**, entry by entry. -/
theorem declarable_of_mem_entries {body : List Char} {p : String × String}
    (h : p ∈ (parseDeclarations body).entries) : Declarable p := by
  obtain ⟨piece, hpiece, hdecl⟩ := List.mem_filterMap.mp (Properties.mem_of_mem_entries_ofEntries h)
  exact declarable_of_declaration? (notMem_of_mem_splitOn hpiece) hdecl

/-! ## A line of declarations -/

/-- The text of an entry. -/
def entryText (p : String × String) : List Char :=
  p.1.toList ++ ':' :: ' ' :: p.2.toList

/-- **An entry is read where it is written**, with or without a space in
front. -/
theorem declaration?_entryText {p : String × String} (h : Declarable p) (space : List Char)
    (hspace : allBlank space = true) (hcolon : ':' ∉ space) :
    declaration? (space ++ entryText p) = readAgain? p := by
  have hname : ':' ∉ space ++ p.1.toList := by simp [hcolon, h.notMem_name.2.1]
  have hdash : '-' ∉ trim p.1.toList := fun hmem => h.notMem_name.1 (mem_of_mem_trim hmem)
  have hvalue : trim (' ' :: p.2.toList) = p.2.toList :=
    (trim_append_of_allBlank (show allBlank [' '] = true by decide) _).trans h.trim_value
  rw [entryText, ← List.append_assoc, declaration?, splitOnce_append_cons hname]
  dsimp only
  rw [trim_append_of_allBlank hspace, camelCase_of_notMem hdash, hvalue, readAgain?]
  cases trim p.1.toList with
  | nil => rfl
  | cons c name => simp

theorem semicolon_notMem_entryText {p : String × String} (h : Declarable p) :
    ';' ∉ entryText p := by
  simp [entryText, h.notMem_name.2.2, h.notMem_value]

/-- The space after a semicolon can be taken for the begin of the next text. -/
theorem intercalate_semicolon_space (first : List Char) (more : List (List Char)) :
    "; ".toList.intercalate (first :: more)
      = [';'].intercalate (first :: more.map (' ' :: ·)) := by
  induction more generalizing first with
  | nil => simp
  | cons next more ih =>
    rw [List.intercalate_cons_cons, ih, List.map_cons, List.intercalate_cons_cons]
    cases more <;> simp [List.intercalate_cons_cons]

/-- **The text of a table is cut into its entries**, with a space in front of all
but the first. -/
theorem splitOn_render {t : Properties} {p : String × String} {more : List (String × String)}
    (ht : t.entries = p :: more) (h : ∀ q ∈ t.entries, Declarable q) :
    t.render.toList.splitOn ';' = entryText p :: more.map fun q => ' ' :: entryText q := by
  have htext : ∀ q : String × String, (q.1 ++ ": " ++ q.2).toList = entryText q := by
    intro q
    simp [entryText]
  rw [ht] at h
  rw [Properties.render, String.toList_intercalate, ht, List.map_cons, List.map_cons,
    intercalate_semicolon_space, List.map_map, List.map_map]
  have hpieces : ∀ piece ∈ entryText p :: more.map (fun q => ' ' :: entryText q), ';' ∉ piece := by
    intro piece hpiece
    rcases List.mem_cons.mp hpiece with rfl | hpiece
    · exact semicolon_notMem_entryText (h p List.mem_cons_self)
    · obtain ⟨q, hq, rfl⟩ := List.mem_map.mp hpiece
      simpa using semicolon_notMem_entryText (h q (List.mem_cons_of_mem _ hq))
  rw [← List.splitOn_intercalate ';' hpieces (by simp)]
  simp [htext, Function.comp_def]

/-- **What the text of a table declares**: its entries, each as it is read. -/
theorem declarations_render {t : Properties} (h : ∀ p ∈ t.entries, Declarable p) :
    declarations t.render.toList = t.entries.filterMap readAgain? := by
  unfold declarations
  cases ht : t.entries with
  | nil =>
    rw [Properties.render, ht]
    rfl
  | cons p more =>
    rw [splitOn_render ht h, List.filterMap_cons, List.filterMap_cons, List.filterMap_map]
    have hfirst := declaration?_entryText (h p (ht ▸ List.mem_cons_self)) [] rfl (by simp)
    have hmore : more.filterMap (declaration? ∘ fun q => ' ' :: entryText q)
        = more.filterMap readAgain? := by
      refine List.filterMap_congr (fun q hq => ?_)
      exact declaration?_entryText (h q (ht ▸ List.mem_cons_of_mem p hq)) [' '] (by decide)
        (by decide)
    rw [List.nil_append] at hfirst
    rw [hfirst, hmore]

/-! ## Tables -/

section Tables

variable {t : Properties} (h : ∀ p ∈ t.entries, Declarable p)

include h

theorem reread_eq : reread t = .ofEntries (t.entries.filterMap readAgain?) := by
  rw [reread, parseDeclarations, declarations_render h]

/-- A name that is read is trimmed. -/
theorem trim_of_mem_entries_reread {p : String × String} (hp : p ∈ (reread t).entries) :
    trim p.1.toList = p.1.toList := by
  rw [reread_eq h] at hp
  obtain ⟨q, -, hq⟩ := List.mem_filterMap.mp (Properties.mem_of_mem_entries_ofEntries hp)
  unfold readAgain? at hq
  split at hq
  · cases hq
  · obtain rfl := Option.some.inj hq
    simpa using trim_trim q.1.toList

/-- **A table is read as it is** if its names are trimmed, and otherwise not. -/
theorem reread_eq_self_iff : reread t = t ↔ ∀ p ∈ t.entries, trim p.1.toList = p.1.toList := by
  constructor
  · intro heq p hp
    rw [← heq] at hp
    exact trim_of_mem_entries_reread h hp
  · intro htrim
    have hkept : ∀ p ∈ t.entries, readAgain? p = some p := by
      intro p hp
      have hne := (h p hp).name_ne_nil
      rw [readAgain?, htrim p hp]
      split
      · next hnil => exact absurd hnil hne
      · rw [String.ofList_toList]
    have hentries : t.entries.filterMap readAgain? = t.entries := by
      rw [List.filterMap_congr hkept, List.filterMap_some]
    rw [reread_eq h, hentries, Properties.ofEntries_entries]

end Tables

/-- The names that a body declares are those it writes, in camel case. -/
theorem mem_names_declarations {body : List Char} {k : String} :
    k ∈ (declarations body).map Prod.fst
      ↔ ∃ name ∈ writtenNames body, camelCase name ≠ [] ∧ k = String.ofList (camelCase name) := by
  simp only [declarations, writtenNames, List.mem_map, List.mem_filterMap, Option.map_eq_some_iff,
    declaration?_eq_some_iff]
  constructor
  · rintro ⟨-, ⟨piece, hpiece, name, value, hsplit, hne, rfl⟩, rfl⟩
    exact ⟨trim name, ⟨piece, hpiece, (name, value), hsplit, rfl⟩, hne, rfl⟩
  · rintro ⟨-, ⟨piece, hpiece, ⟨name, value⟩, hsplit, rfl⟩, hne, rfl⟩
    exact ⟨_, ⟨piece, hpiece, name, value, hsplit, hne, rfl⟩, rfl⟩

/-- **When the names of a body's table are trimmed**: white space stands nowhere
between the dashes at an end of a written name and the rest of it. -/
theorem trimmed_names_iff (body : List Char) :
    (∀ p ∈ (parseDeclarations body).entries, trim p.1.toList = p.1.toList)
      ↔ ∀ name ∈ writtenNames body, trim (betweenDashes name) = betweenDashes name := by
  have hnames : (∀ p ∈ (parseDeclarations body).entries, trim p.1.toList = p.1.toList)
      ↔ ∀ k ∈ (declarations body).map Prod.fst, trim k.toList = k.toList := by
    constructor
    · intro h k hk
      obtain ⟨p, hp, rfl⟩ := List.mem_map.mp (Properties.mem_names_ofEntries.mpr hk)
      exact h p hp
    · exact fun h p hp => h p.1 (Properties.mem_names_ofEntries.mp (List.mem_map_of_mem hp))
  rw [hnames]
  simp only [mem_names_declarations, ← trim_camelCase_eq_self_iff]
  constructor
  · intro h name hname
    by_cases hnil : camelCase name = []
    · rw [hnil]
      rfl
    · simpa using h _ ⟨name, hname, hnil, rfl⟩
  · rintro h - ⟨name, hname, -, rfl⟩
    simpa using h name hname

/-- **What is read of the text of a table** that a body has declared.

* The entries are read with their names trimmed. One whose name is white space
  is not read, and of names that become one the last in order counts.
* So the table is read as it is exactly if none of its names begins or ends with
  white space.
* That is so exactly if in no name that the body writes white space stands
  between the dashes at an end of the name and the rest of it.
* What is read is read again as it is. -/
theorem reread_parseDeclarations (body : List Char) :
    reread (parseDeclarations body)
        = .ofEntries ((parseDeclarations body).entries.filterMap readAgain?)
      ∧ (reread (parseDeclarations body) = parseDeclarations body
        ↔ ∀ p ∈ (parseDeclarations body).entries, trim p.1.toList = p.1.toList)
      ∧ (reread (parseDeclarations body) = parseDeclarations body
        ↔ ∀ name ∈ writtenNames body, trim (betweenDashes name) = betweenDashes name)
      ∧ reread (reread (parseDeclarations body)) = reread (parseDeclarations body) := by
  have hbody : ∀ p ∈ (parseDeclarations body).entries, Declarable p :=
    fun p hp => declarable_of_mem_entries hp
  have hread : ∀ p ∈ (reread (parseDeclarations body)).entries, Declarable p :=
    fun p hp => declarable_of_mem_entries hp
  have hself := reread_eq_self_iff hbody
  refine ⟨reread_eq hbody, hself, hself.trans (trimmed_names_iff body), ?_⟩
  exact (reread_eq_self_iff hread).mpr fun p hp => trim_of_mem_entries_reread hbody hp

/-- White space after the first dash stays in the name, and is trimmed off when
the name is read again. -/
theorem reread_ne_of_blank_after_dash :
    (parseDeclarations "- a: v".toList).entries = [(" a", "v")]
      ∧ (parseDeclarations "- a: v".toList).render = " a: v"
      ∧ (reread (parseDeclarations "- a: v".toList)).entries = [("a", "v")]
      ∧ reread (parseDeclarations "- a: v".toList) ≠ parseDeclarations "- a: v".toList := by
  decide +kernel

/-- Dashes inside a name and colons in a value do no harm. -/
example : reread (parseDeclarations "margin--top : 1 ; ; b : url(x:y)".toList)
    = .ofEntries [("marginTop", "1"), ("b", "url(x:y)")] := by
  decide +kernel

end WidgetMarkup.Style
