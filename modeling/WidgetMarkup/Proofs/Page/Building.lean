import WidgetMarkup.Proofs.Page.NewWidget
import WidgetMarkup.Proofs.Page.Visit

/-!
# Building follows the visits

Building what is inside a node makes one widget for each container and leaf
that it visits, and the widgets are to each other as the elements are. The
two sides are tied together by a numbering of places: `number path` is the
widget of the element that stands at `path`, and the place of the node itself
has the number of the widget that is built into. Such a numbering gives the
new widgets the next free numbers in document order.

`Builds` says what building a row of visits does to the scene, the book and
the tally. It says so without a tree: the children of a widget, an old or a
new one, are its former children followed by the widgets of those visits
whose place lies directly below. For that reason building one row and then
another is building the two rows together (`Builds.append`), and the tree is
followed only where building follows it.
-/

namespace WidgetMarkup

namespace Visit

/-- Does the element become a widget? -/
def ordinary (roles : TagRoles) (v : Visit) : Bool :=
  roles.role v.tag = .container || roles.role v.tag = .leaf

/-- The value that the widget of the element has. -/
def value (roles : TagRoles) (v : Visit) : Option String :=
  if roles.role v.tag = .leaf ∧ (WidgetKind.ofTag v.tag).holdsValue then
    Node.leadingTextOf? v.children
  else none

/-- The rules of a style element. -/
def rules (v : Visit) : List Style.Rule :=
  match Node.leadingTextOf? v.children with
  | none => []
  | some text => Style.Sheet.rules text

end Visit

namespace Construction

variable {c c₁ c₂ : Construction} {roles : TagRoles}

/-! ## What building a row of visits does -/

/-- The widgets of those visits whose place lies directly below the place of
a widget, in order. -/
def rowOf (number : List Nat → WidgetId) (made : List Visit) (id : WidgetId) : List WidgetId :=
  (made.filter fun v => number v.path.dropLast = id).map fun v => number v.path

/-- **The places have the next free numbers**, in order. -/
def Numbers (roles : TagRoles) (number : List Nat → WidgetId) (first : WidgetId)
    (seen : List Visit) : Prop :=
  (seen.filter (·.ordinary roles)).map (fun v => number v.path)
    = List.range' first (seen.filter (·.ordinary roles)).length

/-- **What building a row of visits adds up to.** -/
structure Adds (roles : TagRoles) (seen : List Visit) (c c' : Construction) : Prop where
  /-- One widget for each element that becomes one. -/
  nextId : c'.scene.nextId = c.scene.nextId + (seen.filter (·.ordinary roles)).length
  /-- The rules of every style element, in order. -/
  rules : c'.book.rules
    = c.book.rules ++ (seen.filter (fun v => roles.role v.tag = .style)).flatMap Visit.rules
  /-- One signal for each flush element. -/
  flushes : c'.scene.flushes
    = c.scene.flushes + seen.countP (fun v => roles.role v.tag = .flush)
  /-- All of it is counted. -/
  tally : c'.tally
    = { widgets := c.tally.widgets + (seen.filter (·.ordinary roles)).length
        rules := c.tally.rules
          + ((seen.filter (fun v => roles.role v.tag = .style)).flatMap Visit.rules).length
        flushes := c.tally.flushes + seen.countP (fun v => roles.role v.tag = .flush) }

/-- **What building a row of visits does**, when `number` numbers the
places. -/
structure Builds (roles : TagRoles) (number : List Nat → WidgetId) (seen : List Visit)
    (c c' : Construction) : Prop extends Adds roles seen c c' where
  /-- A widget that was there gets further children and stays as it is. -/
  old : ∀ id w, c.scene.widget? id = some w → c'.scene.widget? id
    = some { w with
        children := w.children ++ rowOf number (seen.filter (·.ordinary roles)) id }
  /-- A new widget is what its element says. -/
  new : ∀ v ∈ seen.filter (·.ordinary roles), c'.scene.widget? (number v.path)
    = some
        { kind := .ofTag v.tag
          tag := v.tag
          attributes := settle v.attributes
          value := v.value roles
          style := .empty
          parent := some (number v.path.dropLast)
          children := rowOf number (seen.filter (·.ordinary roles)) (number v.path) }

theorem Adds.append {seen more : List Visit} (h : Adds roles seen c c₁)
    (hmore : Adds roles more c₁ c₂) : Adds roles (seen ++ more) c c₂ where
  nextId := by
    rw [hmore.nextId, h.nextId, List.filter_append, List.length_append, Nat.add_assoc]
  rules := by
    rw [hmore.rules, h.rules, List.filter_append, List.flatMap_append, List.append_assoc]
  flushes := by
    rw [hmore.flushes, h.flushes, List.countP_append, Nat.add_assoc]
  tally := by
    rw [hmore.tally, h.tally]
    simp only [List.filter_append, List.length_append, List.flatMap_append, List.countP_append,
      Nat.add_assoc]

theorem rowOf_append (number : List Nat → WidgetId) (made more : List Visit) (id : WidgetId) :
    rowOf number (made ++ more) id = rowOf number made id ++ rowOf number more id := by
  unfold rowOf
  rw [List.filter_append, List.map_append]

theorem numbers_append_iff {number : List Nat → WidgetId} {first : WidgetId}
    {seen more : List Visit} :
    Numbers roles number first (seen ++ more)
      ↔ Numbers roles number first seen
        ∧ Numbers roles number (first + (seen.filter (·.ordinary roles)).length) more := by
  unfold Numbers
  rw [List.filter_append, List.map_append, List.length_append, ← List.range'_append_1]
  constructor
  · intro h
    exact List.append_inj h (by rw [List.length_map, List.length_range'])
  · rintro ⟨h, hmore⟩
    rw [h, hmore]

theorem numbers_cons_iff {number : List Nat → WidgetId} {first : WidgetId} {v : Visit}
    {seen : List Visit} (hv : v.ordinary roles = true) :
    Numbers roles number first (v :: seen)
      ↔ number v.path = first ∧ Numbers roles number (first + 1) seen := by
  unfold Numbers
  simp [hv, List.range'_succ]

namespace Builds

variable {number : List Nat → WidgetId} {seen more : List Visit} {c' : Construction}

/-- Visits that become no widget leave every widget as it is. -/
theorem of_filter_eq_nil (hmade : seen.filter (·.ordinary roles) = [])
    (hadds : Adds roles seen c c') (hwidget : ∀ x, c'.scene.widget? x = c.scene.widget? x) :
    Builds roles number seen c c' where
  toAdds := hadds
  old id w hw := by
    rw [hwidget, hw, hmade]
    simp [rowOf]
  new v hv := by
    rw [hmade] at hv
    cases hv

theorem nil (roles : TagRoles) (number : List Nat → WidgetId) (c : Construction) :
    Builds roles number [] c c :=
  of_filter_eq_nil rfl ⟨rfl, (List.append_nil _).symm, rfl, rfl⟩ (fun _ => rfl)

/-- **Building one row and then another is building both.** The widgets of
the second row are no parents of the first: a parent exists before its
children. -/
theorem append (h : Builds roles number seen c c₁) (hmore : Builds roles number more c₁ c₂)
    (hs : c₁.scene.Linked) (hnum : Numbers roles number c₁.scene.nextId more) :
    Builds roles number (seen ++ more) c c₂ where
  toAdds := h.toAdds.append hmore.toAdds
  old id w hw := by
    rw [hmore.old id _ (h.old id w hw), List.filter_append, rowOf_append]
    simp
  new v hv := by
    rw [List.filter_append] at hv ⊢
    rw [rowOf_append]
    rcases List.mem_append.mp hv with hv | hv
    · exact hmore.old _ _ (h.new v hv)
    · have hlt : c₁.scene.nextId ≤ number v.path := by
        have hmem := List.mem_map_of_mem (f := fun v => number v.path) hv
        rw [hnum] at hmem
        exact (List.mem_range'_1.mp hmem).1
      -- no widget of the first row has its parent among those made later
      have hnone : rowOf number (seen.filter (·.ordinary roles)) (number v.path) = [] := by
        refine List.map_eq_nil_iff.mpr (List.filter_eq_nil_iff.mpr (fun u hu hcontr => ?_))
        have hparent := hs.lt_of_parent? (Scene.parent?_of_widget? (h.new u hu))
        rw [of_decide_eq_true hcontr] at hparent
        exact Nat.not_lt.mpr hlt hparent
      rw [hnone, List.nil_append]
      exact hmore.new v hv

/-- Making the widget of a visit is building it, if the widget has the value
that it should have. -/
theorem of_widget? {v : Visit} (hv : v.ordinary roles = true)
    (hnum : number v.path = c.scene.nextId)
    (hp : number v.path.dropLast < c.scene.nextId)
    (hnextId : c'.scene.nextId = c.scene.nextId + 1)
    (hwidget : ∀ x, c'.scene.widget? x
      = if x = c.scene.nextId then
          some { Widget.ofTag v.tag with
            attributes := settle v.attributes
            value := v.value roles
            parent := some (number v.path.dropLast) }
        else (c.scene.widget? x).map fun w =>
          { w with
            children := w.children
              ++ if number v.path.dropLast = x then [c.scene.nextId] else [] })
    (hflushes : c'.scene.flushes = c.scene.flushes) (hbook : c'.book = c.book)
    (htally : c'.tally = { c.tally with widgets := c.tally.widgets + 1 }) :
    Builds roles number [v] c c' := by
  have hmade : [v].filter (·.ordinary roles) = [v] := by simp [hv]
  have hrow : ∀ x, rowOf number [v] x
      = if number v.path.dropLast = x then [c.scene.nextId] else [] := by
    intro x
    unfold rowOf
    by_cases hx : number v.path.dropLast = x <;> simp [hx, hnum]
  have hrole : roles.role v.tag ≠ .style ∧ roles.role v.tag ≠ .flush := by
    unfold Visit.ordinary at hv
    constructor <;> intro h <;> simp [h] at hv
  refine ⟨⟨?nextId, ?rules, ?flushes, ?tally⟩, fun id w hw => ?old, fun u hu => ?new⟩
  case nextId =>
    rw [hnextId, hmade]
    rfl
  case rules => simp [hbook, hrole.1]
  case flushes => simp [hflushes, hrole.2]
  case tally =>
    rw [htally, hmade]
    simp [hrole.1, hrole.2]
  case old =>
    have hne : id ≠ c.scene.nextId := Nat.ne_of_lt (Scene.lt_nextId_of_widget? hw)
    rw [hwidget, if_neg hne, hw, hmade, hrow]
    rfl
  case new =>
    rw [hmade, List.mem_singleton] at hu
    subst hu
    -- the widget is no child of itself, since its parent was there before
    rw [hmade, hrow, hnum, hwidget, if_pos rfl, if_neg (Nat.ne_of_lt hp)]
    rfl

theorem container (hs : c.scene.Linked) {v : Visit} (hrole : roles.role v.tag = .container)
    (hnum : number v.path = c.scene.nextId)
    (hp : number v.path.dropLast < c.scene.nextId) :
    Builds roles number [v] c (c.addWidget (number v.path.dropLast) v.tag v.attributes) := by
  refine of_widget? ?_ hnum hp (nextId_addWidget c _ _ _) (fun x => ?_)
    (flushes_addWidget c _ _ _) rfl rfl
  · simp [Visit.ordinary, hrole]
  · have hvalue : v.value roles = none := by simp [Visit.value, hrole]
    rw [widget?_addWidget hs hp, hvalue]
    rfl

theorem leaf (hs : c.scene.Linked) {v : Visit} (hrole : roles.role v.tag = .leaf)
    (hnum : number v.path = c.scene.nextId)
    (hp : number v.path.dropLast < c.scene.nextId) :
    Builds roles number [v] c
      ((c.addWidget (number v.path.dropLast) v.tag v.attributes).setValue c.scene.nextId
        (Node.leadingTextOf? v.children)) := by
  have hordinary : v.ordinary roles = true := by simp [Visit.ordinary, hrole]
  have hvalue : v.value roles = if (WidgetKind.ofTag v.tag).holdsValue then
      Node.leadingTextOf? v.children else none := by
    simp [Visit.value, hrole]
  cases htext : Node.leadingTextOf? v.children with
  | none =>
    refine of_widget? hordinary hnum hp (nextId_addWidget c _ _ _) (fun x => ?_)
      (flushes_addWidget c _ _ _) rfl rfl
    rw [htext, ite_self] at hvalue
    rw [hvalue]
    exact widget?_addWidget hs hp v.tag v.attributes x
  | some text =>
    refine of_widget? hordinary hnum hp ?_ (fun x => ?_) (flushes_addWidget c _ _ _) rfl rfl
    · show Scene.nextId (Scene.update _ _ _) = _
      rw [Scene.nextId_update, nextId_addWidget]
    · rw [hvalue, htext]
      show Scene.widget? (Scene.update _ _ _) x = _
      rw [Scene.widget?_update, widget?_addWidget hs hp]
      by_cases hx : x = c.scene.nextId
      · rw [if_pos hx.symm, if_pos hx, if_pos hx, Option.map_some]
        unfold Widget.setValue Widget.ofTag
        dsimp only
        split <;> rfl
      · rw [if_neg (Ne.symm hx), if_neg hx, if_neg hx]

theorem style {v : Visit} (hrole : roles.role v.tag = .style) :
    Builds roles number [v] c (c.addSheet (Node.leadingTextOf? v.children)) := by
  have hmade : [v].filter (·.ordinary roles) = [] := by simp [Visit.ordinary, hrole]
  have hsheet : c.addSheet (Node.leadingTextOf? v.children)
      = { c with
          book := c.book.add v.rules
          tally := { c.tally with rules := c.tally.rules + v.rules.length } } := by
    unfold Visit.rules addSheet
    cases Node.leadingTextOf? v.children with
    | none => simp [RuleBook.add]
    | some text => rfl
  rw [hsheet]
  refine of_filter_eq_nil hmade ?_ (fun _ => rfl)
  constructor <;> simp [hmade, hrole]

theorem flush {v : Visit} (hrole : roles.role v.tag = .flush) :
    Builds roles number [v] c c.signal := by
  have hmade : [v].filter (·.ordinary roles) = [] := by simp [Visit.ordinary, hrole]
  refine of_filter_eq_nil hmade ?_ (fun _ => rfl)
  constructor <;> simp [hmade, hrole, signal, Scene.signal, Scene.nextId]

end Builds

/-! ## Building follows the visits -/

mutual

/-- Building an element builds the visits that begin at it. -/
theorem builds_build {c : Construction} (number : List Nat → WidgetId) (path : List Nat)
    {n : Node} (h : c.scene.Reachable) (hp : number path.dropLast < c.scene.nextId)
    (hnum : Numbers roles number c.scene.nextId (Node.visitsAt roles path n)) :
    (build roles (number path.dropLast) c n).scene.Reachable
      ∧ Builds roles number (Node.visitsAt roles path n) c
          (build roles (number path.dropLast) c n) := by
  match n with
  | .text _ => exact ⟨h, .nil roles number c⟩
  | .comment _ => exact ⟨h, .nil roles number c⟩
  | .element tag attributes children =>
    rw [Node.visitsAt] at hnum ⊢
    rw [build]
    cases hrole : roles.role tag with
    | style =>
      refine ⟨?_, .style hrole⟩
      show (c.addSheet _).scene.Reachable
      cases Node.leadingTextOf? children <;> exact h
    | flush => exact ⟨h.signal, .flush hrole⟩
    | leaf =>
      obtain ⟨hpath, -⟩ := (numbers_cons_iff (by simp [Visit.ordinary, hrole])).mp hnum
      refine ⟨?_, .leaf h.linked hrole hpath hp⟩
      have hwidget := reachable_addWidget h hp tag attributes
      cases Node.leadingTextOf? children with
      | none => exact hwidget
      | some text =>
        refine hwidget.setValue ?_ text
        rw [nextId_addWidget]
        exact Nat.lt_succ_self _
    | container =>
      rw [hrole] at hnum
      obtain ⟨hpath, hinside⟩ := (numbers_cons_iff (by simp [Visit.ordinary, hrole])).mp hnum
      have hwidget := reachable_addWidget h hp tag attributes
      have hnextId := nextId_addWidget c (number path.dropLast) tag attributes
      rw [← hnextId] at hinside
      have hlt : number path < (c.addWidget (number path.dropLast) tag attributes).scene.nextId := by
        rw [hnextId, show number path = c.scene.nextId from hpath]
        exact Nat.lt_succ_self _
      obtain ⟨hreach, hbuilds⟩ := builds_buildAll number path hwidget hlt hinside
      rw [show number path = c.scene.nextId from hpath] at hreach hbuilds
      have hself : Builds roles number [⟨path, tag, attributes, children⟩] c
          (c.addWidget (number path.dropLast) tag attributes) :=
        .container h.linked hrole hpath hp
      exact ⟨hreach, hself.append hbuilds hwidget.linked hinside⟩

/-- Building a row of nodes builds the visits in it. -/
theorem builds_buildAll {c : Construction} (number : List Nat → WidgetId) (path : List Nat)
    {i : Nat} {row : List Node} (h : c.scene.Reachable) (hp : number path < c.scene.nextId)
    (hnum : Numbers roles number c.scene.nextId (Node.visitsFrom roles path i row)) :
    (buildAll roles (number path) c row).scene.Reachable
      ∧ Builds roles number (Node.visitsFrom roles path i row) c
          (buildAll roles (number path) c row) := by
  match row with
  | [] => exact ⟨h, .nil roles number c⟩
  | n :: more =>
    rw [Node.visitsFrom] at hnum ⊢
    rw [buildAll]
    -- the numbers of the row are those of its first node and those left over
    obtain ⟨hfirst, hrest⟩ := numbers_append_iff.mp hnum
    have hlast : (path ++ [i]).dropLast = path := List.dropLast_concat
    have hone := builds_build number (path ++ [i]) h (by rwa [hlast]) hfirst
    rw [hlast] at hone
    obtain ⟨hreach, hbuilds⟩ := hone
    rw [← hbuilds.nextId] at hrest
    have hlt : number path < (build roles (number path) c n).scene.nextId := by
      rw [hbuilds.nextId]
      exact Nat.lt_add_right _ hp
    obtain ⟨hreach', hbuilds'⟩ := builds_buildAll number path hreach hlt hrest
    exact ⟨hreach', hbuilds.append hbuilds' hreach.linked hrest⟩

end

end Construction

end WidgetMarkup
