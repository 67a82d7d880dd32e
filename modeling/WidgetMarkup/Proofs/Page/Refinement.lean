import WidgetMarkup.Proofs.Page.Building

/-!
# A page is its document

Here the numbers are given out. The place of the node that is looked into has
the number of the widget that is built into, and the places that become
widgets are counted on from the first free number, in document order. Places
are different from each other, so different places have different numbers,
and the children of a widget, which building gives as numbers, can be told as
places: they are the visits one level below.
-/

namespace WidgetMarkup

/-- The node that is looked into and the containers visited are what visits
stand directly below. -/
theorem Node.Visited.parent {roles : TagRoles} {n : Node} {v : Visit} (h : n.Visited roles v) :
    v.path.dropLast = []
      ∨ ∃ u, n.Visited roles u ∧ roles.role u.tag = .container ∧ u.path = v.path.dropLast := by
  cases h with
  | child _ => exact .inl rfl
  | inner hu hrole _ => exact .inr ⟨_, hu, hrole, List.dropLast_concat.symm⟩

namespace Construction

variable {roles : TagRoles} {p first : WidgetId} {made : List Visit}

/-! ## Numbers for places -/

/-- **The number of a place**, when `made` become widgets one after another
under the widget `p`. -/
def numbering (p first : WidgetId) (made : List Visit) (path : List Nat) : WidgetId :=
  if path = [] then p else first + (made.map Visit.path).idxOf path

theorem numbering_nil : numbering p first made [] = p := if_pos rfl

theorem numbering_of_ne_nil {path : List Nat} (h : path ≠ []) :
    numbering p first made path = first + (made.map Visit.path).idxOf path := if_neg h

/-- What becomes a widget has the next free numbers, in order. -/
theorem map_numbering (hnodup : (made.map Visit.path).Nodup) (hne : [] ∉ made.map Visit.path) :
    made.map (fun v => numbering p first made v.path) = List.range' first made.length := by
  refine List.ext_getElem (by rw [List.length_map, List.length_range']) (fun i hi _ => ?_)
  have hi' : i < (made.map Visit.path).length := by
    rw [List.length_map] at hi ⊢
    exact hi
  have hpath : (made.map Visit.path)[i] ≠ [] := fun h => hne (h ▸ List.getElem_mem hi')
  rw [List.getElem_map, List.getElem_range', ← List.getElem_map Visit.path (h := hi'),
    numbering_of_ne_nil hpath, hnodup.idxOf_getElem i hi', Nat.one_mul]

/-- **Different places have different numbers.** -/
theorem numbering_inj (hp : p < first) {a b : List Nat} (ha : a = [] ∨ a ∈ made.map Visit.path) :
    numbering p first made a = numbering p first made b ↔ a = b := by
  refine ⟨fun h => ?_, congrArg _⟩
  -- the numbers that are given out are larger than `p`
  have hlt (n : Nat) : p ≠ first + n := Nat.ne_of_lt (Nat.lt_add_right n hp)
  by_cases hnil : a = [] <;> by_cases hnil' : b = []
  · rw [hnil, hnil']
  · rw [hnil, numbering_nil, numbering_of_ne_nil hnil'] at h
    exact absurd h (hlt _)
  · rw [hnil', numbering_nil, numbering_of_ne_nil hnil] at h
    exact absurd h.symm (hlt _)
  · rw [numbering_of_ne_nil hnil, numbering_of_ne_nil hnil'] at h
    exact (List.idxOf_inj (ha.resolve_left hnil)).mp (Nat.add_left_cancel h)

/-- The children of the widget of a place are the widgets one level below. -/
theorem rowOf_numbering (hp : p < first)
    (hclosed : ∀ v ∈ made, v.path.dropLast = [] ∨ v.path.dropLast ∈ made.map Visit.path)
    (path : List Nat) :
    rowOf (numbering p first made) made (numbering p first made path)
      = (made.filter fun v => v.path.dropLast = path).map
          fun v => numbering p first made v.path := by
  unfold rowOf
  refine congrArg _ (List.filter_congr (fun v hv => ?_))
  rw [decide_eq_decide]
  exact numbering_inj hp (hclosed v hv)

/-- A widget that was there before has no new children, unless it is the one
that is built into. -/
theorem rowOf_eq_nil {id : WidgetId} (hid : id < first) (hne : id ≠ p) :
    rowOf (numbering p first made) made id = [] := by
  refine List.map_eq_nil_iff.mpr (List.filter_eq_nil_iff.mpr (fun v _ hcontr => ?_))
  have hnumber := of_decide_eq_true hcontr
  by_cases hnil : v.path.dropLast = []
  · rw [hnil, numbering_nil] at hnumber
    exact hne hnumber.symm
  · rw [numbering_of_ne_nil hnil] at hnumber
    exact Nat.ne_of_gt (Nat.lt_add_right _ hid) hnumber

/-! ## What building comes to -/

/-- **What building the inside of a node into a widget comes to**, when
`seen` is visited and `number` numbers the places. -/
structure Refines (roles : TagRoles) (p : WidgetId) (seen : List Visit)
    (number : List Nat → WidgetId) (c c' : Construction) : Prop
    extends Adds roles seen c c' where
  /-- What comes about is a scene again. -/
  reachable : c'.scene.Reachable
  /-- The place of the node has the number of the widget that is built
  into. -/
  top : number [] = p
  /-- The containers and leaves become the next widgets, in order. -/
  consecutive : (seen.filter (·.ordinary roles)).map (fun v => number v.path)
    = List.range' c.scene.nextId (seen.filter (·.ordinary roles)).length
  /-- A new widget has the tag of its element, its attributes, a value if it
  is a leaf that can show one, and no style; its parent and its children are
  the widgets one level above and one level below. -/
  made : ∀ v ∈ seen.filter (·.ordinary roles), c'.scene.widget? (number v.path)
    = some
        { kind := .ofTag v.tag
          tag := v.tag
          attributes := settle v.attributes
          value := v.value roles
          style := .empty
          parent := some (number v.path.dropLast)
          children := ((seen.filter (·.ordinary roles)).filter
            fun u => u.path.dropLast = v.path).map fun u => number u.path }
  /-- Attributes with different names are taken over as they are. -/
  attributes : ∀ v ∈ seen, (v.attributes.map Prod.fst).Nodup → settle v.attributes = v.attributes
  /-- The widget that is built into gets the topmost new widgets as its last
  children. -/
  parent : ∀ w, c.scene.widget? p = some w → c'.scene.widget? p
    = some { w with
        children := w.children ++ ((seen.filter (·.ordinary roles)).filter
          fun u => u.path.dropLast = []).map fun u => number u.path }
  /-- Every other widget stays as it is. -/
  frame : ∀ id, id < c.scene.nextId → id ≠ p → c'.scene.widget? id = c.scene.widget? id

/-- **A new widget is that of a visit.** -/
theorem Refines.exists_number_eq {seen : List Visit} {number : List Nat → WidgetId}
    {c c' : Construction} (h : Refines roles p seen number c c') {id : WidgetId}
    (hid : c.scene.nextId ≤ id) (hlt : id < c'.scene.nextId) :
    ∃ v ∈ seen.filter (·.ordinary roles), number v.path = id := by
  rw [h.nextId] at hlt
  have hmem := List.mem_range'_1.mpr ⟨hid, hlt⟩
  rw [← h.consecutive] at hmem
  exact List.mem_map.mp hmem

/-! ## The places that become widgets -/

/-- No place becomes two widgets. -/
theorem nodup_map_path (e : Node) :
    (((e.visits roles).filter (·.ordinary roles)).map Visit.path).Nodup := by
  refine List.pairwise_map.mpr (((Node.pairwise_visits e).filter _).imp (fun hlt heq => ?_))
  rw [heq] at hlt
  exact List.lt_irrefl _ hlt

theorem nil_notMem_map_path (e : Node) :
    [] ∉ ((e.visits roles).filter (·.ordinary roles)).map Visit.path := by
  intro hmem
  obtain ⟨v, hv, hnil⟩ := List.mem_map.mp hmem
  exact Node.path_ne_nil_of_mem_visits (List.mem_of_mem_filter hv) hnil

/-- The place above one that becomes a widget is the node itself or becomes a
widget: it is that of a container. -/
theorem dropLast_path_of_mem {e : Node} {v : Visit}
    (hv : v ∈ (e.visits roles).filter (·.ordinary roles)) :
    v.path.dropLast = []
      ∨ v.path.dropLast ∈ ((e.visits roles).filter (·.ordinary roles)).map Visit.path := by
  refine (Node.mem_visits_iff.mp (List.mem_of_mem_filter hv)).parent.imp_right ?_
  rintro ⟨u, hu, hrole, hpath⟩
  rw [← hpath]
  refine List.mem_map_of_mem (List.mem_filter.mpr ⟨Node.mem_visits_iff.mpr hu, ?_⟩)
  simp [Visit.ordinary, hrole]

/-- **With the places numbered in order, building refines the document.** -/
theorem exists_refines {c : Construction} (h : c.scene.Reachable) (roles : TagRoles)
    {p : WidgetId} (hp : p < c.scene.nextId) (e : Node) :
    ∃ number, Refines roles p (e.visits roles) number c (buildInside roles p c e) := by
  let made := (e.visits roles).filter (·.ordinary roles)
  let number := numbering p c.scene.nextId made
  have hclosed : ∀ v ∈ made, v.path.dropLast = [] ∨ v.path.dropLast ∈ made.map Visit.path :=
    fun _ => dropLast_path_of_mem
  have htop : number [] = p := numbering_nil
  have hnumbers : Numbers roles number c.scene.nextId (e.visits roles) :=
    map_numbering (nodup_map_path e) (nil_notMem_map_path e)
  have hall := builds_buildAll number [] h (by rwa [htop]) hnumbers
  rw [htop] at hall
  obtain ⟨hreach, hbuilds⟩ : (buildInside roles p c e).scene.Reachable
      ∧ Builds roles number (e.visits roles) c (buildInside roles p c e) := hall
  refine ⟨number, hbuilds.toAdds, hreach, htop, hnumbers, fun v hv => ?made,
    fun v _ => settle_of_nodup, fun w hw => ?parent, fun id hid hidp => ?frame⟩
  case made =>
    have hrow := rowOf_numbering hp hclosed v.path
    rw [hbuilds.new v hv]
    exact congrArg (fun row => some (Widget.mk _ _ _ _ _ _ row)) hrow
  case parent =>
    have hrow := rowOf_numbering hp hclosed []
    rw [numbering_nil] at hrow
    rw [hbuilds.old p w hw]
    exact congrArg (fun row => some { w with children := w.children ++ row }) hrow
  case frame =>
    obtain ⟨w, hw⟩ := Scene.widget?_eq_some_of_lt hid
    rw [hw, hbuilds.old id w hw]
    show some { w with children := w.children ++ rowOf number made id } = some w
    rw [rowOf_eq_nil hid hidp, List.append_nil]

/-- **A page is its document.** What is inside a node is built into an
existing widget of any scene: the visits, which are listed in document order,
become the new widgets, and their places are the links between these. -/
theorem buildInside_refines {s : Scene} (h : s.Reachable) (roles : TagRoles) (book : RuleBook)
    {p : WidgetId} (hp : p < s.nextId) (e : Node) :
    (∀ v, v ∈ e.visits roles ↔ e.Visited roles v)
      ∧ (e.visits roles).Pairwise (fun u v => u.path < v.path)
      ∧ ∃ number, Refines roles p (e.visits roles) number { scene := s, book }
          (buildInside roles p { scene := s, book } e) :=
  ⟨fun _ => Node.mem_visits_iff, Node.pairwise_visits e, exists_refines h roles hp e⟩

/-- A page with a leaf inside a container, and a flush. -/
def greeting : Node :=
  .element "page" []
    [.element "view" [("id", "a")] [.element "text" [] [.text "hello"]], .element "flush" [] []]

/-- In a new scene the container becomes the first widget and the leaf inside
it the second. -/
theorem buildInside_refines_greeting :
    Scene.new.Reachable ∧ Scene.root < Scene.new.nextId
      ∧ ∃ number, Refines (.ofLeaves ["text"]) Scene.root
          (greeting.visits (.ofLeaves ["text"])) number { scene := .new, book := {} }
          (buildInside (.ofLeaves ["text"]) Scene.root { scene := .new, book := {} } greeting)
        ∧ number [0] = 1 ∧ number [0, 0] = 2 := by
  obtain ⟨-, -, number, h⟩ :=
    buildInside_refines .new (.ofLeaves ["text"]) {} (p := Scene.root) (by decide) greeting
  have hpaths : ((greeting.visits (.ofLeaves ["text"])).filter
      (·.ordinary (.ofLeaves ["text"]))).map Visit.path = [[0], [0, 0]] := by decide +kernel
  have hnumbers : [number [0], number [0, 0]] = [1, 2] :=
    calc [number [0], number [0, 0]]
        = [[0], [0, 0]].map number := rfl
      _ = ((greeting.visits (.ofLeaves ["text"])).filter
            (·.ordinary (.ofLeaves ["text"]))).map fun v => number v.path := by
          rw [← hpaths, List.map_map]
          rfl
      _ = List.range' Scene.new.nextId _ := h.consecutive
      _ = [1, 2] := by decide +kernel
  rw [List.cons.injEq, List.cons.injEq] at hnumbers
  exact ⟨.new, by decide, number, h, hnumbers.1, hnumbers.2.1⟩

end Construction

end WidgetMarkup
