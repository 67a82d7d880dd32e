import WidgetMarkup.Proofs.Page.LastRule
import WidgetMarkup.Proofs.Page.Refinement
import WidgetMarkup.Proofs.Scene.Grafting

/-!
# Pages side by side under one root

A page is built under the root of a scene as it would be built in a new one,
and stands beside what was there: with the scene `s` before, the page alone in
`u` and both together in `t`, building gives `Grafts s u t`
(`Construction.Refines.grafts`). Both numberings count on in document order, so they
give a place numbers that differ by how many widgets `s` has.

Rules keep it so (`Scene.Grafts.applyRules`). A rule meets a widget of the page
in `t` if it meets it in `u`, and what it does to the widgets of `s` is not
looked at.
-/

namespace WidgetMarkup

namespace Scene

/-- **Rules touch no link.** -/
theorem sameLinks_applyRules (s : Scene) (rules : List Style.Rule) :
    SameLinks (s.applyRules rules).1 s where
  nextId := by
    rw [← nextId_bare, bare_applyRules, nextId_bare]
  parent? id := by
    unfold parent?
    rw [widget?_applyRules]
    cases s.widget? id <;> rfl
  children id := by
    unfold children
    rw [widget?_applyRules]
    cases s.widget? id <;> rfl

/-- Rules change nothing that a selector sees. -/
theorem element_applyRules (s : Scene) (rules : List Style.Rule) (id : WidgetId) :
    ((s.applyRules rules).1.widget? id).map Widget.element
      = (s.widget? id).map Widget.element := by
  rw [widget?_applyRules, Option.map_map]
  rfl

namespace Grafts

variable {s u t : Scene}

/-- Rules make the same of the style of a new widget as in `u`. -/
theorem restyle (h : s.Grafts u t) (hs : s.Linked) (hu : u.Linked) (ht : t.Linked)
    {id : WidgetId} (hid : id ≠ root) (rules : List Style.Rule) (style : Style.Properties) :
    t.restyle rules (shift s.count id) style = u.restyle rules id style := by
  refine Style.Properties.ext_get? (fun k => ?_)
  rw [get?_restyle, get?_restyle, lastGiven?_eq_of_selects (h.mem_shown_iff hs hu ht hid)
    (fun selectors hshown => h.selects hu ht selectors hshown)]

/-- **Rules keep the two side by side**, with the new widgets styled as in
`u`. -/
theorem applyRules (h : s.Grafts u t) (hs : s.Linked) (hu : u.Linked) (ht : t.Linked)
    (rules : List Style.Rule) : s.Grafts (u.applyRules rules).1 (t.applyRules rules).1 where
  nextId := by
    rw [(sameLinks_applyRules t rules).nextId, (sameLinks_applyRules u rules).nextId, h.nextId]
  old id hid hroot := by
    rw [(sameLinks_applyRules t rules).children, h.old id hid hroot]
  new id hid := by
    rw [widget?_applyRules, widget?_applyRules, h.new id hid, Option.map_map, Option.map_map]
    refine Option.map_congr (fun w _ => ?_)
    exact congrArg (fun style => { w.renumber (shift s.count) with style })
      (h.restyle hs hu ht hid rules w.style)
  element_root := by
    rw [element_applyRules, element_applyRules, h.element_root]
  children_root := by
    rw [(sameLinks_applyRules t rules).children, (sameLinks_applyRules u rules).children,
      h.children_root]

end Grafts

end Scene

namespace Construction

variable {s : Scene} {roles : TagRoles} {book : RuleBook}

namespace Refines

variable {document : Node} {number alone : List Nat → WidgetId} {c c' : Construction}

/-- What is built under the root changes nothing that a selector sees of it. -/
theorem element_root (hs : s.Linked)
    (h : Refines roles Scene.root (document.visits roles) number { scene := s, book } c) :
    (c.scene.widget? Scene.root).map Widget.element
      = (s.widget? Scene.root).map Widget.element := by
  obtain ⟨w, hw⟩ := Scene.widget?_eq_some_of_lt hs.root_lt
  rw [h.parent w hw, hw]
  rfl

/-- **The numbers of a page count on** from those of the scene that it is built
into. -/
theorem number_eq_shift (hs : s.Linked)
    (h : Refines roles Scene.root (document.visits roles) number { scene := s, book } c)
    (halone : Refines roles Scene.root (document.visits roles) alone { scene := .new, book } c')
    {v : Visit} (hv : v ∈ (document.visits roles).filter (·.ordinary roles)) :
    number v.path = Scene.shift s.count (alone v.path) := by
  let made := (document.visits roles).filter (·.ordinary roles)
  have hnumbers : made.map (fun v => number v.path) = made.map fun v => s.count + alone v.path :=
    calc made.map (fun v => number v.path)
        = List.range' s.nextId made.length := h.consecutive
      _ = (List.range' 1 made.length).map (s.count + ·) := by
          rw [List.map_add_range', hs.nextId_eq]
      _ = (made.map fun v => alone v.path).map (s.count + ·) := by
          rw [show List.range' 1 made.length = _ from halone.consecutive.symm]
      _ = made.map fun v => s.count + alone v.path := List.map_map
  have hne : alone v.path ≠ Scene.root := by
    have hmem := List.mem_map_of_mem (f := fun v => alone v.path) hv
    rw [halone.consecutive] at hmem
    exact Nat.ne_of_gt (List.mem_range'_1.mp hmem).1
  rw [Scene.shift_of_ne_root _ hne, Nat.add_comm]
  exact List.map_inj_left.mp hnumbers v hv

/-- So do the numbers of the places above: such a place becomes a widget, or is
that of the root. -/
theorem number_dropLast_eq_shift (hs : s.Linked)
    (h : Refines roles Scene.root (document.visits roles) number { scene := s, book } c)
    (halone : Refines roles Scene.root (document.visits roles) alone { scene := .new, book } c')
    {v : Visit} (hv : v ∈ (document.visits roles).filter (·.ordinary roles)) :
    number v.path.dropLast = Scene.shift s.count (alone v.path.dropLast) := by
  rcases dropLast_path_of_mem hv with htop | hmem
  · rw [htop, h.top, halone.top, Scene.shift_root]
  · obtain ⟨u, hu, hpath⟩ := List.mem_map.mp hmem
    rw [← hpath]
    exact number_eq_shift hs h halone hu

/-- **A page is put beside what is there** as it is in a new scene. -/
theorem grafts (hs : s.Linked)
    (hroot : (s.widget? Scene.root).map Widget.element = some ⟨"root", []⟩)
    (h : Refines roles Scene.root (document.visits roles) number { scene := s, book } c)
    (halone : Refines roles Scene.root (document.visits roles) alone { scene := .new, book } c') :
    s.Grafts c'.scene c.scene := by
  let made := (document.visits roles).filter (·.ordinary roles)
  have hrow : ∀ path : List Nat,
      (made.filter fun v => v.path.dropLast = path).map (fun v => number v.path)
        = ((made.filter fun v => v.path.dropLast = path).map fun v => alone v.path).map
            (Scene.shift s.count) := by
    intro path
    rw [List.map_map]
    exact List.map_congr_left
      (fun v hv => number_eq_shift hs h halone (List.mem_of_mem_filter hv))
  have hnextId : c.scene.nextId = c'.scene.nextId + s.count := by
    rw [h.nextId, halone.nextId]
    show s.nextId + made.length = 1 + made.length + s.count
    rw [hs.nextId_eq, Nat.add_comm s.count 1, Nat.add_right_comm]
  refine ⟨hnextId, fun id hid hne => ?old, fun id hne => ?new, ?element, ?children⟩
  case old =>
    unfold Scene.children
    rw [h.frame id hid hne]
  case new =>
    cases hw : c'.scene.widget? id with
    | none =>
      rw [Scene.widget?_eq_none_iff] at hw
      rw [Option.map_none, Scene.widget?_eq_none_iff, hnextId, Scene.shift_of_ne_root _ hne]
      exact Nat.add_le_add_right hw _
    | some w =>
      obtain ⟨v, hv, rfl⟩ := halone.exists_number_eq (Nat.pos_of_ne_zero hne)
        (Scene.lt_nextId_of_widget? hw)
      rw [← hw, ← number_eq_shift hs h halone hv, h.made v hv, halone.made v hv, Option.map_some]
      unfold Widget.renumber
      dsimp only
      rw [number_dropLast_eq_shift hs h halone hv, hrow v.path]
      rfl
  case element =>
    rw [h.element_root hs, halone.element_root Scene.linked_new, hroot]
    rfl
  case children =>
    obtain ⟨w, hw⟩ := Scene.widget?_eq_some_of_lt hs.root_lt
    rw [Scene.children_of_widget? (h.parent w hw), Scene.children_of_widget? hw,
      Scene.children_of_widget? (halone.parent _ rfl), hrow []]
    rfl

end Refines

end Construction

end WidgetMarkup
