import WidgetMarkup.Proofs.Scene.Ancestors

/-!
# Widgets drawn in another way

Two scenes may differ only in something that nobody looks at: in styles, where
it is about what a selector selects, or in the case of tags. To say so, every
widget of a scene is drawn in another way, which leaves nothing of that to be
seen (`mapWidgets`).

If a redrawing goes past parents and children (`KeepsLinks`), then it goes past
every edit that is about links, and it does not matter whether a widget is
moved before or after. If besides no selector can tell whether elements were
redrawn, then queries are answered as before.
-/

namespace WidgetMarkup.Scene

/-- The scene with every widget redrawn. -/
def mapWidgets (f : Widget → Widget) (s : Scene) : Scene :=
  { s with widgets := s.widgets.map f }

@[simp]
theorem widget?_mapWidgets (f : Widget → Widget) (s : Scene) (id : WidgetId) :
    (s.mapWidgets f).widget? id = (s.widget? id).map f := by
  simp [widget?, mapWidgets]

@[simp]
theorem nextId_mapWidgets (f : Widget → Widget) (s : Scene) :
    (s.mapWidgets f).nextId = s.nextId := by
  simp [nextId, mapWidgets]

@[simp]
theorem flushes_mapWidgets (f : Widget → Widget) (s : Scene) :
    (s.mapWidgets f).flushes = s.flushes := rfl

/-- **A redrawing that goes past links**: a widget may get its parent and its
children before or after. -/
structure KeepsLinks (f : Widget → Widget) : Prop where
  /-- It goes past the parent. -/
  parent : ∀ w p, f { w with parent := p } = { f w with parent := p }
  /-- It goes past the children. -/
  children : ∀ w ids, f { w with children := ids } = { f w with children := ids }

variable {f : Widget → Widget}

namespace KeepsLinks

theorem parent_eq (hf : KeepsLinks f) (w : Widget) : (f w).parent = w.parent := by
  show (f { w with parent := w.parent }).parent = _
  rw [hf.parent]

theorem children_eq (hf : KeepsLinks f) (w : Widget) : (f w).children = w.children := by
  show (f { w with children := w.children }).children = _
  rw [hf.children]

/-- It goes past every change of the children. -/
theorem mapChildren (hf : KeepsLinks f) (g : List WidgetId → List WidgetId) (w : Widget) :
    f { w with children := g w.children } = { f w with children := g (f w).children } := by
  rw [hf.children, hf.children_eq]

end KeepsLinks

theorem sameLinks_mapWidgets (hf : KeepsLinks f) (s : Scene) : SameLinks (s.mapWidgets f) s where
  nextId := nextId_mapWidgets f s
  parent? id := by
    unfold parent?
    rw [widget?_mapWidgets]
    cases s.widget? id with
    | none => rfl
    | some w => exact hf.parent_eq w
  children id := by
    unfold children
    rw [widget?_mapWidgets]
    cases s.widget? id with
    | none => rfl
    | some w => exact hf.children_eq w

/-! ## Edits -/

/-- A widget may be changed before or after, if this is so of the change. -/
theorem mapWidgets_update (s : Scene) (id : WidgetId) {g k : Widget → Widget}
    (h : ∀ w, f (g w) = k (f w)) :
    (s.update id g).mapWidgets f = (s.mapWidgets f).update id k := by
  refine ext_widget? (fun x => ?_) rfl
  rw [widget?_mapWidgets, widget?_update, widget?_update, widget?_mapWidgets]
  cases s.widget? x <;> by_cases hx : id = x <;> simp [hx, h]

/-- A change that redrawing hides changes nothing. -/
theorem mapWidgets_update_eq (s : Scene) (id : WidgetId) {g : Widget → Widget}
    (h : ∀ w, f (g w) = f w) : (s.update id g).mapWidgets f = s.mapWidgets f := by
  refine ext_widget? (fun x => ?_) rfl
  rw [widget?_mapWidgets, widget?_update, widget?_mapWidgets]
  cases s.widget? x <;> by_cases hx : id = x <;> simp [hx, h]

/-- A new widget is made for the tag that redrawing makes of its tag. -/
theorem mapWidgets_create (s : Scene) {tag tag' : String} (h : f (.ofTag tag) = .ofTag tag') :
    (s.create tag).mapWidgets f = (s.mapWidgets f).create tag' := by
  refine ext_widget? (fun x => ?_) rfl
  rw [widget?_mapWidgets, widget?_create, widget?_create, widget?_mapWidgets, nextId_mapWidgets,
    ← h]
  split <;> rfl

theorem mapWidgets_detach (hf : KeepsLinks f) (s : Scene) (c : WidgetId) :
    (s.detach c).mapWidgets f = (s.mapWidgets f).detach c := by
  unfold detach
  rw [(sameLinks_mapWidgets hf s).parent?]
  cases s.parent? c with
  | none => rfl
  | some old =>
    dsimp only
    rw [mapWidgets_update (k := fun w => { w with children := w.children.filter (· != c) }) _ _
        (hf.mapChildren (·.filter (· != c))),
      mapWidgets_update (k := ({ · with parent := none })) _ _ (hf.parent · none)]

/-- **Moving a widget goes past a redrawing.** -/
theorem mapWidgets_append (hf : KeepsLinks f) (s : Scene) (p c : WidgetId) :
    (s.append p c).mapWidgets f = (s.mapWidgets f).append p c := by
  unfold append
  rw [mapWidgets_update (k := fun w => { w with children := w.children ++ [c] }) _ _
      (hf.mapChildren (· ++ [c])),
    mapWidgets_update (k := ({ · with parent := some p })) _ _ (hf.parent · (some p)),
    mapWidgets_detach hf]

/-! ## Queries -/

theorem elements_mapWidgets {g : Element → Element} (hg : ∀ w, (f w).element = g w.element)
    (s : Scene) (ids : List WidgetId) :
    (s.mapWidgets f).elements ids = (s.elements ids).map g := by
  unfold elements
  rw [List.map_filterMap]
  congr 1
  funext id
  rw [widget?_mapWidgets, Option.map_map, Option.map_map]
  congr 1
  funext w
  exact hg w

/-- **A query does not see a redrawing** that no selector sees. -/
theorem query_mapWidgets (hf : KeepsLinks f) {g : Element → Element}
    (hg : ∀ w, (f w).element = g w.element)
    (haccepts : ∀ (selector : Selector) e chain,
      selector.accepts (g e) (chain.map g) = selector.accepts e chain)
    (s : Scene) (text : String) : (s.mapWidgets f).query text = s.query text := by
  have hlinks := sameLinks_mapWidgets hf s
  have hselects (selectors : List Selector) (id : WidgetId) :
      (s.mapWidgets f).selects selectors id = s.selects selectors id := by
    unfold selects
    rw [widget?_mapWidgets, elements_mapWidgets hg, hlinks.ancestors]
    cases s.widget? id with
    | none => rfl
    | some w =>
      show selectors.any (·.accepts (f w).element _) = selectors.any _
      simp only [hg, haccepts]
  unfold query
  rw [hlinks.shown]
  cases Selector.parseList? text with
  | none => rfl
  | some selectors => exact congrArg (s.shown.filter ·) (funext (hselects selectors))

end WidgetMarkup.Scene
