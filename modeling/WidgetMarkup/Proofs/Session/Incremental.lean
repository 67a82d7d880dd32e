import WidgetMarkup.Proofs.Page.Alike
import WidgetMarkup.Proofs.Page.LastRule
import WidgetMarkup.Proofs.Page.Refinement
import WidgetMarkup.Proofs.Scene.Extension
import WidgetMarkup.Session.Basic

/-!
# Loading pages one by one

Where rules stay in force, loading pages one after another comes to loading
one page with everything that is in them. Rules meet widgets at different
times, though: the first pages are styled by their own rules first and by the
rules of later pages afterwards, and on later pages the older rules are
applied first.

What makes the two runs agree is a state that both keep (`Settled`): the
scene without its styles is what building made of the rows so far, and every
style holds, name by name, what the last rule of the book gives. Such a state
is one scene only. A page more keeps it: an old widget is seen by every rule
as before, so where the book used to give it a property the longer book
gives it one too, and its old style has no say in what comes out.
-/

namespace WidgetMarkup

namespace Scene

/-- A rule gives an old widget what it gave it before. -/
theorem Extends.lastGiven? {s t : Scene} (h : s.Extends t) (hs : s.Linked) (ht : t.Linked)
    {id : WidgetId} (hid : id < s.nextId) (rules : List Style.Rule) (k : String) :
    t.lastGiven? rules id k = s.lastGiven? rules id k :=
  lastGiven?_eq_of_selects (h.mem_shown_iff hs ht hid)
    (fun selectors hshown => h.selects hs ht selectors hshown) rules k

end Scene

namespace Construction.Refines

variable {roles : TagRoles} {p : WidgetId} {seen : List Visit} {number : List Nat → WidgetId}
  {c c' : Construction}

/-- An old widget keeps all but its children. -/
theorem exists_children (h : Refines roles p seen number c c') {id : WidgetId} {w : Widget}
    (hw : c.scene.widget? id = some w) :
    ∃ children, c'.scene.widget? id = some { w with children } := by
  by_cases hid : id = p
  · subst hid
    exact ⟨_, h.parent w hw⟩
  · exact ⟨w.children, by rw [h.frame id (Scene.lt_nextId_of_widget? hw) hid, hw]⟩

/-- **Building makes the scene grow.** -/
theorem scene_extends (h : Refines roles p seen number c c') : c.scene.Extends c'.scene where
  nextId_le := by
    rw [h.nextId]
    exact Nat.le_add_right _ _
  parent? id hid := by
    obtain ⟨w, hw⟩ := Scene.widget?_eq_some_of_lt hid
    obtain ⟨children, hw'⟩ := h.exists_children hw
    rw [Scene.parent?_of_widget? hw, Scene.parent?_of_widget? hw']
  element id hid := by
    obtain ⟨w, hw⟩ := Scene.widget?_eq_some_of_lt hid
    obtain ⟨children, hw'⟩ := h.exists_children hw
    rw [hw, hw']
    rfl

/-- A new widget has no style. -/
theorem style_eq_empty (h : Refines roles p seen number c c') {id : WidgetId} {w : Widget}
    (hid : c.scene.nextId ≤ id) (hw : c'.scene.widget? id = some w) : w.style = .empty := by
  obtain ⟨v, hv, rfl⟩ := h.exists_number_eq hid (Scene.lt_nextId_of_widget? hw)
  rw [h.made v hv, Option.some.injEq] at hw
  rw [← hw]

end Construction.Refines

namespace Session

open Construction

/-- **What a session has come to** when `c` was built from nothing and the
rules in force were applied. -/
structure Settled (s : Session) (c : Construction) : Prop where
  /-- The scene is one that comes about. -/
  reachable : s.scene.Reachable
  /-- Apart from styles everything is as it was built. -/
  alike : Alike { scene := s.scene, book := s.book } c
  /-- A style holds what the last rules give, and nothing else. -/
  style : ∀ id w, s.scene.widget? id = some w →
    ∀ k, w.style.get? k = s.scene.lastGiven? s.book.rules id k

namespace Settled

variable {s t : Session} {c : Construction}

/-- **There is only one such scene, and one such book.** -/
theorem unique (hs : s.Settled c) (ht : t.Settled c) : s.scene = t.scene ∧ s.book = t.book := by
  have hbare : s.scene.bare = t.scene.bare := hs.alike.bare.trans ht.alike.bare.symm
  have hbook : s.book = t.book := hs.alike.book.trans ht.alike.book.symm
  refine ⟨Scene.eq_of_bare hbare (fun id w v hw hv => ?_), hbook⟩
  refine Style.Properties.ext_get? (fun k => ?_)
  rw [hs.style id w hw, ht.style id v hv, Scene.lastGiven?_congr hbare, hbook]

theorem new (settings : Settings) :
    (Session.new settings).Settled { scene := .new, book := {} } where
  reachable := .new
  alike := ⟨rfl, rfl⟩
  style id w hw k := by
    match id with
    | 0 =>
      cases hw
      rfl
    | _ + 1 => cases hw

/-- Where the longer book gives nothing, a widget that was built has no
style yet. -/
theorem style_of_lastGiven? (h : s.Settled c) {roles : TagRoles} {seen : List Visit}
    {number : List Nat → WidgetId} {built : Construction}
    (hrefines : Refines roles Scene.root seen number { scene := s.scene, book := s.book } built)
    {id : WidgetId} {w : Widget} (hw : built.scene.widget? id = some w) {k : String}
    (hnone : built.scene.lastGiven? built.book.rules id k = none) : w.style.get? k = none := by
  rcases Nat.lt_or_ge id s.scene.nextId with hid | hid
  · -- an old widget has what the shorter book gave it
    obtain ⟨u, hu⟩ := Scene.widget?_eq_some_of_lt hid
    obtain ⟨children, hu'⟩ := hrefines.exists_children hu
    have hstyle : w.style = u.style := by
      rw [hw, Option.some.injEq] at hu'
      rw [hu']
    rw [hrefines.rules, Scene.lastGiven?_append, Option.or_eq_none_iff] at hnone
    rw [hstyle, h.style id u hu, ← hrefines.scene_extends.lastGiven? h.reachable.linked
      hrefines.reachable.linked hid]
    exact hnone.2
  · rw [hrefines.style_eq_empty hid hw]
    rfl

/-- **One page more** is built on and styled, and nothing of the earlier
styling is seen. -/
theorem load (h : s.Settled c) (hbook : s.bookForPage = s.book) (document : Node) :
    (s.load document).Settled (buildAll s.roles Scene.root c document.children) := by
  obtain ⟨number, hrefines⟩ := exists_refines (c := { scene := s.scene, book := s.book })
    h.reachable s.roles h.reachable.linked.root_lt document
  generalize hbuilt : buildInside s.roles Scene.root { scene := s.scene, book := s.book } document
    = built at hrefines
  have hscene : (s.load document).scene = (built.scene.applyRules built.book.rules).1 := by
    rw [← hbuilt, ← hbook]
    rfl
  have hrules : (s.load document).book = built.book := by
    rw [← hbuilt, ← hbook]
    rfl
  have hbare : (s.load document).scene.bare = built.scene.bare := by
    rw [hscene, Scene.bare_applyRules]
  have halike : Alike built (buildAll s.roles Scene.root c document.children) := by
    rw [← hbuilt]
    exact h.alike.buildAll _ _ _
  refine ⟨?_, ⟨hbare.trans halike.bare, hrules.trans halike.book⟩, fun id w hw k => ?_⟩
  · rw [hscene]
    exact hrefines.reachable.applyRules _
  · rw [hscene, Scene.widget?_applyRules] at hw
    obtain ⟨u, hu, rfl⟩ := Option.map_eq_some_iff.mp hw
    rw [Scene.get?_restyle, Scene.lastGiven?_congr hbare, hrules]
    -- where the book gives something, the style before has no say
    cases hlast : built.scene.lastGiven? built.book.rules id k with
    | none => exact h.style_of_lastGiven? hrefines hu hlast
    | some v => rfl

/-- **A run** settles on what its pages have inside, one after another. -/
theorem foldl_load (h : s.Settled c) (hacc : s.accumulates = true) (documents : List Node) :
    (documents.foldl Session.load s).Settled
      (buildAll s.roles Scene.root c (documents.flatMap Node.children)) := by
  induction documents generalizing s c with
  | nil =>
    rw [List.flatMap_nil, buildAll]
    exact h
  | cons document more ih =>
    have hbook : s.bookForPage = s.book := if_pos hacc
    rw [List.foldl_cons, List.flatMap_cons, buildAll_append]
    exact ih (h.load hbook document) hacc

end Settled

/-- **Loading pages one by one is loading them as one.** If rules stay in
force, a new session that loads documents one after another has in the end
the same scene and the same book as one that loads a single document in which
all their contents stand in a row. -/
theorem foldl_load_eq_load_flatMap (leafTags : List String) (b : Bool)
    (userAgent userAgent' : String) (tag : String) (attributes : List (String × String))
    (documents : List Node) :
    let oneByOne := documents.foldl Session.load (Session.new ⟨leafTags, true, userAgent⟩)
    let atOnce := (Session.new ⟨leafTags, b, userAgent'⟩).load
      (.element tag attributes (documents.flatMap Node.children))
    oneByOne.scene = atOnce.scene ∧ oneByOne.book = atOnce.book := by
  intro oneByOne atOnce
  have hrun := (Settled.new ⟨leafTags, true, userAgent⟩).foldl_load rfl documents
  have hbook : (Session.new ⟨leafTags, b, userAgent'⟩).bookForPage
      = (Session.new ⟨leafTags, b, userAgent'⟩).book := by
    cases b <;> rfl
  have hpage := (Settled.new ⟨leafTags, b, userAgent'⟩).load hbook
    (.element tag attributes (documents.flatMap Node.children))
  exact hrun.unique hpage

end Session

end WidgetMarkup
