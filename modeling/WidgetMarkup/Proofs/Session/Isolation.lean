import WidgetMarkup.Proofs.Page.Grafting
import WidgetMarkup.Proofs.Session.RulesInForce

/-!
# Pages that do not know of each other

Where rules do not stay in force, a page comes out as if it were the first.
Whatever was loaded before, and whatever failed, the page has the widgets that
it has in a new session, styled by its own rules alone, and they stand behind
those that are there.

Two things are needed for this. The book is empty when the page is built, so
the rules applied are the same. And of what was there before, selectors can see
the root only, which is under the root of every page what it is in a new scene:
pages are built below it, and no rule selects it. It could be changed from
outside, and then the next page might come out in another way; so the runs
looked at here are those in which the scene is changed by loading and styling
only (`Undisturbed`).
-/

namespace WidgetMarkup

/-- **A scene that was not changed from outside**, as far as pages can see. -/
structure Scene.Undisturbed (s : Scene) : Prop where
  /-- It is a scene that comes about. -/
  reachable : s.Reachable
  /-- To a selector the root is what it is in a new scene. -/
  element_root : (s.widget? root).map Widget.element = some ⟨"root", []⟩

namespace Session

open Construction

/-! ## Runs that leave the root alone -/

variable {s : Session}

theorem undisturbed_new (settings : Settings) : (Session.new settings).scene.Undisturbed :=
  ⟨.new, rfl⟩

/-- A page is built below the root, and no rule changes what a selector sees. -/
theorem undisturbed_load (h : s.scene.Undisturbed) (document : Node) :
    (s.load document).scene.Undisturbed := by
  have hlinked := h.reachable.linked
  obtain ⟨number, hrefines⟩ := exists_refines
    (c := { scene := s.scene, book := s.bookForPage }) h.reachable s.roles hlinked.root_lt document
  refine ⟨hrefines.reachable.applyRules _, ?_⟩
  exact (Scene.element_applyRules _ _ _).trans ((hrefines.element_root hlinked).trans h.element_root)

theorem undisturbed_applyRules (h : s.scene.Undisturbed) : s.applyRules.1.scene.Undisturbed where
  reachable := h.reachable.applyRules _
  element_root := (Scene.element_applyRules _ _ _).trans h.element_root

/-- **One event leaves the root alone**, unless it changes the scene from
outside. -/
theorem undisturbed_react (h : s.scene.Undisturbed) {e : Event}
    (he : ∀ scene, e ≠ .commanded (.changeScene scene)) : (s.react e).scene.Undisturbed := by
  cases hdocument : e.document? with
  | some document =>
    rw [react_of_document? hdocument]
    exact undisturbed_load h document
  | none =>
    rcases react_of_document?_eq_none hdocument s with hsame | rfl | rfl | ⟨id, rfl⟩ | ⟨scene, rfl⟩
    · rwa [hsame]
    · exact undisturbed_applyRules h
    · exact h
    · exact h
    · exact absurd rfl (he scene)

variable {settings : Settings} {events : List Event} {m m' : Moment}

/-- **A run in which nobody changes the scene from outside** leaves the root
alone. -/
theorem Run.undisturbed (h : Run ⟨.new settings, .idle⟩ events m)
    (hevents : ∀ scene, Event.commanded (.changeScene scene) ∉ events) :
    m.session.scene.Undisturbed := by
  induction h with
  | refl => exact undisturbed_new settings
  | @step before m' m'' e _ hstep ih =>
    rw [hstep.eq_react Session.scene (fun _ => rfl)]
    exact undisturbed_react (ih (fun scene hmem => hevents scene (List.mem_append_left _ hmem)))
      (fun scene he => hevents scene (by simp [he]))

/-! ## A page alone -/

/-- **A page is put beside what is there** as it comes out in a new session. -/
theorem grafts_load (h : s.scene.Undisturbed) (fresh : Settings)
    (hroles : s.roles = .ofLeaves fresh.leafTags) (hbook : s.bookForPage = {}) (document : Node) :
    s.scene.Grafts ((Session.new fresh).load document).scene (s.load document).scene
      ∧ (s.load document).book = ((Session.new fresh).load document).book := by
  have hfresh : (Session.new fresh).bookForPage = {} := by
    unfold bookForPage
    split <;> rfl
  have hrules : (s.load document).book.rules
      = ((Session.new fresh).load document).book.rules := by
    rw [rules_load, rules_load, hbook, hfresh, hroles]
    rfl
  refine ⟨?_, congrArg RuleBook.mk hrules⟩
  have hlinked := h.reachable.linked
  obtain ⟨number, hrefines⟩ := exists_refines (c := { scene := s.scene, book := {} })
    h.reachable s.roles hlinked.root_lt document
  obtain ⟨alone, halone⟩ := exists_refines (c := { scene := .new, book := {} })
    .new s.roles (p := Scene.root) Nat.zero_lt_one document
  have hscene : (s.load document).scene
      = ((buildInside s.roles Scene.root { scene := s.scene, book := {} } document).scene.applyRules
          (s.load document).book.rules).1 := by
    rw [← hbook]
    rfl
  have hfreshScene : ((Session.new fresh).load document).scene
      = ((buildInside s.roles Scene.root { scene := .new, book := {} } document).scene.applyRules
          ((Session.new fresh).load document).book.rules).1 := by
    rw [hroles, ← hfresh]
    rfl
  rw [hscene, hfreshScene, hrules]
  exact (hrefines.grafts hlinked h.element_root halone).applyRules hlinked
    halone.reachable.linked hrefines.reachable.linked _

/-- What a step that loads a document does to the scene and the book. -/
theorem Step.load {e : Event} {document : Node} (h : Step m e m')
    (hdocument : e.document? = some document) :
    m'.session.scene = (m.session.load document).scene
      ∧ m'.session.book = (m.session.load document).book := by
  rw [← react_of_document? hdocument]
  exact ⟨h.eq_react Session.scene (fun _ => rfl), h.eq_react Session.book (fun _ => rfl)⟩

/-- **Where rules do not stay in force, no page sees those before it.** After
any run of a session in which the scene was not changed from outside, a
document that is loaded, by whichever way it came, makes the widgets that it
makes in a new session with the same leaf tags, each with the same kind, tag,
attributes, value and style, and linked in the same way; but their numbers are
larger by how many widgets there were. They are shown behind what was shown
before, in the same order, and the book after both loads is the same. -/
theorem load_isolated {e : Event} {document : Node} (h : Run ⟨.new settings, .idle⟩ events m)
    (hacc : settings.accumulateStyles = false)
    (hevents : ∀ scene, Event.commanded (.changeScene scene) ∉ events)
    (hstep : Step m e m') (hdocument : e.document? = some document) (alone : Settings)
    (hleaf : alone.leafTags = settings.leafTags) :
    let before := m.session.scene
    let after := m'.session
    let fresh := (Session.new alone).load document
    after.scene.count = before.count + fresh.scene.count
      ∧ (∀ id, 0 < id → after.scene.widget? (id + before.count)
          = (fresh.scene.widget? id).map (Widget.renumber (Scene.shift before.count)))
      ∧ after.scene.children Scene.root = before.children Scene.root
          ++ (fresh.scene.children Scene.root).map (Scene.shift before.count)
      ∧ after.scene.shown = before.shown ++ fresh.scene.shown.map (Scene.shift before.count)
      ∧ after.book = fresh.book := by
  intro before after fresh
  have hundisturbed : before.Undisturbed := h.undisturbed hevents
  obtain ⟨hroles, haccumulates⟩ := h.settings
  obtain ⟨hscene, hbook⟩ := hstep.load hdocument
  have hpage := grafts_load hundisturbed alone (hroles.trans (congrArg _ hleaf.symm))
    (if_neg (by simp [haccumulates, hacc])) document
  rw [← hscene, ← hbook] at hpage
  obtain ⟨hgrafts, hsameBook⟩ := hpage
  have hbefore : before.Linked := hundisturbed.reachable.linked
  have hfresh : fresh.scene.Linked :=
    (undisturbed_load (undisturbed_new alone) document).reachable.linked
  have hafter : after.scene.Linked := by
    rw [hscene]
    exact (undisturbed_load hundisturbed document).reachable.linked
  refine ⟨hgrafts.count hfresh hafter, fun id hid => ?_, hgrafts.children_root,
    hgrafts.shown hbefore hfresh hafter, hsameBook⟩
  rw [← hgrafts.new id (Nat.ne_of_gt hid), Scene.shift_of_ne_root _ (Nat.ne_of_gt hid)]

/-- A page with a rule for texts, and a text that is no document. -/
def redTexts : List Event :=
  [.commanded (.loadText "<page><style>text \x7b color: red; \x7d</style><view/></page>"),
    .commanded (.loadText "<page>")]

/-- A page with a text in a view. -/
def hello : Node :=
  .element "page" [] [.element "view" [] [.element "text" [] [.text "hello"]]]

/-- A text of the next page is not red. It is the third widget, since there is
a widget before the page, and stands in the view that is the second. -/
theorem load_isolated_redTexts :
    ∃ m, Run ⟨.new { accumulateStyles := false }, .idle⟩ redTexts m
      ∧ (m.session.load hello).scene.widget? 3
          = some { kind := .text, tag := "text", value := some "hello", parent := some 2 }
      ∧ (m.session.load hello).scene.shown = [1, 2, 3] ∧ (m.session.load hello).book = {} := by
  obtain ⟨m, hrun, hactivity, hcount, hshown⟩ :
      ∃ m, Run ⟨.new { accumulateStyles := false }, .idle⟩ redTexts m ∧ m.activity = .idle
        ∧ m.session.scene.count = 1 ∧ m.session.scene.shown = [1] :=
    ⟨_, (Run.single (.command _ _)).step (.command _ _), rfl, by decide +kernel, by decide +kernel⟩
  obtain ⟨s, activity⟩ := m
  obtain rfl : activity = .idle := hactivity
  obtain ⟨-, hwidget, -, hafter, hbook⟩ :=
    load_isolated hrun rfl (by simp [redTexts]) (.command s (.load hello)) rfl {} rfl
  have htext := hwidget 2 Nat.two_pos
  rw [hcount] at htext hafter
  rw [hshown] at hafter
  exact ⟨⟨s, .idle⟩, hrun, htext.trans (by decide +kernel), hafter.trans (by decide +kernel),
    hbook.trans (by decide +kernel)⟩

end Session

end WidgetMarkup
