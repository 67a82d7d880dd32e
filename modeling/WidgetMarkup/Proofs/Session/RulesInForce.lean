import WidgetMarkup.Proofs.Page.Building
import WidgetMarkup.Proofs.Session.Replay

/-!
# The rules in force

The book of a session holds the rules of the pages that were loaded, and which
ones is decided by what is loaded alone: `Node.rules` reads the rules of a
document off its visits, whatever scene it is built into. If rules stay in
force, the book is the rules of all documents loaded so far, in the order of
loading; if they do not, it is the rules of the last one.

A load that fails is nowhere to be seen in this. It loads no document, and the
book is neither added to nor emptied: it is emptied for a page only once there
is a page.
-/

namespace WidgetMarkup

/-- **The rules of a document**: those of every style element that is visited,
in document order. -/
def Node.rules (roles : TagRoles) (n : Node) : List Style.Rule :=
  ((n.visits roles).filter fun v => roles.role v.tag = .style).flatMap Visit.rules

namespace Construction

theorem rules_addSheet_leadingText (c : Construction) (v : Visit) :
    (c.addSheet (Node.leadingTextOf? v.children)).book.rules = c.book.rules ++ v.rules := by
  unfold addSheet Visit.rules
  cases Node.leadingTextOf? v.children with
  | none => exact (List.append_nil _).symm
  | some text => rfl

theorem book_setValue (c : Construction) (id : WidgetId) (value : Option String) :
    (c.setValue id value).book = c.book := by
  cases value <;> rfl

mutual

/-- Building an element adds the rules of the visits that begin at it, whatever
the scene. -/
theorem rules_build (roles : TagRoles) (path : List Nat) (p : WidgetId) (c : Construction)
    (n : Node) :
    (build roles p c n).book.rules
      = c.book.rules
        ++ ((Node.visitsAt roles path n).filter fun v => roles.role v.tag = .style).flatMap
            Visit.rules := by
  match n with
  | .text _ => exact (List.append_nil _).symm
  | .comment _ => exact (List.append_nil _).symm
  | .element tag attributes children =>
    rw [build, Node.visitsAt]
    cases hrole : roles.role tag with
    | style =>
      have hsheet := c.rules_addSheet_leadingText ⟨path, tag, attributes, children⟩
      simpa [hrole] using hsheet
    | flush => simp [hrole, signal]
    | leaf => simp [hrole, book_setValue, addWidget]
    | container =>
      have hbook : (c.addWidget p tag attributes).book = c.book := rfl
      have hinside := rules_buildAll roles path 0 c.scene.nextId (c.addWidget p tag attributes)
        children
      rw [hbook] at hinside
      simpa [hrole] using hinside

/-- Building a row of nodes adds the rules of the visits in it. -/
theorem rules_buildAll (roles : TagRoles) (path : List Nat) (i : Nat) (p : WidgetId)
    (c : Construction) (row : List Node) :
    (buildAll roles p c row).book.rules
      = c.book.rules
        ++ ((Node.visitsFrom roles path i row).filter fun v => roles.role v.tag = .style).flatMap
            Visit.rules := by
  match row with
  | [] => exact (List.append_nil _).symm
  | n :: more =>
    rw [buildAll, Node.visitsFrom, rules_buildAll roles path (i + 1),
      rules_build roles (path ++ [i]), List.filter_append, List.flatMap_append, List.append_assoc]

end

end Construction

namespace Session

/-- **A page adds its rules** to the book that it finds. -/
theorem rules_load (s : Session) (document : Node) :
    (s.load document).book.rules = s.bookForPage.rules ++ document.rules s.roles :=
  Construction.rules_buildAll s.roles [] 0 _ _ _

/-! ## What an event does to the book -/

/-- What tags mean and whether rules stay in force is settled once and for
all. -/
theorem settings_react (s : Session) (e : Event) :
    (s.react e).roles = s.roles ∧ (s.react e).accumulates = s.accumulates := by
  cases hdocument : e.document? with
  | some document =>
    rw [react_of_document? hdocument]
    exact ⟨rfl, rfl⟩
  | none =>
    rcases react_of_document?_eq_none hdocument s with h | rfl | rfl | ⟨id, rfl⟩ | ⟨scene, rfl⟩
    · rw [h]
      exact ⟨rfl, rfl⟩
    all_goals exact ⟨rfl, rfl⟩

/-- **Where no document is loaded, the book stays as it is.** -/
theorem book_react (s : Session) {e : Event} (h : e.document? = none) :
    (s.react e).book = s.book := by
  rcases react_of_document?_eq_none h s with h | rfl | rfl | ⟨id, rfl⟩ | ⟨scene, rfl⟩
  · rw [h]
  all_goals rfl

/-- The settings of a session are those that it began with. -/
theorem Run.settings {settings : Settings} {events : List Event} {m : Moment}
    (h : Run ⟨.new settings, .idle⟩ events m) :
    m.session.roles = .ofLeaves settings.leafTags
      ∧ m.session.accumulates = settings.accumulateStyles := by
  induction h with
  | refl => exact ⟨rfl, rfl⟩
  | @step _ m' m'' e _ hstep ih =>
    obtain ⟨hroles, haccumulates⟩ := settings_react m'.session e
    rw [hstep.eq_react Session.roles (fun _ => rfl), hroles,
      hstep.eq_react Session.accumulates (fun _ => rfl), haccumulates]
    exact ih

/-- One step puts the rules of a loaded document behind those that it finds,
or leaves the book as it is. -/
theorem Step.rules {m m' : Moment} {e : Event} (h : Step m e m') :
    m'.session.book.rules
      = match e.document? with
        | some document => m.session.bookForPage.rules ++ document.rules m.session.roles
        | none => m.session.book.rules := by
  rw [h.eq_react Session.book (fun _ => rfl)]
  cases hdocument : e.document? with
  | some document => rw [react_of_document? hdocument, rules_load]
  | none => rw [book_react _ hdocument]

/-- **The rules after documents**: those of all of them if rules stay in force,
and those of the last one if not. -/
def rulesAfter (settings : Settings) (documents : List Node) : List Style.Rule :=
  if settings.accumulateStyles then
    documents.flatMap (Node.rules (.ofLeaves settings.leafTags))
  else (documents.getLast?.map (Node.rules (.ofLeaves settings.leafTags))).getD []

/-- With one document more, its rules are behind those that stay in force. -/
theorem rulesAfter_concat (settings : Settings) (documents : List Node) (document : Node) :
    rulesAfter settings (documents ++ [document])
      = (if settings.accumulateStyles then rulesAfter settings documents else [])
        ++ document.rules (.ofLeaves settings.leafTags) := by
  unfold rulesAfter
  cases settings.accumulateStyles <;> simp

/-- **The rules in force are those of the documents loaded.** -/
theorem Run.rules {settings : Settings} {events : List Event} {m : Moment}
    (h : Run ⟨.new settings, .idle⟩ events m) :
    m.session.book.rules = rulesAfter settings (events.filterMap Event.document?) := by
  induction h with
  | refl => cases hacc : settings.accumulateStyles <;> simp [rulesAfter, hacc, Session.new]
  | @step before m' m'' e hrun hstep ih =>
    rw [hstep.rules, filterMap_concat]
    cases e.document? with
    | none => exact ih.trans (congrArg _ (List.append_nil _).symm)
    | some document =>
      have hpage : m'.session.bookForPage.rules
          = if settings.accumulateStyles then rulesAfter settings (before.filterMap Event.document?)
            else [] := by
        rw [bookForPage, hrun.settings.2, apply_ite RuleBook.rules, ih]
      rw [Option.toList_some, rulesAfter_concat, ← hpage, ← hrun.settings.1]

/-- **Which rules are in force** after a run of a new session. If rules stay in
force, they are the rules of all documents loaded so far, in the order of
loading; if not, they are the rules of the last one, and there are none before
the first. An event that loads no document, such as a load that fails, leaves
the book as it is. -/
theorem rules_of_run {settings : Settings} {events : List Event} {m : Moment}
    (h : Run ⟨.new settings, .idle⟩ events m) :
    m.session.book.rules = rulesAfter settings (events.filterMap Event.document?)
      ∧ (∀ e m', Step m e m' → e.document? = none → m'.session.book = m.session.book)
      ∧ ∀ e m', Step m e m' → e.Fails → m'.session.book = m.session.book := by
  have hbook : ∀ e m', Step m e m' → e.document? = none → m'.session.book = m.session.book := by
    intro e m' hstep hnone
    have hrules := hstep.rules
    rw [hnone] at hrules
    exact congrArg RuleBook.mk hrules
  exact ⟨h.rules, hbook, fun e m' hstep hfails => hbook e m' hstep hfails.document?_eq_none⟩

/-- A page with a rule for this widget. -/
def ruledPage (selector : String) : String :=
  "<page><style>" ++ selector ++ " \x7b color: red; \x7d</style></page>"

/-- Two pages with a rule each, where rules do not stay in force, and behind
them a text that is no document: the rule of the second page is left. -/
theorem rules_of_run_failedLoad :
    ∃ m, Run ⟨.new { accumulateStyles := false }, .idle⟩
        [.commanded (.loadText (ruledPage "a")), .commanded (.loadText (ruledPage "b")),
          .commanded (.loadText "<page>")] m
      ∧ m.session.book.rules.map Style.Rule.selector = ["b"] := by
  have hrun := ((Run.single (.command (Session.new { accumulateStyles := false })
    (.loadText (ruledPage "a")))).step (.command _ (.loadText (ruledPage "b")))).step
      (.command _ (.loadText "<page>"))
  refine ⟨_, hrun, ?_⟩
  rw [(rules_of_run hrun).1]
  decide +kernel

end Session

end WidgetMarkup
