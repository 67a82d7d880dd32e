import WidgetMarkup.Markup.Document
import WidgetMarkup.Page.Build
import WidgetMarkup.Page.RuleBook
import WidgetMarkup.Session.Mailbox
import WidgetMarkup.Session.Subscribers
import WidgetMarkup.Settings

/-!
# A session

A session loads pages into one scene, one after another. Loading a document
builds what is inside its root element under the root of the scene, adds its
rules to the book, applies the whole book to the whole scene, and notifies
the subscribers. So a rule of one page also applies to the widgets of pages
before and after it – unless rules do not accumulate, in which case the book
is emptied before each page.

A text that is no document changes nothing: no widget is made, no rule added
or dropped, nobody notified.
-/

namespace WidgetMarkup

/-- **The state of a session.** -/
structure Session where
  /-- The widgets. -/
  scene : Scene
  /-- The rules in force. -/
  book : RuleBook
  /-- What the tags of a page mean. -/
  roles : TagRoles
  /-- Whether rules stay in force from page to page. -/
  accumulates : Bool
  /-- Who is notified of pages. -/
  subscribers : Subscribers
  /-- Every notification so far, oldest first. -/
  notified : List SubscriberId
  /-- What the transfers that are still running will post, in the order in
  which they were started. -/
  running : List Outcome
  /-- What has arrived. -/
  mailbox : Mailbox
  /-- How many transfers were started and not yet dealt with. -/
  inFlight : Nat

namespace Session

/-- A new session. -/
def new (settings : Settings := {}) : Session where
  scene := .new
  book := {}
  roles := .ofLeaves settings.leafTags
  accumulates := settings.accumulateStyles
  subscribers := {}
  notified := []
  running := []
  mailbox := {}
  inFlight := 0

/-- Adds a subscriber, whose number is `s.subscribers.next`. -/
def subscribe (s : Session) : Session :=
  { s with subscribers := s.subscribers.subscribe }

/-- Takes a subscriber off the list. -/
def unsubscribe (s : Session) (id : SubscriberId) : Session :=
  { s with subscribers := s.subscribers.unsubscribe id }

/-- The session with its scene changed from outside. -/
def withScene (s : Session) (scene : Scene) : Session :=
  { s with scene }

/-- Applies the rules in force, and counts how often a rule met a widget. -/
def applyRules (s : Session) : Session × Nat :=
  let (scene, n) := s.scene.applyRules s.book.rules
  (s.withScene scene, n)

/-- Notifies every subscriber. -/
def notify (s : Session) : Session :=
  { s with notified := s.notified ++ s.subscribers.listed }

/-- The rules that a page is added to. -/
def bookForPage (s : Session) : RuleBook :=
  if s.accumulates then s.book else {}

/-- The session with the widgets and rules of a document, before any rule is
applied. -/
def buildDocument (s : Session) (document : Node) : Session :=
  let built := Construction.buildInside s.roles Scene.root
    { scene := s.scene, book := s.bookForPage } document
  { s with scene := built.scene, book := built.book }

/-- **Loads a document.** -/
def load (s : Session) (document : Node) : Session :=
  (s.buildDocument document).applyRules.1.notify

/-- **Loads a text**, if it is a document; otherwise the session stays as it
is, and the error says why. -/
def loadText (s : Session) (text : String) : Session × Option LoadError :=
  match Node.parse text with
  | .ok document => (s.load document, none)
  | .error error => (s, some error)

end Session

end WidgetMarkup
