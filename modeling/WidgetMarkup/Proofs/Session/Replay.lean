import WidgetMarkup.Proofs.Session.Interleaving

/-!
# A session is what its events make of it

Two things go on in a session. Transfers are started, run, end and wait in the
mailbox, and this is where steps may fall between each other. The rest – the
scene, the rules, the subscribers and their notifications – is changed by
commands and by outcomes that are dealt with, and by nothing else.

So the session without its transfers follows from the events of a run, read
one after another (`Run.replay`): a document that is loaded, by whichever way
it came, is loaded; a command is obeyed; and any other event changes nothing.
What holds of it in all runs is then shown by going through the events, and
does not look at transfers any more.
-/

namespace WidgetMarkup.Session

/-- The document that an event loads. It may be given as it is, or as a text,
or be what a transfer has fetched. -/
def Event.document? : Event → Option Node
  | .commanded (.load document) => some document
  | .commanded (.loadText text) => (Node.parse text).toOption
  | .dealtWith o => o.document.toOption
  | _ => none

/-- **The session without its transfers.** -/
def withoutTransfers (s : Session) : Session :=
  { s with running := [], mailbox := {}, inFlight := 0 }

/-- **The session after an event**, as far as transfers do not come into it. -/
def react (s : Session) : Event → Session
  | .commanded c => s.obey c
  | .dealtWith o => (o.document.toOption.map s.load).getD s
  | _ => s

/-! ## What an event does -/

/-- A text is loaded if it is a document. -/
theorem loadText_fst (s : Session) (text : String) :
    (s.loadText text).1 = ((Node.parse text).toOption.map s.load).getD s := by
  unfold loadText
  cases Node.parse text <;> rfl

/-- **A document is loaded**, by whichever way it came. -/
theorem react_of_document? {e : Event} {document : Node} (h : e.document? = some document)
    (s : Session) : s.react e = s.load document := by
  cases e with
  | commanded c =>
    cases c with
    | load d =>
      cases h
      rfl
    | loadText text =>
      show (s.loadText text).1 = _
      rw [loadText_fst, show (Node.parse text).toOption = some document from h]
      rfl
    | _ => cases h
  | dealtWith o =>
    show (o.document.toOption.map s.load).getD s = _
    rw [show o.document.toOption = some document from h]
    rfl
  | _ => cases h

/-- **An event that loads no document** is one of four commands, or changes
nothing. -/
theorem react_of_document?_eq_none {e : Event} (h : e.document? = none) (s : Session) :
    s.react e = s ∨ e = .commanded .applyRules ∨ e = .commanded .subscribe
      ∨ (∃ id, e = .commanded (.unsubscribe id))
      ∨ ∃ scene, e = .commanded (.changeScene scene) := by
  cases e with
  | commanded c =>
    cases c with
    | load d => cases h
    | loadText text =>
      refine Or.inl ?_
      show (s.loadText text).1 = s
      rw [loadText_fst, show (Node.parse text).toOption = none from h]
      rfl
    | applyRules => exact Or.inr (Or.inl rfl)
    | subscribe => exact Or.inr (Or.inr (Or.inl rfl))
    | unsubscribe id => exact Or.inr (Or.inr (Or.inr (Or.inl ⟨id, rfl⟩)))
    | changeScene scene => exact Or.inr (Or.inr (Or.inr (Or.inr ⟨scene, rfl⟩)))
  | dealtWith o =>
    refine Or.inl ?_
    show (o.document.toOption.map s.load).getD s = s
    rw [show o.document.toOption = none from h]
    rfl
  | _ => exact Or.inl rfl

/-! ## Runs -/

/-- Commands do not look at transfers. -/
theorem withoutTransfers_obey (s : Session) (c : Command) :
    (s.obey c).withoutTransfers = s.withoutTransfers.obey c := by
  cases c with
  | loadText text =>
    show (s.loadText text).1.withoutTransfers = (s.withoutTransfers.loadText text).1
    rw [loadText_fst, loadText_fst]
    cases (Node.parse text).toOption <;> rfl
  | _ => rfl

/-- An outcome is dealt with by loading its document, if it leads to one. -/
theorem withoutTransfers_complete (s : Session) (o : Outcome) :
    (s.complete o).withoutTransfers = s.withoutTransfers.react (.dealtWith o) := by
  show _ = (o.document.toOption.map s.withoutTransfers.load).getD s.withoutTransfers
  unfold complete
  cases o.document <;> rfl

/-- The end of a transfer changes nothing else. -/
theorem withoutTransfers_endTransfer (s : Session) (position : Nat) :
    (s.endTransfer position).withoutTransfers = s.withoutTransfers := by
  unfold endTransfer
  split <;> rfl

/-- **One step is one event**, as far as transfers do not come into it. -/
theorem Step.replay {m m' : Moment} {e : Event} (h : Step m e m') :
    m'.session.withoutTransfers = m.session.withoutTransfers.react e := by
  cases h with
  | command s c => exact s.withoutTransfers_obey c
  | finish activity running => exact withoutTransfers_endTransfer _ _
  | receive n arrived => exact withoutTransfers_complete _ _
  | await n flying arrived => exact withoutTransfers_complete _ _
  | _ => rfl

/-- Events do not look at transfers. -/
theorem withoutTransfers_react (s : Session) (e : Event) :
    (s.react e).withoutTransfers = s.withoutTransfers.react e := by
  cases e with
  | commanded c => exact s.withoutTransfers_obey c
  | dealtWith o =>
    show ((o.document.toOption.map s.load).getD s).withoutTransfers
      = (o.document.toOption.map s.withoutTransfers.load).getD s.withoutTransfers
    cases o.document.toOption <;> rfl
  | _ => rfl

/-- **What is read off a session** without looking at its transfers is, after a
step, what the event makes of it. -/
theorem Step.eq_react {α : Type} {m m' : Moment} {e : Event} (h : Step m e m') (f : Session → α)
    (hf : ∀ s : Session, f s.withoutTransfers = f s) : f m'.session = f (m.session.react e) :=
  calc f m'.session
      = f (m.session.withoutTransfers.react e) := by rw [← hf, h.replay]
    _ = f (m.session.react e) := by rw [← withoutTransfers_react, hf]

/-- **A run is its events**, one after another, as far as transfers do not come
into it. -/
theorem Run.replay {m m' : Moment} {events : List Event} (h : Run m events m') :
    m'.session.withoutTransfers = events.foldl react m.session.withoutTransfers := by
  induction h with
  | refl => rfl
  | step _ hstep ih => rw [hstep.replay, ih, List.foldl_append, List.foldl_cons, List.foldl_nil]

/-! ## Loads that fail -/

/-- **A load that fails**: a text that is no document, or an outcome that leads
to none. -/
def Event.Fails : Event → Prop
  | .commanded (.loadText text) => ∃ error, Node.parse text = .error error
  | .dealtWith o => ∃ error, o.document = .error error
  | _ => False

/-- A load that fails loads no document. -/
theorem Event.Fails.document?_eq_none {e : Event} (h : e.Fails) : e.document? = none := by
  cases e with
  | commanded c =>
    cases c with
    | loadText text =>
      obtain ⟨error, herror⟩ := h
      rw [document?, herror]
      rfl
    | _ => cases h
  | dealtWith o =>
    obtain ⟨error, herror⟩ := h
    rw [document?, herror]
    rfl
  | _ => cases h

end WidgetMarkup.Session
