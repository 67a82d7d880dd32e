import WidgetMarkup.Session.Basic

/-!
# Transfers

A page can be loaded by its address. Fetching it is left to a transfer that
runs beside the session and ends at a time of its own; all that the session
does itself is to start it, and later to take its outcome from the mailbox
and deal with it. A page that was fetched and is a document is loaded, and
every other outcome is dropped.

`receivePending` deals with what has arrived and comes back. `waitPending`
comes back when no transfer is in flight any more: while the mailbox is
empty it waits for one to end, here for the one that was started first.
-/

namespace WidgetMarkup

/-- The document that an outcome leads to, or why there is none. -/
def Outcome.document (o : Outcome) : Except LoadError Node :=
  match o.page with
  | .error error => .error error
  | .ok text => Node.parse text

/-- How many documents an outcome leads to. -/
def Outcome.documentCount (o : Outcome) : Nat :=
  match o.document with
  | .error _ => 0
  | .ok _ => 1

namespace Session

/-- **Starts a transfer.** What it will post depends on how its fetch will
end. -/
def startTransfer (s : Session) (url : String) (reply : Reply) : Session :=
  { s with
    running := s.running ++ [reply.outcome url]
    mailbox := s.mailbox.addSender
    inFlight := s.inFlight + 1 }

/-- **A transfer ends**, the one at the given position among those running:
its outcome arrives in the mailbox. -/
def endTransfer (s : Session) (position : Nat) : Session :=
  match s.running[position]? with
  | none => s
  | some o =>
    { s with
      running := s.running.eraseIdx position
      mailbox := s.mailbox.post o }

/-- **Deals with the outcome of a transfer**, which is then no longer in
flight. -/
def complete (s : Session) (o : Outcome) : Session :=
  match o.document with
  | .error _ => { s with inFlight := s.inFlight - 1 }
  | .ok d => { s with inFlight := s.inFlight - 1 }.load d

/-- Dealing with an outcome starts and ends no transfer. -/
@[simp]
theorem running_complete (s : Session) (o : Outcome) : (s.complete o).running = s.running := by
  unfold complete
  split <;> rfl

/-- Dealing with an outcome leaves the mailbox alone. -/
@[simp]
theorem mailbox_complete (s : Session) (o : Outcome) : (s.complete o).mailbox = s.mailbox := by
  unfold complete
  split <;> rfl

/-- Every outcome dealt with is one transfer less in flight. -/
@[simp]
theorem inFlight_complete (s : Session) (o : Outcome) :
    (s.complete o).inFlight = s.inFlight - 1 := by
  unfold complete
  split <;> rfl

/-- **Deals with everything that has arrived**, and counts the documents
that were loaded. -/
def receivePending (s : Session) : Session × Nat :=
  match _h : s.mailbox.receive with
  | .empty => (s, 0)
  | .closed => (s, 0)
  | .outcome o rest =>
    let (last, n) := ({ s with mailbox := rest }.complete o).receivePending
    (last, o.documentCount + n)
termination_by s.mailbox.queue.length
decreasing_by
  obtain ⟨hqueue, -⟩ := Mailbox.receive_eq_outcome _h
  simp [hqueue]

/-- **Deals with every transfer in flight**, and counts the documents that
were loaded. -/
def waitPending (s : Session) : Session × Nat :=
  if s.inFlight = 0 then (s, 0)
  else
    match _h : s.mailbox.receive with
    | .closed => (s, 0)
    | .empty =>
      match _hr : s.running with
      | [] => (s, 0)
      | _ :: _ => (s.endTransfer 0).waitPending
    | .outcome o rest =>
      let (last, n) := ({ s with mailbox := rest }.complete o).waitPending
      (last, o.documentCount + n)
termination_by (s.running.length, s.mailbox.queue.length)
decreasing_by
  · apply Prod.Lex.left
    simp [endTransfer, _hr]
  · obtain ⟨hqueue, -⟩ := Mailbox.receive_eq_outcome _h
    simp only [running_complete, mailbox_complete, hqueue, List.length_cons]
    exact Prod.Lex.right _ (Nat.lt_succ_self _)

end Session

end WidgetMarkup
