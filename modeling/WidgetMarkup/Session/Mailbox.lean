import WidgetMarkup.LoadError

/-!
# The mailbox

Pages are fetched in the background, and what comes of each fetch is put
into a mailbox, where it is taken out in the order of arrival. Each transfer
posts exactly one outcome, also where the fetch breaks down: then the
outcome is an error.

Whoever may still post holds a sending end of the mailbox. A mailbox that is
empty may fill again as long as there is a sending end; without one it is
closed, and nothing will come.
-/

namespace WidgetMarkup

/-- How a fetch ends. -/
inductive Reply where
  /-- With the text of the page. -/
  | page (text : String)
  /-- With an error. -/
  | failed (error : LoadError)
  /-- It breaks down without an answer. -/
  | crashed
deriving DecidableEq, Repr

/-- **What comes of a transfer**: the text of the page, or an error. -/
structure Outcome where
  /-- What was fetched. -/
  url : String
  /-- The text, or why there is none. -/
  page : Except LoadError String

/-- The outcome of a transfer whose fetch ends with this reply. -/
def Reply.outcome (url : String) : Reply → Outcome
  | .page text => ⟨url, .ok text⟩
  | .failed error => ⟨url, .error error⟩
  | .crashed => ⟨url, .error (.fetch url "transport panicked")⟩

/-- **Outcomes that have arrived**, and how many sending ends there are. -/
structure Mailbox where
  /-- The outcomes, oldest first. -/
  queue : List Outcome := []
  /-- The sending ends. The owner of the mailbox keeps one. -/
  senders : Nat := 1

/-- What taking an outcome out may lead to. -/
inductive Received where
  /-- An outcome, and the mailbox without it. -/
  | outcome (o : Outcome) (rest : Mailbox)
  /-- Nothing has arrived, but something may. -/
  | empty
  /-- Nothing has arrived and nothing will. -/
  | closed

namespace Mailbox

/-- Hands out a sending end. -/
def addSender (m : Mailbox) : Mailbox :=
  { m with senders := m.senders + 1 }

/-- Posts an outcome and gives the sending end back. -/
def post (m : Mailbox) (o : Outcome) : Mailbox :=
  ⟨m.queue ++ [o], m.senders - 1⟩

/-- Takes the oldest outcome out. -/
def receive (m : Mailbox) : Received :=
  match m.queue with
  | o :: rest => .outcome o { m with queue := rest }
  | [] => if m.senders = 0 then .closed else .empty

/-- An outcome taken out was the first in the queue. -/
theorem receive_eq_outcome {m rest : Mailbox} {o : Outcome}
    (h : m.receive = .outcome o rest) :
    m.queue = o :: rest.queue ∧ rest.senders = m.senders := by
  unfold receive at h
  split at h
  · next o' more heq =>
    obtain ⟨rfl, rfl⟩ : o' = o ∧ { m with queue := more } = rest := by simpa using h
    exact ⟨heq, rfl⟩
  · split at h <;> cases h

/-- A mailbox that says it is empty has an empty queue. -/
theorem queue_of_receive_eq_empty {m : Mailbox} (h : m.receive = .empty) : m.queue = [] := by
  unfold receive at h
  split at h
  · cases h
  · assumption

end Mailbox

end WidgetMarkup
