import Mathlib.Algebra.GroupWithZero.Nat
import Mathlib.Data.List.Perm.Basic
import WidgetMarkup.Proofs.Session.Interleaving

/-!
# Every transfer is accounted for

Transfers end in any order and at any time, and their outcomes are dealt with
by whichever call takes them out. All the same nothing is lost and nothing is
counted twice. What has happened in a run is enough to say so: the outcomes
dealt with and those in the mailbox are, in this order, the outcomes that have
arrived, and together with those of the transfers that run they are the
outcomes of the transfers that were started. `Accounts` puts this together
with the books of the session and with what the calls have returned; each step
keeps it, and so it holds after every run.

From the accounts it follows that an owner who waits is never cut short, and
comes back only after every transfer that was started has been dealt with.
-/

namespace WidgetMarkup

/-- **Was a page fetched, and is it a document?** -/
def Outcome.isDocument (o : Outcome) : Bool :=
  match o.page with
  | .ok text => (Node.parse text).isOk
  | .error _ => false

/-- An outcome leads to a document or to none. -/
theorem Outcome.documentCount_eq (o : Outcome) :
    o.documentCount = if o.isDocument then 1 else 0 := by
  cases hpage : o.page with
  | error error => simp [documentCount, document, isDocument, hpage]
  | ok text =>
    cases hparse : Node.parse text <;>
      simp [documentCount, document, isDocument, hpage, hparse, Except.isOk, Except.toBool]

namespace Session

namespace Event

/-- The outcome of the transfer that is started. -/
def started? : Event → Option Outcome
  | .started o => some o
  | _ => none

/-- The outcome that arrives. -/
def ended? : Event → Option Outcome
  | .ended o => some o
  | _ => none

/-- The outcome that is dealt with. -/
def dealtWith? : Event → Option Outcome
  | .dealtWith o => some o
  | _ => none

/-- The number that a call returns, cut short or not. -/
def returned? : Event → Option Nat
  | .returned n => some n
  | .cutShort n => some n
  | _ => none

end Event

/-! ## What one step moves -/

namespace Step

variable {m m' : Moment} {e : Event}

/-- **The mailbox is a queue**: what arrives goes to its end, and what is dealt
with comes from its front. -/
theorem queue (h : Step m e m') :
    m.session.mailbox.queue ++ e.ended?.toList
      = e.dealtWith?.toList ++ m'.session.mailbox.queue := by
  cases h with
  | finish activity running =>
    rw [endTransfer_eq running]
    rfl
  | receive n arrived =>
    obtain ⟨hqueue, -⟩ := Mailbox.receive_eq_outcome arrived
    simp [hqueue, Event.ended?, Event.dealtWith?]
  | await n flying arrived =>
    obtain ⟨hqueue, -⟩ := Mailbox.receive_eq_outcome arrived
    simp [hqueue, Event.ended?, Event.dealtWith?]
  | command s c => simp [Event.ended?, Event.dealtWith?]
  | _ => exact List.append_nil _

/-- **A transfer runs until it ends**, and until then it keeps its outcome. -/
theorem running (h : Step m e m') :
    (e.ended?.toList ++ m'.session.running).Perm (m.session.running ++ e.started?.toList) := by
  cases h with
  | @finish s position o activity running =>
    obtain ⟨hlt, rfl⟩ := List.getElem?_eq_some_iff.mp running
    rw [endTransfer_eq running]
    simpa [Event.ended?, Event.started?] using List.getElem_cons_eraseIdx_perm hlt
  | start s url reply => exact .refl _
  | receive n arrived => simp [Event.ended?, Event.started?]
  | await n flying arrived => simp [Event.ended?, Event.started?]
  | command s c => simp [Event.ended?, Event.started?]
  | _ => simp [Event.ended?, Event.started?]

/-- **A call counts the documents** among what it deals with, and returns what
it has counted. -/
theorem loaded (h : Step m e m') :
    e.returned?.toList.sum + m'.activity.loaded
      = m.activity.loaded + e.dealtWith?.toList.countP Outcome.isDocument := by
  cases h with
  | receive n arrived =>
    simp [Event.returned?, Event.dealtWith?, Activity.loaded, Outcome.documentCount_eq]
  | await n flying arrived =>
    simp [Event.returned?, Event.dealtWith?, Activity.loaded, Outcome.documentCount_eq]
  | _ => simp [Event.returned?, Event.dealtWith?, Activity.loaded]

end Step

/-- **The accounts** of a session after what has happened. -/
structure Accounts (events : List Event) (m : Moment) : Prop where
  /-- The books are right. -/
  balanced : m.session.Balanced
  /-- What has arrived was dealt with in the order of arrival, or is in the
  mailbox. -/
  arrived : events.filterMap Event.dealtWith? ++ m.session.mailbox.queue
    = events.filterMap Event.ended?
  /-- What was started has arrived, or runs. -/
  posted : (events.filterMap Event.ended? ++ m.session.running).Perm
    (events.filterMap Event.started?)
  /-- What the calls have returned, and the call that is not yet back has
  counted, is the number of documents among what was dealt with. -/
  counted : (events.filterMap Event.returned?).sum + m.activity.loaded
    = (events.filterMap Event.dealtWith?).countP Outcome.isDocument
  /-- No wait was cut short. -/
  uncut : ∀ n, Event.cutShort n ∉ events

namespace Accounts

variable {events : List Event} {m m' : Moment} {e : Event}

theorem new (settings : Settings) : Accounts [] ⟨.new settings, .idle⟩ where
  balanced := .new settings
  arrived := rfl
  posted := .refl []
  counted := rfl
  uncut _ := List.not_mem_nil

/-- **Every step keeps the accounts.** -/
theorem step (h : Accounts events m) (hstep : Step m e m') : Accounts (events ++ [e]) m' where
  balanced := hstep.balanced h.balanced
  arrived := by
    rw [filterMap_concat, filterMap_concat, ← h.arrived, List.append_assoc, List.append_assoc,
      hstep.queue]
  posted := by
    rw [filterMap_concat, filterMap_concat, List.append_assoc]
    refine (hstep.running.append_left _).trans ?_
    rw [← List.append_assoc]
    exact h.posted.append_right _
  counted := by
    rw [filterMap_concat, filterMap_concat, List.sum_append, List.countP_append, ← h.counted,
      Nat.add_assoc, Nat.add_assoc, hstep.loaded]
  uncut n hmem := by
    rcases List.mem_append.mp hmem with hmem | hmem
    · exact h.uncut n hmem
    · obtain rfl := List.mem_singleton.mp hmem
      -- a wait is cut short only where the mailbox is closed
      cases hstep with
      | giveUp n flying closed => exact h.balanced.receive_ne_closed closed

theorem run {settings : Settings} (h : Run ⟨.new settings, .idle⟩ events m) :
    Accounts events m := by
  induction h with
  | refl => exact .new settings
  | step _ hstep ih => exact ih.step hstep

/-- **Whatever is dealt with was in flight**, and is not any more. -/
theorem inFlight_of_dealtWith (h : Accounts events m) {o : Outcome}
    (hstep : Step m (.dealtWith o) m') : m.session.inFlight = m'.session.inFlight + 1 := by
  have hbefore := h.balanced.inFlight
  have hafter := (hstep.balanced h.balanced).inFlight
  have hqueue := congrArg List.length hstep.queue
  have hrunning := hstep.running.length_eq
  simp only [Event.ended?, Event.dealtWith?, Event.started?, Option.toList_none,
    Option.toList_some, List.length_append, List.length_nil, List.length_singleton]
    at hqueue hrunning
  omega

/-- **Where nothing is in flight, everything started has been dealt with.** -/
theorem dealtWith_of_landed (h : Accounts events m) (hlanded : m.session.inFlight = 0) :
    m.session.mailbox.queue = []
      ∧ (events.filterMap Event.dealtWith?).Perm (events.filterMap Event.started?) := by
  have hlen := h.balanced.inFlight
  rw [hlanded, eq_comm, Nat.add_eq_zero_iff, List.length_eq_zero_iff, List.length_eq_zero_iff]
    at hlen
  obtain ⟨hrunning, hqueue⟩ := hlen
  have harrived := h.arrived
  have hposted := h.posted
  rw [hqueue, List.append_nil] at harrived
  rw [hrunning, List.append_nil, ← harrived] at hposted
  exact ⟨hqueue, hposted⟩

end Accounts

/-- **Transfers are accounted for in every run of a new session**, however the
owner's doings and the ends of the transfers fall between each other.

* What is in flight is what runs and what has arrived, so there is something
  in flight whenever an outcome is dealt with, and one less afterwards.
* What was dealt with, followed by what is in the mailbox, is what has
  arrived, in the order of arrival.
* What has arrived and what runs is what was started, each outcome as often
  as it was started.
* The numbers returned, and what the present call has counted so far, add up
  to the number of outcomes dealt with that were documents.
* No wait is cut short, and the mailbox is never found closed. The owner comes
  back from a wait only when nothing is in flight, the mailbox is empty, and
  everything started has been dealt with.
* `receivePending` and `waitPending` are such runs. -/
theorem transfers_accounted {settings : Settings} {events : List Event} {m : Moment}
    (h : Run ⟨.new settings, .idle⟩ events m) :
    m.session.inFlight = m.session.running.length + m.session.mailbox.queue.length
      ∧ (∀ o m', Step m (.dealtWith o) m' → m.session.inFlight = m'.session.inFlight + 1)
      ∧ events.filterMap Event.dealtWith? ++ m.session.mailbox.queue
          = events.filterMap Event.ended?
      ∧ (events.filterMap Event.ended? ++ m.session.running).Perm
          (events.filterMap Event.started?)
      ∧ (events.filterMap Event.returned?).sum + m.activity.loaded
          = (events.filterMap Event.dealtWith?).countP Outcome.isDocument
      ∧ (∀ n, Event.cutShort n ∉ events)
      ∧ m.session.mailbox.receive ≠ .closed
      ∧ (∀ k n m', m.activity = .waiting k → Step m (.returned n) m' →
          m'.session.inFlight = 0 ∧ m'.session.mailbox.queue = []
            ∧ (events.filterMap Event.dealtWith?).Perm (events.filterMap Event.started?))
      ∧ (∀ k, m.activity = .receiving k → ∃ outcomes : List Outcome,
          Run m (outcomes.map .dealtWith ++ [.returned (k + m.session.receivePending.2)])
            ⟨m.session.receivePending.1, .idle⟩)
      ∧ ∀ k, m.activity = .waiting k → ∃ more : List Event,
          (∀ e ∈ more, ∃ o, e = .ended o ∨ e = .dealtWith o)
            ∧ Run m (more ++ [.returned (k + m.session.waitPending.2)])
                ⟨m.session.waitPending.1, .idle⟩ := by
  have hacc := Accounts.run h
  obtain ⟨s, activity⟩ := m
  refine ⟨hacc.balanced.inFlight, fun o m' hstep => ?_, hacc.arrived, hacc.posted, hacc.counted,
    hacc.uncut, hacc.balanced.receive_ne_closed, fun k n m' hwaiting hstep => ?_,
    fun k hk => ?_, fun k hk => ?_⟩
  · exact hacc.inFlight_of_dealtWith hstep
  · obtain rfl : activity = .waiting k := hwaiting
    cases hstep with
    | endWaiting n landed => exact ⟨landed, hacc.dealtWith_of_landed landed⟩
  · obtain rfl : activity = .receiving k := hk
    exact s.run_receivePending k
  · obtain rfl : activity = .waiting k := hk
    exact hacc.balanced.run_waitPending k

/-- Two transfers of which the later one ends first, before the owner waits,
and breaks down; the other ends while the owner waits. -/
def twoTransfers : List Event :=
  let page := (Reply.page "<page/>").outcome "a"
  let broken := Reply.crashed.outcome "b"
  [.started page, .started broken, .ended broken, .beganWaiting, .dealtWith broken,
    .ended page, .dealtWith page, .returned (0 + broken.documentCount + page.documentCount)]

/-- The run gives back what it was given, and the wait returns the one
document. -/
theorem transfers_accounted_twoTransfers :
    ∃ m, Run ⟨.new {}, .idle⟩ twoTransfers m ∧ m.session.inFlight = 0
      ∧ (twoTransfers.filterMap Event.dealtWith?).Perm
          (twoTransfers.filterMap Event.started?)
      ∧ (twoTransfers.filterMap Event.returned?).sum = 1 := by
  have hstarted := (Run.single (.start (Session.new {}) "a" (.page "<page/>"))).step
    (.start _ "b" .crashed)
  have hbegun := (hstarted.step (@Step.finish _ 1 _ _ rfl)).step (.beginWaiting _)
  have hbroken := hbegun.step (.await 0 (by decide) rfl)
  have hpage := (hbroken.step (@Step.finish _ 0 _ _ rfl)).step (.await _ (by decide) rfl)
  obtain ⟨m, hrun, hidle, hrunning, hqueue⟩ : ∃ m, Run ⟨.new {}, .idle⟩ twoTransfers m
      ∧ m.activity = .idle ∧ m.session.running = [] ∧ m.session.mailbox.queue = [] :=
    ⟨_, hpage.step (.endWaiting _ (inFlight_dealWith _ _ _)), rfl, running_dealWith _ _ _,
      congrArg Mailbox.queue (mailbox_dealWith _ _ _)⟩
  obtain ⟨hinFlight, -, harrived, hposted, hcounted, -⟩ := transfers_accounted hrun
  rw [hqueue, List.append_nil] at harrived
  rw [hrunning, List.append_nil, ← harrived] at hposted
  refine ⟨m, hrun, ?_, hposted, ?_⟩
  · rw [hinFlight, hrunning, hqueue]
    rfl
  · rw [hidle] at hcounted
    exact hcounted.trans (by decide +kernel)

end Session

end WidgetMarkup
