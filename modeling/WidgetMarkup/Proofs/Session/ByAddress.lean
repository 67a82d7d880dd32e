import WidgetMarkup.Proofs.Session.Accounting
import WidgetMarkup.Proofs.Session.Replay

/-!
# A page by its address

A page comes into a session by its text or by its address. The first way is a
call; the second goes through a transfer, the mailbox and the count of what is
in flight, and it loses the error of a page that is no document. What is left
in the end is the same: with nothing in flight before, starting a transfer and
waiting for it comes to dealing with its outcome at once (`waitPending_startTransfer`),
and to nothing at all where it brings no page.

It does not matter when the transfer ends. It runs, then its outcome is in the
mailbox, then it is dealt with, and whatever an owner who only waits may find
in between is one of these three (`Underway`).
-/

namespace WidgetMarkup

namespace Session

/-- **Nothing is under way**: no transfer runs, and the mailbox is empty, with
the sending end of the session only. -/
structure Landed (s : Session) : Prop where
  /-- No transfer runs. -/
  running : s.running = []
  /-- Nothing has arrived. -/
  mailbox : s.mailbox = ⟨[], 1⟩
  /-- Nothing is in flight. -/
  inFlight : s.inFlight = 0

theorem Balanced.landed {s : Session} (h : s.Balanced) (hs : s.inFlight = 0) : s.Landed := by
  have hinFlight := h.inFlight
  rw [hs, eq_comm, Nat.add_eq_zero_iff, List.length_eq_zero_iff, List.length_eq_zero_iff]
    at hinFlight
  obtain ⟨hrunning, hqueue⟩ := hinFlight
  have hsenders : s.mailbox.senders = 1 := by
    rw [h.senders, hrunning]
    rfl
  exact ⟨hrunning, congrArg₂ Mailbox.mk hqueue hsenders, hs⟩

/-- The session with a transfer that runs. -/
def fetching (s : Session) (o : Outcome) : Session :=
  { s with running := [o], mailbox := ⟨[], 2⟩, inFlight := 1 }

/-- The session with an outcome in its mailbox. -/
def arrived (s : Session) (o : Outcome) : Session :=
  { s with mailbox := ⟨[o], 1⟩, inFlight := 1 }

/-- **Where a transfer can be** that was started with nothing else under way,
while its owner waits for it or has not yet begun to. -/
inductive Underway (s : Session) (o : Outcome) : Moment → Prop where
  /-- It runs. -/
  | fetching {activity : Activity} (waits : activity = .idle ∨ activity = .waiting 0) :
      Underway s o ⟨s.fetching o, activity⟩
  /-- It has ended. -/
  | arrived {activity : Activity} (waits : activity = .idle ∨ activity = .waiting 0) :
      Underway s o ⟨s.arrived o, activity⟩
  /-- Its outcome is dealt with. -/
  | dealtWith : Underway s o ⟨s.react (.dealtWith o), .waiting o.documentCount⟩

namespace Landed

variable {s : Session} {o : Outcome}

theorem startTransfer (h : s.Landed) (url : String) (reply : Reply) :
    s.startTransfer url reply = s.fetching (reply.outcome url) := by
  unfold Session.startTransfer fetching Mailbox.addSender
  rw [h.running, h.mailbox, h.inFlight]
  rfl

theorem endTransfer (h : s.Landed) (o : Outcome) :
    (s.fetching o).endTransfer 0 = s.arrived o := by
  show { s with running := [], mailbox := ⟨[o], 1⟩, inFlight := 1 }
    = { s with mailbox := ⟨[o], 1⟩, inFlight := 1 }
  rw [← h.running]

/-- **What has arrived is dealt with as if it had never been in flight.** -/
theorem dealWith (h : s.Landed) (o : Outcome) :
    (s.arrived o).dealWith o ⟨[], 1⟩ = s.react (.dealtWith o) := by
  have hback : { (s.arrived o) with mailbox := ⟨[], 1⟩, inFlight := 0 } = s := by
    rw [← h.mailbox, ← h.inFlight]
    rfl
  show _ = (o.document.toOption.map s.load).getD s
  unfold Session.dealWith complete
  cases o.document with
  | error e => exact hback
  | ok document => exact congrArg (load · document) hback

theorem inFlight_react (h : s.Landed) (o : Outcome) :
    (s.react (.dealtWith o)).inFlight = 0 := by
  rw [← h.dealWith, inFlight_dealWith]
  rfl

/-- **Waiting for a transfer** that was started with nothing else under way
deals with its outcome. -/
theorem waitPending_startTransfer (h : s.Landed) (url : String) (reply : Reply) :
    (s.startTransfer url reply).waitPending
      = (s.react (.dealtWith (reply.outcome url)), (reply.outcome url).documentCount) := by
  have hreceive : ∀ o, (s.arrived o).mailbox.receive = .outcome o ⟨[], 1⟩ := fun _ => rfl
  rw [h.startTransfer, waitPending_of_empty Nat.one_ne_zero rfl rfl, h.endTransfer,
    waitPending_of_outcome Nat.one_ne_zero (hreceive _), h.dealWith,
    waitPending_of_landed (h.inFlight_react _)]
  rfl

end Landed

namespace Underway

variable {s : Session} {o : Outcome} {m m' : Moment} {e : Event}

/-- **One step** of the transfer, or of an owner who waits. -/
theorem step (h : Underway s o m) (hs : s.Landed) (hstep : Step m e m')
    (he : e = .beganWaiting ∨ ∃ o, e = .ended o ∨ e = .dealtWith o) : Underway s o m' := by
  cases h with
  | fetching waits =>
    cases hstep with
    | @finish _ position _ _ running =>
      obtain ⟨hlt, -⟩ := List.getElem?_eq_some_iff.mp running
      obtain rfl : position = 0 := Nat.lt_one_iff.mp hlt
      rw [hs.endTransfer]
      exact .arrived waits
    | beginWaiting => exact .fetching (Or.inr rfl)
    | receive n arrived => cases arrived
    | await n flying arrived => cases arrived
    | _ => simp at he
  | arrived waits =>
    cases hstep with
    | finish _ running =>
      rw [show (s.arrived o).running = [] from hs.running] at running
      cases running
    | beginWaiting => exact .arrived (Or.inr rfl)
    | receive n arrived => simp at waits
    | await n flying received =>
      cases received
      obtain rfl : n = 0 := by simpa using waits
      show Underway s o ⟨(s.arrived o).dealWith o ⟨[], 1⟩, .waiting (0 + o.documentCount)⟩
      rw [hs.dealWith, Nat.zero_add]
      exact .dealtWith
    | _ => simp at he
  | dealtWith =>
    cases hstep with
    | finish _ running =>
      rw [← hs.dealWith, running_dealWith, show (s.arrived o).running = [] from hs.running]
        at running
      cases running
    | await n flying arrived => exact absurd (hs.inFlight_react o) flying
    | _ => simp at he

/-- **Every run** of the transfer and of an owner who waits. -/
theorem run {events : List Event} (h : Underway s o m) (hs : s.Landed) (hrun : Run m events m')
    (hevents : ∀ e ∈ events, e = .beganWaiting ∨ ∃ o, e = .ended o ∨ e = .dealtWith o) :
    Underway s o m' := by
  induction hrun with
  | refl => exact h
  | step _ hstep ih =>
    rw [List.forall_mem_append] at hevents
    exact (ih hevents.1).step hs hstep (hevents.2 _ (List.mem_singleton_self _))

/-- **The owner comes back** when the outcome is dealt with, and not before. -/
theorem returned {n : Nat} (h : Underway s o m) (hstep : Step m (.returned n) m') :
    m'.session = s.react (.dealtWith o) ∧ n = o.documentCount := by
  cases h with
  | fetching waits =>
    cases hstep with
    | endReceiving => simp at waits
    | endWaiting _ landed => cases landed
  | arrived waits =>
    cases hstep with
    | endReceiving => simp at waits
    | endWaiting _ landed => cases landed
  | dealtWith =>
    cases hstep with
    | endWaiting => exact ⟨rfl, rfl⟩

end Underway

/-! ## The two ways compared -/

/-- The last of a row of events happens after the others. -/
theorem Run.concat {m m' : Moment} {events : List Event} {e : Event}
    (h : Run m (events ++ [e]) m') : ∃ before, Run m events before ∧ Step before e m' := by
  generalize hall : events ++ [e] = all at h
  cases h with
  | refl => simp at hall
  | @step events' before _ e' hrun hstep =>
    obtain ⟨rfl, hlast⟩ := List.append_inj' hall rfl
    obtain rfl : e = e' := by simpa using hlast
    exact ⟨before, hrun, hstep⟩

/-- **A page that was fetched is loaded as its text is.** -/
theorem react_outcome_page (s : Session) (url text : String) :
    s.react (.dealtWith ((Reply.page text).outcome url)) = (s.loadText text).1 := by
  rw [loadText_fst]
  rfl

/-- It is counted if its text is a document. -/
theorem documentCount_outcome_page (s : Session) (url text : String) :
    (((Reply.page text).outcome url).documentCount = 1 ↔ (s.loadText text).2 = none)
      ∧ (((Reply.page text).outcome url).documentCount = 0
          ↔ ∃ error, (s.loadText text).2 = some error) := by
  have hdocument : ((Reply.page text).outcome url).document = Node.parse text := rfl
  unfold Outcome.documentCount loadText
  rw [hdocument]
  cases Node.parse text <;> simp

/-- A fetch that brings no page leads to no document. -/
theorem document_outcome_of_ne_page {reply : Reply} (h : ∀ text, reply ≠ .page text)
    (url : String) : ∃ error, (reply.outcome url).document = .error error := by
  cases reply with
  | page text => exact absurd rfl (h text)
  | failed error => exact ⟨error, rfl⟩
  | crashed => exact ⟨_, rfl⟩

/-- **A page loaded by its address comes to the same as its text loaded.** In
every run of a new session, while nothing is in flight:

* a transfer that brings a text, once waited for, leaves the session that
  loading the text leaves, with its scene, its book, its subscribers and all
  notifications there were; and one document is returned if the text is one,
  none if loading it gives an error;
* a transfer that brings no text leaves the session as it was before it was
  started, and no document is returned;
* either way nothing is in flight afterwards;
* and it does not matter when the transfer ends: an owner who does nothing but
  wait comes back with this session and this number. -/
theorem waitPending_by_address {settings : Settings} {events : List Event} {s : Session}
    (h : Run ⟨.new settings, .idle⟩ events ⟨s, .idle⟩) (hlanded : s.inFlight = 0) (url : String)
    (reply : Reply) :
    let after := (s.startTransfer url reply).waitPending
    (∀ text, reply = .page text →
        after.1 = (s.loadText text).1
          ∧ (after.2 = 1 ↔ (s.loadText text).2 = none)
          ∧ (after.2 = 0 ↔ ∃ error, (s.loadText text).2 = some error))
      ∧ ((∀ text, reply ≠ .page text) → after = (s, 0))
      ∧ after.1.inFlight = 0
      ∧ ∀ more n m', Run ⟨s.startTransfer url reply, .idle⟩ (more ++ [.returned n]) m' →
          (∀ e ∈ more, e = .beganWaiting ∨ ∃ o, e = .ended o ∨ e = .dealtWith o) →
          m'.session = after.1 ∧ n = after.2 := by
  intro after
  have hs : s.Landed := (Accounts.run h).balanced.landed hlanded
  have hafter : after
      = (s.react (.dealtWith (reply.outcome url)), (reply.outcome url).documentCount) :=
    hs.waitPending_startTransfer url reply
  rw [hafter]
  refine ⟨?_, fun hreply => ?_, hs.inFlight_react _, fun more n m' hrun hmore => ?_⟩
  · rintro text rfl
    exact ⟨s.react_outcome_page url text, s.documentCount_outcome_page url text⟩
  · obtain ⟨error, herror⟩ := document_outcome_of_ne_page hreply url
    show ((_ : Option Session).getD s, _) = _
    rw [Outcome.documentCount, herror]
    rfl
  · obtain ⟨before, hwaits, hback⟩ := hrun.concat
    rw [hs.startTransfer] at hwaits
    exact ((Underway.fetching (Or.inl rfl)).run hs hwaits hmore).returned hback

/-- A subscriber, and a page that was fetched and dealt with. -/
def subscribedAndFetched : List Event :=
  let page := (Reply.page "<page><view/></page>").outcome "a"
  [.commanded .subscribe, .started page, .ended page, .beganWaiting, .dealtWith page,
    .returned (0 + page.documentCount)]

/-- A second page that is fetched then is the one document that the wait
returns. A text that is no document counts for nothing, and a transfer that
breaks down has left no trace. -/
theorem waitPending_by_address_subscribedAndFetched :
    ∃ s, Run ⟨.new {}, .idle⟩ subscribedAndFetched ⟨s, .idle⟩ ∧ s.notified = [1]
      ∧ (s.startTransfer "b" (.page "<page><text/></page>")).waitPending.2 = 1
      ∧ (s.startTransfer "b" (.page "<page>")).waitPending.2 = 0
      ∧ (s.startTransfer "b" .crashed).waitPending = (s, 0) := by
  have hended := (((Run.single (.command (Session.new {}) .subscribe)).step
    (.start _ "a" (.page "<page><view/></page>"))).step (@Step.finish _ 0 _ _ rfl)).step
    (.beginWaiting _)
  have hdone := (hended.step (.await 0 (by decide) rfl)).step
    (.endWaiting _ (inFlight_dealWith _ _ _))
  obtain ⟨s, hrun, hlanded, hnotified⟩ : ∃ s, Run ⟨.new {}, .idle⟩ subscribedAndFetched ⟨s, .idle⟩
      ∧ s.inFlight = 0 ∧ s.notified = [1] :=
    ⟨_, hdone, inFlight_dealWith _ _ _, by decide +kernel⟩
  have hpage : (s.loadText "<page><text/></page>").2 = none :=
    (s.documentCount_outcome_page "b" _).1.mp (by decide +kernel)
  have hopen : ∃ error, (s.loadText "<page>").2 = some error :=
    (s.documentCount_outcome_page "b" _).2.mp (by decide +kernel)
  exact ⟨s, hrun, hnotified, ((waitPending_by_address hrun hlanded "b" _).1 _ rfl).2.1.mpr hpage,
    ((waitPending_by_address hrun hlanded "b" _).1 _ rfl).2.2.mpr hopen,
    (waitPending_by_address hrun hlanded "b" .crashed).2.1 (by simp)⟩

end Session

end WidgetMarkup
