import WidgetMarkup.Session.Transfer

/-!
# A session among its transfers

A session has one owner, who does one thing after another, and any number of
transfers that run beside it and end when they will. `Step` says what may
happen next, in steps so small that a transfer may end between any two of
them: the owner gives a command, starts a transfer, begins to deal with what
has arrived or to wait for every transfer, takes one outcome from the mailbox,
comes back; or a transfer ends, whatever the owner is doing. A `Run` is any
sequence of such steps, with the list of what happened.

Waiting has two ways back. The owner comes back when nothing is in flight any
more, and is cut short when the mailbox is closed. While the mailbox is empty
and open there is no step for an owner who waits, and it is for a transfer to
end.

`receivePending` and `waitPending` are runs of these steps, the first without
any transfer that ends in between, and the second with those that it has to
wait for (`run_receivePending`, `run_waitPending`). For `waitPending` this
takes that the books are right: what is in flight either runs or has arrived,
and there is a sending end for each transfer that runs and one more
(`Balanced`). Every step keeps the books right, so they are right in all runs.
-/

namespace WidgetMarkup.Session

/-! ## Steps and runs -/

/-- **What the owner of a session may do at once**, apart from transfers. -/
inductive Command where
  /-- Loads a text. -/
  | loadText (text : String)
  /-- Loads a document. -/
  | load (document : Node)
  /-- Applies the rules in force. -/
  | applyRules
  /-- Adds a subscriber. -/
  | subscribe
  /-- Takes a subscriber off the list. -/
  | unsubscribe (id : SubscriberId)
  /-- Changes the scene from outside. -/
  | changeScene (scene : Scene)

/-- The session after a command. -/
def obey (s : Session) : Command → Session
  | .loadText text => (s.loadText text).1
  | .load document => s.load document
  | .applyRules => s.applyRules.1
  | .subscribe => s.subscribe
  | .unsubscribe id => s.unsubscribe id
  | .changeScene scene => s.withScene scene

/-- What the owner of a session is doing. -/
inductive Activity where
  /-- Nothing that takes time. -/
  | idle
  /-- Dealing with what has arrived; so many documents were loaded. -/
  | receiving (loaded : Nat)
  /-- Waiting for every transfer; so many documents were loaded. -/
  | waiting (loaded : Nat)
deriving DecidableEq

/-- How many documents were loaded in the course of the activity. -/
def Activity.loaded : Activity → Nat
  | .idle => 0
  | .receiving n => n
  | .waiting n => n

/-- **A session at a moment**, and what its owner is doing. -/
structure Moment where
  /-- The session. -/
  session : Session
  /-- What its owner is doing. -/
  activity : Activity

/-- **What happens** to a session. -/
inductive Event where
  /-- The owner gives a command. -/
  | commanded (c : Command)
  /-- The owner starts a transfer, which will post this outcome. -/
  | started (o : Outcome)
  /-- A transfer ends, and its outcome arrives. -/
  | ended (o : Outcome)
  /-- The owner begins to deal with what has arrived. -/
  | beganReceiving
  /-- The owner begins to wait. -/
  | beganWaiting
  /-- The owner takes an outcome from the mailbox and deals with it. -/
  | dealtWith (o : Outcome)
  /-- The owner comes back, with a number of documents. -/
  | returned (n : Nat)
  /-- The owner waits in vain and comes back, with a number of documents. -/
  | cutShort (n : Nat)

/-- The session after an outcome is taken from the mailbox and dealt with. -/
def dealWith (s : Session) (o : Outcome) (rest : Mailbox) : Session :=
  { s with mailbox := rest }.complete o

/-- **What may happen next.** -/
inductive Step : Moment → Event → Moment → Prop where
  /-- An idle owner may give a command. -/
  | command (s : Session) (c : Command) :
      Step ⟨s, .idle⟩ (.commanded c) ⟨s.obey c, .idle⟩
  /-- An idle owner may start a transfer, and its fetch may end in any
  way. -/
  | start (s : Session) (url : String) (reply : Reply) :
      Step ⟨s, .idle⟩ (.started (reply.outcome url)) ⟨s.startTransfer url reply, .idle⟩
  /-- Any transfer that runs may end, at any moment. -/
  | finish {s : Session} {position : Nat} {o : Outcome} (activity : Activity)
      (running : s.running[position]? = some o) :
      Step ⟨s, activity⟩ (.ended o) ⟨s.endTransfer position, activity⟩
  /-- An idle owner may begin to deal with what has arrived. -/
  | beginReceiving (s : Session) : Step ⟨s, .idle⟩ .beganReceiving ⟨s, .receiving 0⟩
  /-- What has arrived is dealt with, one outcome after another. -/
  | receive {s : Session} {o : Outcome} {rest : Mailbox} (n : Nat)
      (arrived : s.mailbox.receive = .outcome o rest) :
      Step ⟨s, .receiving n⟩ (.dealtWith o)
        ⟨s.dealWith o rest, .receiving (n + o.documentCount)⟩
  /-- When there is no outcome the owner comes back. -/
  | endReceiving {s : Session} (n : Nat)
      (nothing : ∀ o rest, s.mailbox.receive ≠ .outcome o rest) :
      Step ⟨s, .receiving n⟩ (.returned n) ⟨s, .idle⟩
  /-- An idle owner may begin to wait. -/
  | beginWaiting (s : Session) : Step ⟨s, .idle⟩ .beganWaiting ⟨s, .waiting 0⟩
  /-- While something is in flight, what has arrived is dealt with. -/
  | await {s : Session} {o : Outcome} {rest : Mailbox} (n : Nat) (flying : s.inFlight ≠ 0)
      (arrived : s.mailbox.receive = .outcome o rest) :
      Step ⟨s, .waiting n⟩ (.dealtWith o)
        ⟨s.dealWith o rest, .waiting (n + o.documentCount)⟩
  /-- When nothing is in flight the owner comes back. -/
  | endWaiting {s : Session} (n : Nat) (landed : s.inFlight = 0) :
      Step ⟨s, .waiting n⟩ (.returned n) ⟨s, .idle⟩
  /-- When the mailbox is closed with something in flight, the owner gives
  up. -/
  | giveUp {s : Session} (n : Nat) (flying : s.inFlight ≠ 0)
      (closed : s.mailbox.receive = .closed) :
      Step ⟨s, .waiting n⟩ (.cutShort n) ⟨s, .idle⟩

/-- **A run** from one moment to another, and what happens in it. -/
inductive Run (m : Moment) : List Event → Moment → Prop where
  /-- Nothing happens. -/
  | refl : Run m [] m
  /-- One step more. -/
  | step {events : List Event} {m' m'' : Moment} {e : Event} :
      Run m events m' → Step m' e m'' → Run m (events ++ [e]) m''

theorem Run.single {m m' : Moment} {e : Event} (h : Step m e m') : Run m [e] m' :=
  .step .refl h

theorem Run.trans {m m' m'' : Moment} {events more : List Event} (h : Run m events m')
    (h' : Run m' more m'') : Run m (events ++ more) m'' := by
  induction h' with
  | refl => rwa [List.append_nil]
  | step _ hstep ih =>
    rw [← List.append_assoc]
    exact ih.step hstep

/-- What a row of events and one more come to. -/
theorem filterMap_concat {α : Type} (f : Event → Option α) (events : List Event) (e : Event) :
    (events ++ [e]).filterMap f = events.filterMap f ++ (f e).toList := by
  rw [List.filterMap_append]
  cases hf : f e <;> simp [hf]

/-! ## The books -/

/-- **No command starts or ends a transfer**, and none looks into the
mailbox. -/
theorem transfers_obey (s : Session) (c : Command) :
    (s.obey c).running = s.running ∧ (s.obey c).mailbox = s.mailbox
      ∧ (s.obey c).inFlight = s.inFlight := by
  cases c with
  | loadText text =>
    unfold obey loadText
    dsimp only
    cases Node.parse text <;> exact ⟨rfl, rfl, rfl⟩
  | load document => exact ⟨rfl, rfl, rfl⟩
  | applyRules => exact ⟨rfl, rfl, rfl⟩
  | subscribe => exact ⟨rfl, rfl, rfl⟩
  | unsubscribe id => exact ⟨rfl, rfl, rfl⟩
  | changeScene scene => exact ⟨rfl, rfl, rfl⟩

@[simp]
theorem running_dealWith (s : Session) (o : Outcome) (rest : Mailbox) :
    (s.dealWith o rest).running = s.running :=
  running_complete _ o

@[simp]
theorem mailbox_dealWith (s : Session) (o : Outcome) (rest : Mailbox) :
    (s.dealWith o rest).mailbox = rest :=
  mailbox_complete _ o

@[simp]
theorem inFlight_dealWith (s : Session) (o : Outcome) (rest : Mailbox) :
    (s.dealWith o rest).inFlight = s.inFlight - 1 :=
  inFlight_complete _ o

@[simp]
theorem running_obey (s : Session) (c : Command) : (s.obey c).running = s.running :=
  (s.transfers_obey c).1

@[simp]
theorem mailbox_obey (s : Session) (c : Command) : (s.obey c).mailbox = s.mailbox :=
  (s.transfers_obey c).2.1

@[simp]
theorem inFlight_obey (s : Session) (c : Command) : (s.obey c).inFlight = s.inFlight :=
  (s.transfers_obey c).2.2

/-- A transfer that runs takes its outcome from where it runs to the end of the
mailbox. -/
theorem endTransfer_eq {s : Session} {position : Nat} {o : Outcome}
    (ho : s.running[position]? = some o) :
    s.endTransfer position
      = { s with
          running := s.running.eraseIdx position
          mailbox := s.mailbox.post o } := by
  rw [endTransfer, ho]

/-- **The books are right.** -/
structure Balanced (s : Session) : Prop where
  /-- What is in flight either runs or has arrived. -/
  inFlight : s.inFlight = s.running.length + s.mailbox.queue.length
  /-- Each transfer that runs has a sending end, and the session has one. -/
  senders : s.mailbox.senders = s.running.length + 1

namespace Balanced

variable {s : Session}

theorem new (settings : Settings) : (Session.new settings).Balanced := ⟨rfl, rfl⟩

/-- While the session has its sending end, the mailbox is open. -/
theorem receive_ne_closed (h : s.Balanced) : s.mailbox.receive ≠ .closed := by
  have hsenders : s.mailbox.senders ≠ 0 := by
    rw [h.senders]
    exact Nat.succ_ne_zero _
  unfold Mailbox.receive
  split
  · simp
  · simp [hsenders]

theorem obey (h : s.Balanced) (c : Command) : (s.obey c).Balanced where
  inFlight := by
    rw [inFlight_obey, running_obey, mailbox_obey]
    exact h.inFlight
  senders := by
    rw [running_obey, mailbox_obey]
    exact h.senders

theorem startTransfer (h : s.Balanced) (url : String) (reply : Reply) :
    (s.startTransfer url reply).Balanced where
  inFlight := by
    simp only [Session.startTransfer, Mailbox.addSender, List.length_append, List.length_singleton,
      h.inFlight]
    omega
  senders := by
    simp only [Session.startTransfer, Mailbox.addSender, List.length_append, List.length_singleton,
      h.senders]

theorem endTransfer (h : s.Balanced) {position : Nat} {o : Outcome}
    (ho : s.running[position]? = some o) : (s.endTransfer position).Balanced := by
  obtain ⟨hlt, -⟩ := List.getElem?_eq_some_iff.mp ho
  have hlen := List.length_eraseIdx_of_lt hlt
  have hinFlight := h.inFlight
  have hsenders := h.senders
  rw [endTransfer_eq ho]
  constructor
  · simp only [Mailbox.post, List.length_append, List.length_singleton, hlen]
    omega
  · simp only [Mailbox.post, hlen]
    omega

theorem dealWith (h : s.Balanced) {o : Outcome} {rest : Mailbox}
    (hreceive : s.mailbox.receive = .outcome o rest) : (s.dealWith o rest).Balanced := by
  obtain ⟨hqueue, hsenders⟩ := Mailbox.receive_eq_outcome hreceive
  have hinFlight := h.inFlight
  rw [hqueue, List.length_cons] at hinFlight
  constructor
  · rw [inFlight_dealWith, running_dealWith, mailbox_dealWith]
    omega
  · rw [running_dealWith, mailbox_dealWith, hsenders, h.senders]

end Balanced

/-- **Every step keeps the books right.** -/
theorem Step.balanced {m m' : Moment} {e : Event} (h : Step m e m')
    (hm : m.session.Balanced) : m'.session.Balanced := by
  cases h with
  | command s c => exact hm.obey c
  | start s url reply => exact hm.startTransfer url reply
  | finish activity running => exact hm.endTransfer running
  | beginReceiving s => exact hm
  | receive n arrived => exact hm.dealWith arrived
  | endReceiving n nothing => exact hm
  | beginWaiting s => exact hm
  | await n flying arrived => exact hm.dealWith arrived
  | endWaiting n landed => exact hm
  | giveUp n flying closed => exact hm

/-! ## Whole calls -/

/-- Where no outcome can be taken out, there is nothing to deal with. -/
theorem receivePending_of_ne {s : Session} (h : ∀ o rest, s.mailbox.receive ≠ .outcome o rest) :
    s.receivePending = (s, 0) := by
  rw [receivePending]
  split
  · rfl
  · rfl
  · next o rest harrived => exact absurd harrived (h o rest)

/-- What has arrived first is dealt with first. -/
theorem receivePending_of_outcome {s : Session} {o : Outcome} {rest : Mailbox}
    (h : s.mailbox.receive = .outcome o rest) :
    s.receivePending = ((s.dealWith o rest).receivePending.1,
      o.documentCount + (s.dealWith o rest).receivePending.2) := by
  rw [receivePending]
  split
  · next hempty => cases h.symm.trans hempty
  · next hclosed => cases h.symm.trans hclosed
  · next o' rest' harrived =>
    cases h.symm.trans harrived
    rfl

/-- When nothing is in flight there is nothing to wait for. -/
theorem waitPending_of_landed {s : Session} (h : s.inFlight = 0) : s.waitPending = (s, 0) := by
  rw [waitPending, if_pos h]

/-- Waiting deals with what has arrived first. -/
theorem waitPending_of_outcome {s : Session} {o : Outcome} {rest : Mailbox}
    (hflying : s.inFlight ≠ 0) (h : s.mailbox.receive = .outcome o rest) :
    s.waitPending = ((s.dealWith o rest).waitPending.1,
      o.documentCount + (s.dealWith o rest).waitPending.2) := by
  rw [waitPending, if_neg hflying]
  split
  · next hclosed => cases h.symm.trans hclosed
  · next hempty => cases h.symm.trans hempty
  · next o' rest' harrived =>
    cases h.symm.trans harrived
    rfl

/-- While the mailbox is empty, waiting is for a transfer to end. -/
theorem waitPending_of_empty {s : Session} {o : Outcome} {more : List Outcome}
    (hflying : s.inFlight ≠ 0) (h : s.mailbox.receive = .empty)
    (hrunning : s.running = o :: more) : s.waitPending = (s.endTransfer 0).waitPending := by
  rw [waitPending, if_neg hflying]
  split
  · next hclosed => cases h.symm.trans hclosed
  · split
    · next hnone => cases hrunning.symm.trans hnone
    · rfl
  · next harrived => cases h.symm.trans harrived

/-- **`receivePending` is a run** that takes out what has arrived. -/
theorem run_receivePending (s : Session) (n : Nat) :
    ∃ outcomes : List Outcome,
      Run ⟨s, .receiving n⟩
        (outcomes.map .dealtWith ++ [.returned (n + s.receivePending.2)])
        ⟨s.receivePending.1, .idle⟩ := by
  induction s using receivePending.induct generalizing n with
  | case1 s hempty =>
    have hnone : ∀ o rest, s.mailbox.receive ≠ .outcome o rest := by simp [hempty]
    rw [receivePending_of_ne hnone]
    exact ⟨[], .single (.endReceiving n hnone)⟩
  | case2 s hclosed =>
    have hnone : ∀ o rest, s.mailbox.receive ≠ .outcome o rest := by simp [hclosed]
    rw [receivePending_of_ne hnone]
    exact ⟨[], .single (.endReceiving n hnone)⟩
  | case3 s o rest harrived _ _ _ ih =>
    obtain ⟨outcomes, hrun⟩ := ih (n + o.documentCount)
    rw [receivePending_of_outcome harrived, ← Nat.add_assoc]
    exact ⟨o :: outcomes, (Run.single (.receive n harrived)).trans hrun⟩

/-- **`waitPending` is a run** in which transfers end and their outcomes are
dealt with, until none is in flight. -/
theorem Balanced.run_waitPending {s : Session} (h : s.Balanced) (n : Nat) :
    ∃ events : List Event, (∀ e ∈ events, ∃ o, e = .ended o ∨ e = .dealtWith o)
      ∧ Run ⟨s, .waiting n⟩ (events ++ [.returned (n + s.waitPending.2)])
          ⟨s.waitPending.1, .idle⟩ := by
  induction s using waitPending.induct generalizing n with
  | case1 s hlanded =>
    rw [waitPending_of_landed hlanded]
    exact ⟨[], by simp, .single (.endWaiting n hlanded)⟩
  | case2 s hflying hclosed => exact absurd hclosed h.receive_ne_closed
  | case3 s hflying hempty hnone =>
    -- nothing runs and nothing has arrived, so nothing is in flight
    refine absurd ?_ hflying
    rw [h.inFlight, hnone, Mailbox.queue_of_receive_eq_empty hempty]
    rfl
  | case4 s hflying hempty o more hrunning ih =>
    have ho : s.running[0]? = some o := by rw [hrunning]; rfl
    obtain ⟨events, hevents, hrun⟩ := ih (h.endTransfer ho) n
    rw [waitPending_of_empty hflying hempty hrunning]
    exact ⟨.ended o :: events, List.forall_mem_cons.mpr ⟨⟨o, Or.inl rfl⟩, hevents⟩,
      (Run.single (.finish _ ho)).trans hrun⟩
  | case5 s hflying o rest harrived _ _ _ ih =>
    obtain ⟨events, hevents, hrun⟩ := ih (h.dealWith harrived) (n + o.documentCount)
    rw [waitPending_of_outcome hflying harrived, ← Nat.add_assoc]
    exact ⟨.dealtWith o :: events, List.forall_mem_cons.mpr ⟨⟨o, Or.inr rfl⟩, hevents⟩,
      (Run.single (.await n hflying harrived)).trans hrun⟩

end WidgetMarkup.Session
