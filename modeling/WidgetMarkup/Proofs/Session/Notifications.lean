import WidgetMarkup.Proofs.Session.Accounting
import WidgetMarkup.Proofs.Session.Replay

/-!
# Who is notified, and of what

Who is notified of a page follows from what has happened alone. Subscriptions are
numbered from one on in the order in which they happened, so no number is given
twice, and whoever has subscribed is `Listening` until its number is taken off. After
every run the list of subscribers holds those who are listening, in the order
in which they subscribed (`Run.roll`).

A document that is loaded notifies this list, once, and nothing else notifies
anyone. A load that fails leaves the session as it was: an outcome that leads
to no document is taken from the mailbox and is no longer in flight, and this
is all.
-/

namespace WidgetMarkup.Session

/-! ## What has happened to a number -/

/-- Does somebody subscribe? -/
def Event.subscribes : Event → Bool
  | .commanded .subscribe => true
  | _ => false

/-- **A subscription**, which got this number, and what has happened since. -/
def Subscribed (events : List Event) (id : SubscriberId) (since : List Event) : Prop :=
  ∃ before, events = before ++ .commanded .subscribe :: since
    ∧ id = before.countP Event.subscribes + 1

/-- **Who is to be notified**: whoever has subscribed and was not taken off the
list since. -/
def Listening (events : List Event) (id : SubscriberId) : Prop :=
  ∃ since, Subscribed events id since ∧ .commanded (.unsubscribe id) ∉ since

variable {events : List Event} {id : SubscriberId} {e : Event}

theorem not_subscribed_nil {since : List Event} : ¬ Subscribed [] id since := by
  rintro ⟨before, hevents, -⟩
  simp at hevents

/-- The number of a subscription is at most how many there are. -/
theorem Subscribed.le_countP {since : List Event} (h : Subscribed events id since) :
    id ≤ events.countP Event.subscribes := by
  obtain ⟨before, rfl, rfl⟩ := h
  rw [List.countP_append, List.countP_cons_of_pos rfl]
  exact Nat.add_le_add_left (Nat.succ_pos _) _

/-- With one event more, a subscription is this event, or has happened before
it. -/
theorem subscribed_concat {since : List Event} :
    Subscribed (events ++ [e]) id since
      ↔ (e = .commanded .subscribe ∧ id = events.countP Event.subscribes + 1 ∧ since = [])
        ∨ ∃ earlier, since = earlier ++ [e] ∧ Subscribed events id earlier := by
  constructor
  · rintro ⟨before, hevents, rfl⟩
    rcases List.eq_nil_or_concat since with rfl | ⟨earlier, last, rfl⟩
    · obtain ⟨rfl, he⟩ := List.append_inj' hevents rfl
      exact Or.inl ⟨List.singleton_inj.mp he, rfl, rfl⟩
    · rw [List.concat_eq_append, ← List.cons_append, ← List.append_assoc] at hevents
      obtain ⟨rfl, he⟩ := List.append_inj' hevents rfl
      obtain rfl := List.singleton_inj.mp he
      exact Or.inr ⟨earlier, List.concat_eq_append, before, rfl, rfl⟩
  · rintro (⟨rfl, rfl, rfl⟩ | ⟨earlier, rfl, before, rfl, rfl⟩)
    · exact ⟨events, rfl, rfl⟩
    · exact ⟨before, by simp, rfl⟩

/-- With one event more, those are listening who were and are not taken off,
and whoever subscribes. -/
theorem listening_concat :
    Listening (events ++ [e]) id
      ↔ (Listening events id ∧ e ≠ .commanded (.unsubscribe id))
        ∨ (e = .commanded .subscribe ∧ id = events.countP Event.subscribes + 1) := by
  unfold Listening
  constructor
  · rintro ⟨since, hsubscribed, hsince⟩
    rcases subscribed_concat.mp hsubscribed with ⟨he, hid, -⟩ | ⟨earlier, rfl, hearlier⟩
    · exact Or.inr ⟨he, hid⟩
    · rw [List.mem_append, List.mem_singleton, not_or] at hsince
      exact Or.inl ⟨⟨earlier, hearlier, hsince.1⟩, Ne.symm hsince.2⟩
  · rintro (⟨⟨earlier, hearlier, hsince⟩, he⟩ | ⟨he, hid⟩)
    · refine ⟨earlier ++ [e], subscribed_concat.mpr (Or.inr ⟨earlier, rfl, hearlier⟩), ?_⟩
      rw [List.mem_append, List.mem_singleton, not_or]
      exact ⟨hsince, Ne.symm he⟩
    · exact ⟨[], subscribed_concat.mpr (Or.inl ⟨he, hid, rfl⟩), List.not_mem_nil⟩

/-! ## The list of subscribers -/

/-- **The list of subscribers is right.** -/
structure Roll (events : List Event) (s : Subscribers) : Prop where
  /-- The next number is one more than how many subscriptions there were. -/
  next : s.next = events.countP Event.subscribes + 1
  /-- Numbers stand in the order in which they were given, each at most once. -/
  sorted : s.listed.Pairwise (· < ·)
  /-- Those are listed who are listening. -/
  mem_iff : ∀ id, id ∈ s.listed ↔ Listening events id

namespace Roll

variable {s : Subscribers}

theorem nil : Roll [] {} where
  next := rfl
  sorted := .nil
  mem_iff id := by
    refine iff_of_false List.not_mem_nil ?_
    rintro ⟨since, hsubscribed, -⟩
    exact not_subscribed_nil hsubscribed

/-- Whoever is listening has a number that was given. -/
theorem lt_next (h : Roll events s) {since : List Event} (hid : Subscribed events id since) :
    id < s.next := by
  rw [h.next]
  exact Nat.lt_succ_of_le hid.le_countP

/-- The new number is behind all others. -/
theorem subscribe (h : Roll events s) :
    Roll (events ++ [.commanded .subscribe]) s.subscribe where
  next := by
    rw [List.countP_append, Nat.add_right_comm, ← h.next]
    rfl
  sorted := by
    rw [Subscribers.listed_subscribe, List.pairwise_append]
    refine ⟨h.sorted, List.pairwise_singleton _ _, fun id hid other hother => ?_⟩
    obtain ⟨since, hsubscribed, -⟩ := (h.mem_iff id).mp hid
    rw [List.mem_singleton.mp hother]
    exact h.lt_next hsubscribed
  mem_iff id := by
    rw [Subscribers.listed_subscribe, List.mem_append, List.mem_singleton, listening_concat,
      h.mem_iff, h.next]
    simp

/-- A number that is taken off is gone, and the others stay. -/
theorem unsubscribe (h : Roll events s) (gone : SubscriberId) :
    Roll (events ++ [.commanded (.unsubscribe gone)]) (s.unsubscribe gone) where
  next := by
    rw [List.countP_append]
    exact h.next
  sorted := h.sorted.filter _
  mem_iff id := by
    rw [Subscribers.mem_listed_unsubscribe, listening_concat, h.mem_iff]
    simp [eq_comm]

/-- Other events do not touch the list. -/
theorem concat (h : Roll events s) (hsub : e ≠ .commanded .subscribe)
    (hunsub : ∀ id, e ≠ .commanded (.unsubscribe id)) : Roll (events ++ [e]) s where
  next := by
    have he : e.subscribes = false := by
      unfold Event.subscribes
      split
      · exact absurd rfl hsub
      · rfl
    rw [List.countP_append, List.countP_singleton, he]
    exact h.next
  sorted := h.sorted
  mem_iff id := by
    rw [listening_concat, h.mem_iff]
    simp [hsub, hunsub]

/-- **Taking a number off changes the list** if and only if it is listening. -/
theorem length_unsubscribe_ne_iff (h : Roll events s) (id : SubscriberId) :
    (s.unsubscribe id).listed.length ≠ s.listed.length ↔ Listening events id := by
  rw [← h.mem_iff, Subscribers.unsubscribe, Ne, List.length_filter_eq_length_iff]
  simp

theorem knows_iff (h : Roll events s) (id : SubscriberId) :
    s.knows id = true ↔ Listening events id := by
  rw [← h.mem_iff, Subscribers.knows, List.contains_iff_mem]

end Roll

/-! ## Steps and runs -/

variable {m m' : Moment}

/-- **A step notifies** whoever is listed if it loads a document, and nobody
else. -/
theorem Step.notified (h : Step m e m') :
    m'.session.notified
      = m.session.notified ++ if e.document?.isSome then m.session.subscribers.listed else [] := by
  rw [h.eq_react Session.notified (fun _ => rfl)]
  cases hdocument : e.document? with
  | some document =>
    rw [react_of_document? hdocument]
    rfl
  | none =>
    refine Eq.trans ?_ (List.append_nil _).symm
    rcases react_of_document?_eq_none hdocument m.session with
      h | rfl | rfl | ⟨id, rfl⟩ | ⟨scene, rfl⟩
    · rw [h]
    all_goals rfl

/-- Only two commands change the list of subscribers. -/
theorem Step.subscribers (h : Step m e m') (hsub : e ≠ .commanded .subscribe)
    (hunsub : ∀ id, e ≠ .commanded (.unsubscribe id)) :
    m'.session.subscribers = m.session.subscribers := by
  rw [h.eq_react Session.subscribers (fun _ => rfl)]
  cases hdocument : e.document? with
  | some document =>
    rw [react_of_document? hdocument]
    rfl
  | none =>
    rcases react_of_document?_eq_none hdocument m.session with
      h | rfl | rfl | ⟨id, rfl⟩ | ⟨scene, rfl⟩
    · rw [h]
    · rfl
    · exact absurd rfl hsub
    · exact absurd rfl (hunsub id)
    · rfl

/-- **Every step keeps the list right.** -/
theorem Step.roll (h : Step m e m') (hroll : Roll events m.session.subscribers) :
    Roll (events ++ [e]) m'.session.subscribers := by
  by_cases hsub : e = .commanded .subscribe
  · subst hsub
    cases h
    exact hroll.subscribe
  by_cases hunsub : ∃ id, e = .commanded (.unsubscribe id)
  · obtain ⟨id, rfl⟩ := hunsub
    cases h
    exact hroll.unsubscribe id
  · rw [h.subscribers hsub (not_exists.mp hunsub)]
    exact hroll.concat hsub (not_exists.mp hunsub)

/-- **The list is right after every run** of a new session. -/
theorem Run.roll {settings : Settings} (h : Run ⟨.new settings, .idle⟩ events m) :
    Roll events m.session.subscribers := by
  induction h with
  | refl => exact .nil
  | step _ hstep ih => exact hstep.roll ih

/-! ## Loads that fail -/

/-- A text that is no document leaves the session as it was. -/
theorem loadText_of_error {text : String} {error : LoadError} (h : Node.parse text = .error error)
    (s : Session) : s.loadText text = (s, some error) := by
  rw [loadText, h]

/-- **An outcome that leads to no document** is taken from the mailbox, and is
no longer in flight. -/
theorem Step.dealtWith_of_error {o : Outcome} {error : LoadError} (h : Step m (.dealtWith o) m')
    (ho : o.document = .error error) :
    ∃ rest, m.session.mailbox.receive = .outcome o rest
      ∧ m'.session = { m.session with mailbox := rest, inFlight := m.session.inFlight - 1 } := by
  have hcomplete : ∀ s : Session, s.complete o = { s with inFlight := s.inFlight - 1 } := by
    intro s
    rw [complete, ho]
  cases h with
  | @receive s _ rest n arrived => exact ⟨rest, arrived, hcomplete _⟩
  | @await s _ rest n flying arrived => exact ⟨rest, arrived, hcomplete _⟩

/-- **Who is notified, in every run of a new session.**

* The number of a new subscriber is one more than how many subscribed before, and
  so is none that was given before.
* Whoever has subscribed and was not taken off since is known, and taking off
  changes the list for these numbers and no others.
* A document that is loaded notifies each of them once, in the order in which
  they subscribed, and nothing else notifies anyone.
* A text that is no document leaves the session as it was, and so does an
  outcome that leads to none, but that it is taken from the mailbox and that
  there is one transfer less in flight. -/
theorem notifications_of_run {settings : Settings} (h : Run ⟨.new settings, .idle⟩ events m) :
    m.session.subscribers.next = events.countP Event.subscribes + 1
      ∧ (∀ id since, Subscribed events id since → id < m.session.subscribers.next)
      ∧ (∀ id, m.session.subscribers.knows id = true ↔ Listening events id)
      ∧ (∀ id, (m.session.subscribers.unsubscribe id).listed.length
          ≠ m.session.subscribers.listed.length ↔ Listening events id)
      ∧ (∀ e m', Step m e m' → ∃ fired : List SubscriberId,
          m'.session.notified = m.session.notified ++ fired ∧ fired.Pairwise (· < ·)
            ∧ ∀ id, id ∈ fired ↔ e.document?.isSome = true ∧ Listening events id)
      ∧ (∀ text error, Node.parse text = .error error →
          m.session.loadText text = (m.session, some error))
      ∧ ∀ o error m', o.document = .error error → Step m (.dealtWith o) m' →
          (∃ rest, m.session.mailbox.receive = .outcome o rest
            ∧ m'.session = { m.session with mailbox := rest, inFlight := m.session.inFlight - 1 })
          ∧ m.session.inFlight = m'.session.inFlight + 1 := by
  have hroll := h.roll
  refine ⟨hroll.next, fun id since => hroll.lt_next, hroll.knows_iff,
    hroll.length_unsubscribe_ne_iff, fun e m' hstep => ⟨_, hstep.notified, ?_, fun id => ?_⟩,
    fun text error herror => loadText_of_error herror _, fun o error m' herror hstep =>
      ⟨hstep.dealtWith_of_error herror, (Accounts.run h).inFlight_of_dealtWith hstep⟩⟩
  · split
    · exact hroll.sorted
    · exact .nil
  · split <;> simp [*, hroll.mem_iff]

/-- Two subscribe, and one of them leaves after a page; a fetch has broken
down, which is still to be dealt with. -/
def oneLeaves : List Event :=
  [.commanded .subscribe, .commanded .subscribe, .commanded (.load (.element "page" [] [])),
    .commanded (.unsubscribe 1), .started (Reply.crashed.outcome "a"),
    .ended (Reply.crashed.outcome "a"), .beganReceiving]

/-- The page has notified both, the next number is new, and what is still to be
dealt with notifies nobody. -/
theorem notifications_of_run_oneLeaves :
    ∃ m m', Run ⟨.new {}, .idle⟩ oneLeaves m ∧ Step m (.dealtWith (Reply.crashed.outcome "a")) m'
      ∧ m.session.subscribers.next = 3 ∧ m.session.notified = [1, 2]
      ∧ m'.session.notified = m.session.notified
      ∧ m.session.inFlight = m'.session.inFlight + 1 := by
  have hloaded := ((Run.single (.command (Session.new {}) .subscribe)).step
    (.command _ .subscribe)).step (.command _ (.load (.element "page" [] [])))
  have hstarted := (hloaded.step (.command _ (.unsubscribe 1))).step (.start _ "a" .crashed)
  have hended := (hstarted.step (@Step.finish _ 0 _ _ rfl)).step (.beginReceiving _)
  obtain ⟨m, m', hrun, hstep, hbefore⟩ : ∃ m m', Run ⟨.new {}, .idle⟩ oneLeaves m
      ∧ Step m (.dealtWith (Reply.crashed.outcome "a")) m' ∧ m.session.notified = [1, 2] :=
    ⟨_, _, hended, .receive 0 rfl, by decide +kernel⟩
  obtain ⟨hnext, -, -, -, hnotified, -, hfails⟩ := notifications_of_run hrun
  obtain ⟨fired, hfired, -, hmem⟩ := hnotified _ _ hstep
  obtain rfl : fired = [] := List.eq_nil_iff_forall_not_mem.mpr fun id hid =>
    absurd ((hmem id).mp hid).1 (by decide)
  exact ⟨m, m', hrun, hstep, hnext, hbefore, hfired.trans (List.append_nil _),
    (hfails _ _ _ rfl hstep).2⟩

end WidgetMarkup.Session
