/-!
# Subscribers

Whoever wants to know when a page is ready subscribes, and gets a number. A
page that is ready notifies all subscribers, in the order in which they
subscribed. Numbers are given from one on and never twice, so a number that
has unsubscribed stays unknown for good.
-/

namespace WidgetMarkup

/-- The number of a subscriber. -/
abbrev SubscriberId := Nat

/-- **Who is to be notified**, in order. -/
structure Subscribers where
  /-- The subscribers, in the order in which they subscribed. -/
  listed : List SubscriberId := []
  /-- The number that the next one will get. -/
  next : SubscriberId := 1
deriving DecidableEq, Inhabited

namespace Subscribers

/-- Adds a subscriber, whose number is `next`. -/
def subscribe (s : Subscribers) : Subscribers :=
  ⟨s.listed ++ [s.next], s.next + 1⟩

/-- Is there such a subscriber? -/
def knows (s : Subscribers) (id : SubscriberId) : Bool :=
  s.listed.contains id

/-- Takes a subscriber off the list. Nothing happens to a number that is not
on it. -/
def unsubscribe (s : Subscribers) (id : SubscriberId) : Subscribers :=
  { s with listed := s.listed.filter (· != id) }

@[simp]
theorem listed_subscribe (s : Subscribers) : s.subscribe.listed = s.listed ++ [s.next] := rfl

@[simp]
theorem mem_listed_unsubscribe {s : Subscribers} {id other : SubscriberId} :
    other ∈ (s.unsubscribe id).listed ↔ other ∈ s.listed ∧ other ≠ id := by
  simp [unsubscribe]

end Subscribers

end WidgetMarkup
