import LivePanel.Value.Table

/-!
# Subscriptions to host events

Handlers registered under the names of host events. A subscription is known by
its event and a number that no other subscription has; ending it removes that one
handler, and an event without handlers is not kept.
-/

namespace LivePanel

/-- A handle on a subscription. -/
structure Subscription where
  event : String
  id : Nat
deriving DecidableEq, Inhabited

/-- The handlers of host events. -/
structure Subscriptions (H : Type u) where
  handlers : Table (List (Nat × H)) := []
  next : Nat := 0

namespace Subscriptions

variable {H : Type u}

/-- The handlers under an event with their numbers, in the order they were made. -/
def under (s : Subscriptions H) (event : String) : List (Nat × H) :=
  (s.handlers.get? event).getD []

/-- Register a handler. -/
def subscribe (s : Subscriptions H) (event : String) (handler : H) :
    Subscription × Subscriptions H :=
  (⟨event, s.next⟩,
    { handlers := s.handlers.put event (s.under event ++ [(s.next, handler)])
      next := s.next + 1 })

/-- End a subscription. Ending it again changes nothing. -/
def cancel (s : Subscriptions H) (sub : Subscription) : Subscriptions H :=
  match s.handlers.get? sub.event with
  | none => s
  | some entries =>
    let kept := entries.filter fun e => e.1 != sub.id
    { s with
      handlers :=
        if kept.isEmpty then s.handlers.erase sub.event else s.handlers.put sub.event kept }

/-- End several subscriptions. -/
def cancelAll (s : Subscriptions H) (subs : List Subscription) : Subscriptions H :=
  subs.foldl cancel s

/-- The number of live subscriptions to an event. -/
def count (s : Subscriptions H) (event : String) : Nat := (s.under event).length

/-- The handlers that an event calls, in order. -/
def called (s : Subscriptions H) (event : String) : List H := (s.under event).map (·.2)

end Subscriptions

/-- A handle that ends its subscription once: by hand, or when it is let go. -/
structure SubscriptionHandle where
  live : Option Subscription

/-- End the subscription of a handle; the handle is spent, and the number of teardowns is
counted. -/
def SubscriptionHandle.release (h : SubscriptionHandle) (s : Subscriptions H) :
    SubscriptionHandle × Subscriptions H × Nat :=
  match h.live with
  | none => (h, s, 0)
  | some sub => (⟨none⟩, s.cancel sub, 1)

end LivePanel
