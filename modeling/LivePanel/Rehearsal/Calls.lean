import LivePanel.Panel.Bridge
import LivePanel.Panel.Subscriptions
import LivePanel.Rehearsal.Account
import LivePanel.Rehearsal.Script

/-!
# Rehearsals of a bridge

Calls of a bridge one after the other: messages, requests and files go over the bridge,
subscriptions are numbered in the order in which they are made and can be let go, and
events are fired at those that are left.
-/

namespace LivePanel.Rehearsal

/-- A bridge in use; where the host is absent, nobody hears what is fired. -/
structure Calls where
  used : Bridge
  listeners : Subscriptions Nat := {}
  made : Nat := 0
  handles : List (Nat × SubscriptionHandle) := []

namespace Calls

/-- Whether the bridge has no host. -/
def isDetached (c : Calls) : Bool :=
  match c.used with
  | .detached _ => true
  | .attached _ => false

/-- Let a subscription go; whether it was still there. -/
def release (c : Calls) (n : Nat) : Calls × Bool :=
  match c.handles.lookup n with
  | none => (c, false)
  | some h =>
    ({ c with listeners := (h.release c.listeners).2.1, handles := c.handles.filter (·.1 ≠ n) },
      true)

/-- Subscribe to an event. -/
def subscribe (c : Calls) (event : String) : Nat × Calls :=
  let n := c.made
  let (h, listeners) :=
    if c.isDetached then (⟨none⟩, c.listeners)
    else
      let (sub, listeners) := c.listeners.subscribe event n
      (⟨some sub⟩, listeners)
  (n, { c with listeners := listeners, made := n + 1, handles := (n, h) :: c.handles })

/-- How often a subscription is ended by letting it go twice. -/
def timesEnded : Nat :=
  let (sub, fresh) := (Subscriptions.mk (H := Nat) [] 0).subscribe "" 0
  let (h, fresh, first) := SubscriptionHandle.release ⟨some sub⟩ fresh
  let (_, _, second) := h.release fresh
  first + second

/-- A result, or the account of an error. -/
def resultValue (r : Except BridgeError Value) : Value :=
  match r with
  | .ok v => .ofPairs [("ok", v)]
  | .error e => bridgeErrorValue e

/-- The call that a value describes: the account of its result, and the subscriptions that heard of
it with what they heard. -/
def take (c : Calls) (v : Value) : Calls × Value × List (Nat × Value) :=
  match v.memberText "do" with
  | "send" =>
    let (r, used) := c.used.send (v.memberText "type") (v.member "data")
    ({ c with used := used }, resultValue (r.map fun _ => .null), [])
  | "ask" =>
    let (r, used) := (c.used.prompt (v.memberText "prompt") (v.member "data")).reply
    ({ c with used := used }, resultValue r, [])
  | "open" =>
    let line := (v.memberNat? "line").filter (· < Nat.pow 2 32)
    let (r, used) := c.used.openFile (v.memberText "path") line
    ({ c with used := used }, resultValue (r.map fun _ => .null), [])
  | "panel" => (c, c.used.panel.toValue, [])
  | "subscribe" =>
    let (n, c) := c.subscribe (v.memberText "event")
    (c, Value.ofNat n, [])
  | "fire" =>
    let called := c.listeners.called (v.memberText "event")
    (c, Value.ofNat called.length, called.map fun n => (n, v.member "data"))
  | "count" => (c, Value.ofNat (c.listeners.count (v.memberText "event")), [])
  | "cancel_once" => (c, Value.ofNat timesEnded, [])
  | _ =>
    let (c, done) := c.release ((v.memberNat? "sub").getD 0)
    (c, .bool done, [])

/-- Make calls one after the other, with an account of each. -/
def accounts (c : Calls) : List Value → Calls × List Value
  | [] => (c, [])
  | v :: rest =>
    let (c, result, delivered) := c.take v
    let (last, others) := accounts c rest
    (last, .ofPairs [("result", result), ("delivered", .arr (delivered.map fun d =>
      .arr [Value.ofNat d.1, d.2]))] :: others)

/-- The account of what went over the bridge. -/
def summary (c : Calls) : List (String × Value) :=
  [("sent", pairsValue c.used.sent), ("types", Value.ofStrings (c.used.sent.map (·.1))),
    ("prompts", pairsValue c.used.prompts),
    ("opened", .arr (c.used.opened.map fun o =>
      .arr [.str o.1, (o.2.map Value.ofNat).getD .null]))]

end Calls

end LivePanel.Rehearsal
