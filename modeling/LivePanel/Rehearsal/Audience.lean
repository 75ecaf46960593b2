import LivePanel.Event.Bus
import LivePanel.Rehearsal.Account
import LivePanel.Value.Members

/-!
# Rehearsals of a bus

A bus with listeners that have tags. A listener notes what it hears and then follows a
script of its own; the same steps can be told to the bus from outside. Beside them there
are receivers, which are read whenever the rehearsal asks.
-/

namespace LivePanel.Rehearsal

/-- What the listeners noted, and the listener that each tag stands for. -/
structure Notebook where
  log : List Value := []
  tags : List (String × Nat) := []

/-- The levels of scripts inside one another. -/
def scriptLevels : Nat := 128

/-- Note something, then go on. -/
def noting (v : Value) (next : Reaction Notebook) : Reaction Notebook :=
  .change (fun h => { h with log := h.log ++ [v] }) next

/-- Let a tag stand for a listener. -/
def Notebook.setTag (h : Notebook) (tag : String) (id : Nat) : Notebook :=
  { h with tags := (tag, id) :: h.tags.filter (·.1 ≠ tag) }

/-- What one step of the listener `tag` does before `next`, which is told its result; `hear` is
what a script makes of the events that its listener hears. -/
def stepOf (hear : String → List Value → Event → Reaction Notebook) (v : Value)
    (next : Value → Reaction Notebook) : Reaction Notebook :=
  let other := v.memberText "tag"
  match v.memberText "do" with
  | "panic" => .panic
  | "subscribe" =>
    .subscribe ((v.memberText? "pattern").getD "*") (hear other (v.memberItems "then"))
      fun id => .change (·.setTag other id) (next .null)
  | "unsubscribe" =>
    .look fun h =>
      match h.tags.lookup other with
      | none => next .null
      | some id =>
        .store { h with tags := h.tags.filter (·.1 ≠ other) }
          (.unsubscribe id fun gone => next (.bool gone))
  | "clear" => .clear (next .null)
  | _ =>
    match Happening.ofMembers? (v.member "event").fields with
    | none => next (bareError "Deserialize")
    | some what => .emit ⟨what, none⟩ fun n => next (Value.ofNat n)

/-- What the steps of the listener `tag` do, each result being noted. -/
def stepsOf (hear : String → List Value → Event → Reaction Notebook) (tag : String) :
    List Value → Reaction Notebook
  | [] => .done
  | v :: rest =>
    stepOf hear v fun result =>
      noting (.arr [.str tag, .str (v.memberText "do"), result]) (stepsOf hear tag rest)

/-- What the listener `tag` makes of an event: it notes the event and follows its script, down to so
many levels. -/
def hearing : Nat → String → List Value → Event → Reaction Notebook
  | 0, _, _, _ => .done
  | levels + 1, tag, script, e =>
    noting (.arr [.str tag, .str e.what.name]) (stepsOf (hearing levels) tag script)

/-- A bus before its audience. -/
structure Audience where
  scene : Scene Notebook
  receivers : List (String × Receiver) := []

namespace Audience

/-- Put a receiver under a tag. -/
def setReceiver (a : Audience) (tag : String) (r : Receiver) : Audience :=
  { a with receivers := (tag, r) :: a.receivers.filter (·.1 ≠ tag) }

/-- Read from the receiver under a tag. -/
def read (a : Audience) (tag : String) (f : Receiver → Bus Notebook → Value × Receiver) :
    Audience × Value :=
  match a.receivers.lookup tag with
  | none => (a, .null)
  | some r =>
    let (v, r) := f r a.scene.bus
    (a.setReceiver tag r, v)

/-- The account of one event, or `empty`. -/
def oneEvent (empty : Value) (e : Option Event) : Value :=
  (e.map fun e => (eventValue {} e).1).getD empty

/-- Tell the bus a step. -/
def tell (a : Audience) (v : Value) : Audience × Value :=
  let hear := hearing scriptLevels
  let act := stepOf hear v fun result => noting result .done
  let s := Scene.run Scene.emit act { a.scene with world := { a.scene.world with log := [] } }
  ({ a with scene := { s with world := { s.world with log := s.world.log.dropLast } } },
    s.world.log.getLast?.getD .null)

/-- Take a step. -/
def take (a : Audience) (v : Value) : Audience × Value :=
  let tag := v.memberText "tag"
  match v.memberText "do" with
  | "receiver" =>
    (a.setReceiver tag (Receiver.ofBus a.scene.bus (v.memberText? "pattern")), .null)
  | "try_recv" => a.read tag fun r bus => let (e, r) := r.read bus; (oneEvent .null e, r)
  | "recv" => a.read tag fun r bus => let (e, r) := r.read bus; (oneEvent (.str "pending") e, r)
  | "drain" =>
    a.read tag fun r bus => let (es, r) := r.drain bus; (.arr (eventValues {} es).1, r)
  | _ => a.tell v

/-- Take steps one after the other, with an account of each. -/
def accounts (a : Audience) : List Value → List Value
  | [] => []
  | v :: rest =>
    let clean := { a with scene := { a.scene with world := { a.scene.world with log := [] } } }
    let (a, result) := clean.take v
    .ofPairs [("result", result), ("log", .arr a.scene.world.log),
      ("listeners", Value.ofNat a.scene.bus.listeners.length)] :: accounts a rest

end Audience

end LivePanel.Rehearsal
