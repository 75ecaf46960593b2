import LivePanel.Event.Basic
import LivePanel.Text.Split

/-!
# The event bus

Listeners hear events by the name of their kind. An emission is heard by the listeners
that are registered when it starts, in the order in which they subscribed; what they do is
a program that may change the bus itself, emit again, and panic, which ends that listener
only. Emissions nest up to a bound, and deeper ones are dropped. When its listeners are
done, an event is published to the receivers, which read it whenever they like; a receiver
that lags behind by more than the channel holds goes on with the oldest event still there.
-/

namespace LivePanel

/-- Whether a pattern covers a name: all names after a stem that ends in a star, else one. -/
def Event.covers (pattern name : String) : Bool :=
  match Text.dropTail? ['*'] pattern.toList with
  | some stem => (Text.dropHead? stem name.toList).isSome
  | none => pattern = name

/-- What a listener does when it hears an event, over a world `σ`. Subscribing gives the number
of the new listener, unsubscribing whether there was one, emitting how many have heard. -/
inductive Reaction (σ : Type) where
  | done
  | panic
  | look (next : σ → Reaction σ)
  | store (world : σ) (next : Reaction σ)
  | subscribe (pattern : String) (hear : Event → Reaction σ) (next : Nat → Reaction σ)
  | unsubscribe (listener : Nat) (next : Bool → Reaction σ)
  | clear (next : Reaction σ)
  | emit (event : Event) (next : Nat → Reaction σ)

instance : Inhabited (Reaction σ) := ⟨.done⟩

/-- Change the world, then go on. -/
def Reaction.change (f : σ → σ) (next : Reaction σ) : Reaction σ :=
  .look fun s => .store (f s) next

/-- A listener. -/
structure Listener (σ : Type) where
  id : Nat
  pattern : String
  hear : Event → Reaction σ

/-- A bus: its listeners in the order in which they subscribed, the number of the next one, the
emissions under way, and the events published so far. Listeners are numbered as they subscribe. -/
structure Bus (σ : Type) where
  capacity : Nat
  maxDepth : Nat
  listeners : List (Listener σ) := []
  next : Nat := 0
  active : Nat := 0
  published : List Event := []
  numbered : (listeners.map (·.id)).Pairwise (· < ·) := by exact .nil
  below : ∀ l ∈ listeners, l.id < next := by exact List.forall_mem_nil _

/-- A bus and the world that its listeners act on. -/
structure Scene (σ : Type) where
  bus : Bus σ
  world : σ

namespace Bus

variable {σ : Type}

/-- The capacity of a bus unless asked otherwise. -/
def defaultCapacity : Nat := 256

/-- The bound on nested emissions unless asked otherwise. -/
def defaultMaxDepth : Nat := 8

/-- A bus with the given limits; a limit of zero stands for the usual one. -/
def ofLimits (capacity maxDepth : Nat) : Bus σ :=
  { capacity := if capacity = 0 then defaultCapacity else capacity
    maxDepth := if maxDepth = 0 then defaultMaxDepth else maxDepth }

/-- A bus with the usual limits. -/
def empty : Bus σ := ofLimits 0 0

/-- The largest capacity that there is room for: slots of 32 octets, as many as the next power of
two, in less than 2^63 octets. -/
def largestCapacity : Nat := Nat.pow 2 57

/-- A bus with the given limits, if there is room for it. -/
def ofLimits? (capacity maxDepth : Nat) : Option (Bus σ) :=
  if capacity ≤ largestCapacity then some (ofLimits capacity maxDepth) else none

/-- Register a listener. -/
def subscribe (b : Bus σ) (pattern : String) (hear : Event → Reaction σ) : Nat × Bus σ :=
  (b.next,
    { b with
      listeners := b.listeners ++ [⟨b.next, pattern, hear⟩]
      next := b.next + 1
      numbered := by
        rw [List.map_append, List.pairwise_append]
        refine ⟨b.numbered, List.pairwise_singleton _ _, fun i hi j hj => ?_⟩
        obtain ⟨l, hl, rfl⟩ := List.mem_map.1 hi
        rw [List.mem_singleton.1 hj]
        exact b.below l hl
      below := by
        intro l hl
        rcases List.mem_append.1 hl with hl | hl
        · exact Nat.lt_succ_of_lt (b.below l hl)
        · rw [List.mem_singleton.1 hl]
          exact Nat.lt_succ_self _ })

/-- Remove a listener; whether there was one. -/
def unsubscribe (b : Bus σ) (listener : Nat) : Bool × Bus σ :=
  (b.listeners.any (·.id == listener),
    { b with
      listeners := b.listeners.filter (·.id != listener)
      numbered := b.numbered.sublist (List.filter_sublist.map _)
      below := fun l hl => b.below l (List.mem_filter.1 hl).1 })

/-- Remove all listeners. -/
def clear (b : Bus σ) : Bus σ :=
  { b with listeners := [], numbered := .nil, below := List.forall_mem_nil _ }

/-- The listeners that hear an event. -/
def hearing (b : Bus σ) (e : Event) : List (Listener σ) :=
  b.listeners.filter fun l => Event.covers l.pattern e.what.name

/-- Publish an event to the receivers. -/
def publish (b : Bus σ) (e : Event) : Bus σ := { b with published := b.published ++ [e] }

end Bus

namespace Scene

variable {σ : Type}

/-- Change the bus. -/
def mapBus (s : Scene σ) (f : Bus σ → Bus σ) : Scene σ := { s with bus := f s.bus }

/-- Run the program of a listener, with `emit` for its emissions. -/
def run (emit : Event → Scene σ → Nat × Scene σ) : Reaction σ → Scene σ → Scene σ
  | .done, s => s
  | .panic, s => s
  | .look next, s => run emit (next s.world) s
  | .store world next, s => run emit next { s with world := world }
  | .subscribe pattern hear next, s =>
    let made := s.bus.subscribe pattern hear
    run emit (next made.1) { s with bus := made.2 }
  | .unsubscribe listener next, s =>
    let gone := s.bus.unsubscribe listener
    run emit (next gone.1) { s with bus := gone.2 }
  | .clear next, s => run emit next (s.mapBus Bus.clear)
  | .emit event next, s =>
    let heard := emit event s
    run emit (next heard.1) heard.2

/-- Let listeners hear an event, one after the other. -/
def deliver (emit : Event → Scene σ → Nat × Scene σ) (e : Event) (listeners : List (Listener σ))
    (s : Scene σ) : Scene σ :=
  listeners.foldl (fun s l => run emit (l.hear e) s) s

/-- An emission with room for `room` emissions inside one another, itself included. -/
def emitWithin : Nat → Event → Scene σ → Nat × Scene σ
  | 0, _, s => (0, s)
  | room + 1, e, s =>
    let heard := s.bus.hearing e
    let s := s.mapBus fun b => { b with active := b.active + 1 }
    let s := deliver (emitWithin room) e heard s
    (heard.length, s.mapBus fun b => { b.publish e with active := b.active - 1 })

/-- Emit an event; how many have heard it. It is dropped when as many emissions are under way as
may nest. -/
def emit (e : Event) (s : Scene σ) : Nat × Scene σ :=
  emitWithin (s.bus.maxDepth - s.bus.active) e s

end Scene

/-- A receiver: the events that it wants, and how many published ones it is past. -/
structure Receiver where
  pattern : Option String
  position : Nat
deriving DecidableEq

namespace Receiver

variable {σ : Type}

/-- The least power of two that is not below `n`. -/
def roundUp (n : Nat) : Nat :=
  if n ≤ 1 then 1 else Nat.pow 2 ((n - 1).log2 + 1)

/-- A receiver of all that is published from now on. -/
def ofBus (b : Bus σ) (pattern : Option String) : Receiver := ⟨pattern, b.published.length⟩

/-- The first event that a receiver can still read. -/
def start (r : Receiver) (b : Bus σ) : Nat :=
  max r.position (b.published.length - roundUp b.capacity)

/-- Whether a receiver wants an event. -/
def wants (r : Receiver) (e : Event) : Bool :=
  (r.pattern.map fun p => Event.covers p e.what.name).getD true

/-- The next event that a receiver wants among those from `position` on. -/
def next? (r : Receiver) (position : Nat) : List Event → Option Event × Nat
  | [] => (none, position)
  | e :: rest => if r.wants e then (some e, position + 1) else r.next? (position + 1) rest

/-- Read the next event, if there is one. -/
def read (r : Receiver) (b : Bus σ) : Option Event × Receiver :=
  let start := r.start b
  let found := r.next? start (b.published.drop start)
  (found.1, { r with position := found.2 })

/-- Read all events that there are, at most `fuel` of them. -/
def readAll (b : Bus σ) : Nat → Receiver → List Event × Receiver
  | 0, r => ([], r)
  | fuel + 1, r =>
    match r.read b with
    | (none, r) => ([], r)
    | (some e, r) =>
      let others := readAll b fuel r
      (e :: others.1, others.2)

/-- Read all events that there are. -/
def drain (r : Receiver) (b : Bus σ) : List Event × Receiver :=
  readAll b (b.published.length + 1) r

end Receiver

end LivePanel
