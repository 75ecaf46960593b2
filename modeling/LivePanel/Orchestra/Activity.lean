import LivePanel.Value.Basic

/-!
# The activity log

What an orchestra did last, newest first, and no more of it than there is room for.
-/

namespace LivePanel.Orchestra

/-- What was done. -/
inductive ActivityKind where
  | cacheHit
  | built
  | buildFailed
  | sourceError
  | invalidated
  | evicted
  | cacheCleared
  | superseded
  | action
  | watcher
deriving DecidableEq

/-- The name of a kind of activity. -/
def ActivityKind.name : ActivityKind → String
  | cacheHit => "cache_hit"
  | built => "built"
  | buildFailed => "build_failed"
  | sourceError => "source_error"
  | invalidated => "invalidated"
  | evicted => "evicted"
  | cacheCleared => "cache_cleared"
  | superseded => "superseded"
  | action => "action"
  | watcher => "watcher"

/-- A line of the log. -/
structure Activity where
  kind : ActivityKind
  key : Option String
  detail : String
deriving DecidableEq

/-- The JSON form of a line. -/
def Activity.toValue (a : Activity) : Value :=
  .obj ([("kind", .str a.kind.name)] ++ (a.key.map fun k => ("key", Value.str k)).toList ++
    [("detail", .str a.detail)])

/-- The log. -/
structure ActivityLog where
  capacity : Nat
  entries : List Activity := []

namespace ActivityLog

/-- A log with room for so many lines, at least one. -/
def ofCapacity (n : Nat) : ActivityLog := { capacity := max n 1 }

/-- The first capacity that there is no room for: lines of 64 octets do not fit into less than
2^63 octets. -/
def tooMany : Nat := Nat.pow 2 57

/-- A log with room for so many lines, if there is that much room. -/
def ofCapacity? (n : Nat) : Option ActivityLog := if n < tooMany then some (ofCapacity n) else none

/-- The room of a log unless asked otherwise. -/
def defaultCapacity : Nat := 50

/-- Add a line; the oldest ones beyond the room are dropped. -/
def record (l : ActivityLog) (a : Activity) : ActivityLog :=
  { l with entries := (a :: l.entries).take l.capacity }

end ActivityLog

end LivePanel.Orchestra
