import LivePanel.Template.Json
import LivePanel.Value.Decode

/-!
# Events

What happens to templates, their files, the cache, the state and actions. Every kind
of event has a name, by which listeners choose what they hear; the events of one run of
an action carry the number of the run.
-/

namespace LivePanel

/-- What happened. -/
inductive Happening where
  | templateLoaded (key : String) (name : Option String)
  | templateBuilt (key : String) (used : List String) (warnings : Nat)
  | templateError (key : String) (errors : List String)
  | fileAdded (path : String)
  | fileChanged (path : String)
  | fileRemoved (path : String)
  | cacheCleared (entries : Nat)
  | stateChanged (key : String) (revision : Nat)
  | actionStarted (key action : String)
  | actionCompleted (key action : String)
  | actionFailed (key action error : String)
  | actionCancelled (key action : String) (skipped : Nat)
deriving DecidableEq, Inhabited

/-- An event, with the number of the run that it belongs to. -/
structure Event where
  what : Happening
  run : Option Nat := none
deriving DecidableEq, Inhabited

namespace Happening

/-- The name by which listeners know the kind of an event. -/
def name : Happening → String
  | templateLoaded .. => "template:loaded"
  | templateBuilt .. => "template:built"
  | templateError .. => "template:error"
  | fileAdded .. => "file:added"
  | fileChanged .. => "file:changed"
  | fileRemoved .. => "file:removed"
  | cacheCleared .. => "cache:cleared"
  | stateChanged .. => "state:changed"
  | actionStarted .. => "action:started"
  | actionCompleted .. => "action:completed"
  | actionFailed .. => "action:failed"
  | actionCancelled .. => "action:cancelled"

/-- The key of the template that an event concerns. -/
def key? : Happening → Option String
  | templateLoaded k _ => some k
  | templateBuilt k _ _ => some k
  | templateError k _ => some k
  | fileAdded _ => none
  | fileChanged _ => none
  | fileRemoved _ => none
  | cacheCleared _ => none
  | stateChanged k _ => some k
  | actionStarted k _ => some k
  | actionCompleted k _ => some k
  | actionFailed k _ _ => some k
  | actionCancelled k _ _ => some k

/-- The tag of the JSON form of an event. -/
def tag : Happening → String
  | templateLoaded .. => "template_loaded"
  | templateBuilt .. => "template_built"
  | templateError .. => "template_error"
  | fileAdded .. => "file_added"
  | fileChanged .. => "file_changed"
  | fileRemoved .. => "file_removed"
  | cacheCleared .. => "cache_cleared"
  | stateChanged .. => "state_changed"
  | actionStarted .. => "action_started"
  | actionCompleted .. => "action_completed"
  | actionFailed .. => "action_failed"
  | actionCancelled .. => "action_cancelled"

/-- The members of the JSON form of an event beside its tag. -/
def toFields : Happening → List (String × Value)
  | templateLoaded k name => [("key", .str k), ("name", Value.ofOption name)]
  | templateBuilt k used warnings =>
    [("key", .str k), ("blocks_used", Value.ofStrings used), ("warnings", Value.ofNat warnings)]
  | templateError k errors => [("key", .str k), ("errors", Value.ofStrings errors)]
  | fileAdded path => [("path", .str path)]
  | fileChanged path => [("path", .str path)]
  | fileRemoved path => [("path", .str path)]
  | cacheCleared entries => [("entries", Value.ofNat entries)]
  | stateChanged k revision => [("key", .str k), ("revision", Value.ofNat revision)]
  | actionStarted k a => [("key", .str k), ("action", .str a)]
  | actionCompleted k a => [("key", .str k), ("action", .str a)]
  | actionFailed k a e => [("key", .str k), ("action", .str a), ("error", .str e)]
  | actionCancelled k a skipped =>
    [("key", .str k), ("action", .str a), ("skipped_steps", Value.ofNat skipped)]

/-- The names of the members of an event beside its tag, in order. -/
def fieldNames? : String → Option (List String)
  | "template_loaded" => some ["key", "name"]
  | "template_built" => some ["key", "blocks_used", "warnings"]
  | "template_error" => some ["key", "errors"]
  | "file_added" => some ["path"]
  | "file_changed" => some ["path"]
  | "file_removed" => some ["path"]
  | "cache_cleared" => some ["entries"]
  | "state_changed" => some ["key", "revision"]
  | "action_started" => some ["key", "action"]
  | "action_completed" => some ["key", "action"]
  | "action_failed" => some ["key", "action", "error"]
  | "action_cancelled" => some ["key", "action", "skipped_steps"]
  | _ => none

/-- The event of a tag and the members beside it. -/
def ofRecord? (tag : String) (r : Record) : Option Happening := do
  let key := r.required "key" Value.asStr?
  let action := r.required "action" Value.asStr?
  let path := r.required "path" Value.asStr?
  match tag with
  | "template_loaded" => return templateLoaded (← key) (← r.optional "name" Value.asStr?)
  | "template_built" =>
    return templateBuilt (← key) (← r.required "blocks_used" (Value.listOf? Value.asStr?))
      (← r.required "warnings" Value.asNat?)
  | "template_error" =>
    return templateError (← key) (← r.required "errors" (Value.listOf? Value.asStr?))
  | "file_added" => return fileAdded (← path)
  | "file_changed" => return fileChanged (← path)
  | "file_removed" => return fileRemoved (← path)
  | "cache_cleared" => return cacheCleared (← r.required "entries" Value.asNat?)
  | "state_changed" => return stateChanged (← key) (← r.required "revision" Value.asNat?)
  | "action_started" => return actionStarted (← key) (← action)
  | "action_completed" => return actionCompleted (← key) (← action)
  | "action_failed" => return actionFailed (← key) (← action) (← r.required "error" Value.asStr?)
  | "action_cancelled" =>
    return actionCancelled (← key) (← action) (← r.required "skipped_steps" Value.asNat?)
  | _ => none

/-- The event of an object's members. -/
def ofMembers? (members : Table Value) : Option Happening :=
  ((members.get? "type").bind Value.asStr?).bind fun tag => ofRecord? tag ⟨members, false⟩

end Happening

end LivePanel
