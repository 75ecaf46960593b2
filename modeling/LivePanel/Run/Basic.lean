import LivePanel.Panel.Bridge
import LivePanel.State.Store
import LivePanel.Template.Basic

/-!
# Runs of actions

A run carries out an action of a template against a store and a bridge. It keeps a stack
of frames, the lists of steps that it has entered and not finished, and a focus, what it
is about to do. Two counts go along: the steps that are queued in its frames, and the
writes, messages and requests begun.

A run does not go on without end where it never has to wait. Answers for which a clock is
looked at are counted, and after so many of them the run pauses before its next request,
so that others can take their turn.
-/

namespace LivePanel

/-- How many actions may call one another, the first included. -/
def Run.maxDepth : Nat := 16

/-- How many answers for which a clock is looked at are taken without a pause. -/
def Run.stint : Nat := 128

/-- Why a run stopped early. -/
inductive RunError where
  | unknownAction (name : String)
  | state (e : State.WriteError)
  | bridge (e : BridgeError)
  | tooDeep (action : String)
  | cancelled
deriving DecidableEq

/-- The wording of the error. -/
def RunError.message : RunError → String
  | unknownAction name => "unknown action '" ++ name ++ "'"
  | state e => "state update failed: " ++ e.message
  | bridge e => "bridge error: " ++ e.message
  | tooDeep action =>
    "action '" ++ action ++ "' exceeds the nesting limit of " ++ toString Run.maxDepth
  | cancelled => "action cancelled"

/-- What a run works on, and how many answers for which a clock is looked at are left to it before
it pauses. -/
structure Desk where
  store : State.Store
  bridge : Bridge
  left : Nat := Run.stint

/-- What a run does to its surroundings. -/
inductive Effect where
  | write (path : String) (value : Value)
  | send (message : String) (payload : Value)
  | ask (prompt : String) (context : Value)

/-- Carry out an effect. -/
def Effect.apply (d : Desk) : Effect → Except RunError Unit × Desk
  | write path value =>
    match d.store.set path value with
    | .ok store => (.ok (), { d with store := store })
    | .error e => (.error (.state e), d)
  | send message payload =>
    match d.bridge.send message payload with
    | (.ok (), bridge) => (.ok (), { d with bridge := bridge })
    | (.error e, bridge) => (.error (.bridge e), { d with bridge := bridge })
  | ask prompt context => (.ok (), { d with bridge := d.bridge.prompt prompt context })

/-- The actions that a run may call, and the state that shows where the store has none. -/
structure Program where
  actions : Table Action
  defaults : Value

/-- The actions and the initial state of a template. -/
def Template.program (t : Template) : Program := ⟨t.actions, t.state⟩

/-- Steps still to be taken, with the response that they see and the number of calls around
them. -/
structure Frame where
  steps : List Action
  response : Option Value
  depth : Nat

/-- What a run is about to do: to take its next step, to perform one, to make a request, or to wait
for the reply to one; or it has finished. -/
inductive Focus where
  | next
  | perform (action : Action) (response : Option Value) (depth : Nat)
  | asking (prompt : String) (context : Value) (storeAs : Option String)
    (onSuccess : List Action) (depth : Nat)
  | waiting (storeAs : Option String)
  | finished (outcome : Except RunError Unit)

/-- A run. -/
structure Run where
  focus : Focus
  frames : List Frame
  queued : Nat
  begun : Nat := 0

namespace Run

/-- The run of an action, before its first step. -/
def start (name : String) : Run :=
  { focus := .next, frames := [⟨[.call name], none, 0⟩], queued := 1 }

/-- How the run ended. -/
def outcome? (r : Run) : Option (Except RunError Unit) :=
  match r.focus with
  | .finished o => some o
  | _ => none

/-- Whether the run waits for a reply. -/
def isWaiting (r : Run) : Bool :=
  match r.focus with
  | .waiting _ => true
  | _ => false

/-- Whether the run is about to make a request. -/
def isAsking (r : Run) : Bool :=
  match r.focus with
  | .asking .. => true
  | _ => false

/-- End the run. -/
def finish (r : Run) (outcome : Except RunError Unit) : Run := { r with focus := .finished outcome }

/-- Enter a list of steps. -/
def enter (r : Run) (steps : List Action) (response : Option Value) (depth : Nat) : Run :=
  { r with frames := ⟨steps, response, depth⟩ :: r.frames, queued := r.queued + steps.length }

/-- Go on to the next step. -/
def goOn (r : Run) : Run := { r with focus := .next }

/-- Give up a request, whether it is still to be made or has been made. -/
def cancel (r : Run) : Run :=
  if r.isWaiting || r.isAsking then r.finish (.error .cancelled) else r

end Run

end LivePanel
