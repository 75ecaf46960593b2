import LivePanel.Event.Basic
import LivePanel.Run.Drive

/-!
# What is told of a run

A run of an action of a template has a number, and its events carry it: that it has
started, and then how it has ended. A run that is let go while it waits counts as
cancelled. The steps that a cancelled run has skipped are those still queued.
-/

namespace LivePanel

/-- Where a run stands. -/
inductive RunState where
  | running
  | succeeded
  | failed
  | cancelled
deriving DecidableEq

namespace RunState

/-- The name of the state. -/
def name : RunState → String
  | running => "running"
  | succeeded => "succeeded"
  | failed => "failed"
  | cancelled => "cancelled"

/-- Whether a run in this state has ended. -/
def isTerminal (s : RunState) : Bool := s != running

end RunState

/-- The state of a run. -/
def Run.state (r : Run) : RunState :=
  match r.focus with
  | .finished (.ok ()) => .succeeded
  | .finished (.error .cancelled) => .cancelled
  | .finished (.error _) => .failed
  | _ => .running

/-- Why a run failed; nothing of a run that did not. -/
def Run.failure? (r : Run) : Option RunError :=
  match r.focus with
  | .finished (.error .cancelled) => none
  | .finished (.error e) => some e
  | _ => none

/-- A summary of a run. -/
structure RunReport where
  action : String
  state : RunState
  stepsRun : Nat
  skippedSteps : Nat
  stateChanged : Bool
  error : Option String
deriving DecidableEq

/-- The JSON form of a report. -/
def RunReport.toValue (r : RunReport) : Value :=
  .obj ([("action", .str r.action), ("state", .str r.state.name),
      ("steps_run", Value.ofNat r.stepsRun), ("skipped_steps", Value.ofNat r.skippedSteps),
      ("state_changed", .bool r.stateChanged)] ++
    Value.optionalField "error" (r.error.map .str))

/-- A run of an action of the template under a key, with its number and the revision that the
store had when it started. -/
structure Performance where
  id : Nat
  key : String
  action : String
  program : Program
  revision : Nat
  run : Run

namespace Performance

/-- Start a run of an action, which must be defined. -/
def start (id : Nat) (key action : String) (program : Program) (store : State.Store) :
    Except RunError Performance :=
  if program.actions.has action then
    .ok ⟨id, key, action, program, store.revision, Run.start action⟩
  else .error (.unknownAction action)

/-- An event of the run. -/
def event (f : Performance) (what : Happening) : Event := ⟨what, some f.id⟩

/-- The event that the run has started. -/
def opening (f : Performance) : Event := f.event (.actionStarted f.key f.action)

/-- The event that the run was cancelled. -/
def cancelledEvent (f : Performance) : Event :=
  f.event (.actionCancelled f.key f.action f.run.queued)

/-- The event of the run's end; none before it. -/
def closing? (f : Performance) : Option Event :=
  match f.run.focus with
  | .finished (.ok ()) => some (f.event (.actionCompleted f.key f.action))
  | .finished (.error .cancelled) => some f.cancelledEvent
  | .finished (.error e) => some (f.event (.actionFailed f.key f.action e.message))
  | _ => none

/-- Drive the run until it rests. -/
def drive (f : Performance) (cancelled : Bool) (d : Desk) : Performance × Desk :=
  let out := f.run.drive f.program cancelled d
  ({ f with run := out.1 }, out.2)

/-- Take the reply that the run waits for, and drive it on. -/
def reply (f : Performance) (cancelled : Bool) (d : Desk) : Performance × Desk :=
  let m := f.run.reply d
  { f with run := m.run }.drive cancelled m.desk

/-- Drive the run on after a pause. -/
def resume (f : Performance) (cancelled : Bool) (d : Desk) : Performance × Desk :=
  f.drive cancelled { d with left := Run.stint }

/-- Let the run go; it counts as cancelled where it waits or pauses. -/
def letGo (f : Performance) : Performance := { f with run := f.run.cancel }

/-- The load of the run. -/
def load (f : Performance) : Nat := f.run.load f.program

theorem load_reply_lt (f : Performance) (cancelled : Bool) (d : Desk)
    (h : f.run.isWaiting = true) : (f.reply cancelled d).1.load < f.load :=
  Nat.lt_of_le_of_lt (Run.load_drive_le ..) (Run.load_reply f.program d h)

theorem load_resume_lt (f : Performance) (cancelled : Bool) (d : Desk)
    (h : f.run.isAsking = true) : (f.resume cancelled d).1.load < f.load := by
  apply Run.load_drive_lt
  unfold Run.isAsking at h
  unfold Run.rests
  split <;> simp_all [Run.stint]

/-- The report on the run, given the store as it is now. -/
def report (f : Performance) (store : State.Store) : RunReport :=
  { action := f.action
    state := f.run.state
    stepsRun := f.run.begun
    skippedSteps := if f.run.state = .cancelled then f.run.queued else 0
    stateChanged := store.revision != f.revision
    error := f.run.failure?.map RunError.message }

end Performance

end LivePanel
