import LivePanel.Run.Report

/-!
# Trials of actions

A trial runs actions one after the other on one store and bridge, by a clock that stands
still while a run goes on and jumps to what comes next while it waits: the reply, the end
of the time that a run is given, or the moment at which the trial is cancelled, in this
order where they come together. A run that pauses goes on last.
-/

namespace LivePanel.Rehearsal

/-- A trial: what its runs work on, the time, when it will be cancelled if it is not yet, and the
number of the next run. -/
structure Trial where
  desk : Desk
  now : Nat := 0
  cancelled : Bool := false
  cancelAt : Option Nat := none
  nextRun : Nat := 0

/-- How a run of a trial came out. -/
inductive Verdict where
  | refused (e : RunError)
  | abandoned
  | reported (r : RunReport)

/-- What happens first while a run waits. -/
inductive Turn where
  | reply (now : Nat)
  | timeUp (now : Nat)
  | cancel (now : Nat)

/-- When it happens. -/
def Turn.time : Turn → Nat
  | reply now => now
  | timeUp now => now
  | cancel now => now

namespace Trial

/-- What happens first while a run waits for a reply that comes at `reply`. -/
def turn (t : Trial) (limit : Option Nat) (reply : Nat) : Turn :=
  let turn : Turn :=
    match limit.filter (· < reply) with
    | some l => .timeUp l
    | none => .reply reply
  match (if t.cancelled then none else t.cancelAt).filter (· < turn.time) with
  | some c => .cancel (max t.now c)
  | none => turn

/-- The desk after a clock has rung. -/
def awoken (t : Trial) : Desk := { t.desk with left := Run.stint - 1 }

/-- See a run through that rests. -/
def await (limit : Option Nat) (f : Performance) (t : Trial) : Bool × Performance × Trial :=
  if f.run.isWaiting = true then
    match t.turn limit (t.now + t.desk.bridge.replyDelay.getD 0) with
    | .reply now =>
      let out := f.reply t.cancelled t.awoken
      await limit out.1 { t with desk := out.2, now := now }
    | .timeUp now => (false, f.letGo, { t with now := now })
    | .cancel now => (true, f.letGo, { t with now := now, cancelled := true })
  else if f.run.isAsking = true then
    match t.turn limit (t.now + 1) with
    | .reply _ =>
      let out := f.resume t.cancelled t.desk
      await limit out.1 { t with desk := out.2 }
    | .timeUp now => (false, f.letGo, { t with now := now })
    | .cancel now => (true, f.letGo, { t with now := now, cancelled := true })
  else (true, f, t)
termination_by f.load
decreasing_by
  · exact f.load_reply_lt _ _ ‹_›
  · exact f.load_resume_lt _ _ ‹_›

/-- Run an action, for no longer than it is given. -/
def run (key : String) (program : Program) (allowed : Option Nat) (action : String) (t : Trial) :
    Verdict × List Event × Trial :=
  match Performance.start t.nextRun key action program t.desk.store with
  | .error e => (.refused e, [], t)
  | .ok f =>
    let out := f.drive t.cancelled t.desk
    let limit := allowed.map (t.now + ·)
    let (kept, g, t) := await limit out.1 { t with desk := out.2, nextRun := t.nextRun + 1 }
    let verdict := if kept then .reported (g.report t.desk.store) else .abandoned
    (verdict, f.opening :: g.closing?.toList, t)

end Trial

end LivePanel.Rehearsal
