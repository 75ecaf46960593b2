import LivePanel.Proofs.Run.Closed
import LivePanel.Proofs.Run.Inputs

/-!
# Evaluating actions without a limit

A run counts the calls around each step and gives up where there are too many. An `Evaluation`
carries out the same actions on the same inputs and knows no limit: instead of counting, it keeps
the names of the actions that it is inside of. Only a call puts a name there, and only that;
sequences, branches and what follows a request are entered without one.

`Tracks.take`: a run and its evaluation go in lockstep, until a turn finds the evaluation before a
call that lies inside of `Run.maxDepth` named actions.
-/

namespace LivePanel

open Run

/-! ### Evaluating without a limit -/

/-- What an evaluation has begun and not finished: the action of a name, or a list of steps, with
those that are left and the response that they see. -/
inductive Pending where
  | named (name : String)
  | steps (rest : List Action) (response : Option Value)

/-- Where an evaluation stands: it has reached an action, or comes back from one; it is to make a
request, or waits for the reply to it; or it has ended. -/
inductive Point where
  | reached (action : Action) (response : Option Value)
  | back
  | asking (prompt : String) (context : Value) (storeAs : Option String) (onSuccess : List Action)
  | waiting (storeAs : Option String) (onSuccess : List Action)
  | ended (outcome : Except RunError Unit)

/-- An evaluation of an action, with what it is inside of, the innermost first. -/
structure Evaluation where
  point : Point
  pending : List Pending

/-- The names of the actions begun and not finished, the innermost first. -/
def Pending.names : List Pending → List String
  | [] => []
  | .named name :: below => name :: names below
  | .steps .. :: below => names below

namespace Evaluation

/-- The evaluation of an action, before its first step. -/
def start (name : String) : Evaluation := ⟨.back, [.steps [.call name] none]⟩

/-- The names of the actions that the evaluation is inside of, the innermost first. -/
def names (e : Evaluation) : List String := Pending.names e.pending

/-- How the evaluation ended. -/
def outcome? (e : Evaluation) : Option (Except RunError Unit) :=
  match e.point with
  | .ended o => some o
  | _ => none

/-- End the evaluation. -/
def finish (e : Evaluation) (outcome : Except RunError Unit) : Evaluation :=
  { e with point := .ended outcome }

/-- Come back from an action. -/
def goBack (e : Evaluation) : Evaluation := { e with point := .back }

/-- Go on with the innermost list that has a step left; what has none left is finished. -/
def next (cancelled : Bool) : List Pending → Evaluation
  | [] => ⟨.ended (.ok ()), []⟩
  | .named _ :: below => next cancelled below
  | .steps [] _ :: below => ⟨.back, below⟩
  | .steps (action :: rest) response :: below =>
    if cancelled then ⟨.ended (.error .cancelled), .steps rest response :: below⟩
    else ⟨.reached action response, .steps rest response :: below⟩

/-- Try an effect. -/
def attempt (e : Evaluation) (d : Desk) (effect : Effect) : Evaluation :=
  match (effect.apply d).1 with
  | .ok () => e.goBack
  | .error cause => e.finish (.error cause)

/-- Carry out an action that has been reached. -/
def reach (p : Program) (cancelled : Bool) (e : Evaluation) (d : Desk) (response : Option Value)
    (action : Action) : Evaluation :=
  let scope := p.scope d.store response
  match action with
  | .call name =>
    match p.actions.get? name with
    | none => e.finish (.error (.unknownAction name))
    | some a => ⟨.reached a response, .named name :: e.pending⟩
  | .sequence steps => ⟨.back, .steps steps response :: e.pending⟩
  | .branch branches =>
    if cancelled then e.finish (.error .cancelled)
    else
      match branches.find? fun b => taken scope b.1 with
      | none => e.goBack
      | some b => { e with point := .reached b.2 response }
  | .setState path value =>
    if cancelled then e.finish (.error .cancelled)
    else e.attempt d (.write path (Expr.interpolate scope value).value)
  | .send message payload =>
    if cancelled then e.finish (.error .cancelled)
    else e.attempt d (.send message (Expr.interpolate scope payload).value)
  | .request prompt context storeAs onSuccess =>
    if cancelled then e.finish (.error .cancelled)
    else
      { e with
        point := .asking (promptText scope prompt) (Expr.interpolate scope context).value storeAs
          onSuccess }

/-- Take the reply to a request, and go on with what follows on its success. -/
def receive (e : Evaluation) (storeAs : Option String) (onSuccess : List Action)
    (reply : Except BridgeError Value) (store : State.Store) : Evaluation :=
  let onward (v : Value) : Evaluation := ⟨.back, .steps onSuccess (some v) :: e.pending⟩
  match reply with
  | .error cause => e.finish (.error (.bridge cause))
  | .ok v =>
    match storeAs with
    | none => onward v
    | some path =>
      match store.set path v with
      | .ok _ => onward v
      | .error cause => e.finish (.error (.state cause))

/-- What an evaluation makes of an input. -/
def take (p : Program) (e : Evaluation) : Input → Evaluation
  | .turn cancelled d =>
    match e.point with
    | .reached action response => e.reach p cancelled d response action
    | .back => next cancelled e.pending
    | .asking _ _ storeAs onSuccess =>
      if cancelled then e.finish (.error .cancelled)
      else if d.left = 0 then e
      else { e with point := .waiting storeAs onSuccess }
    | .waiting storeAs onSuccess =>
      if cancelled then e.finish (.error .cancelled)
      else if d.bridge.answersAtOnce then e.receive storeAs onSuccess d.bridge.reply.1 d.store
      else e
    | .ended _ => e
  | .reply reply d =>
    match e.point with
    | .waiting storeAs onSuccess => e.receive storeAs onSuccess reply d.store
    | _ => e
  | .letGo =>
    match e.point with
    | .asking .. => e.finish (.error .cancelled)
    | .waiting .. => e.finish (.error .cancelled)
    | _ => e

/-- What an evaluation has come to after the first inputs of a sequence. -/
def course (p : Program) (e : Evaluation) (inputs : Nat → Input) (k : Nat) : Evaluation :=
  ((List.range k).map inputs).foldl (take p) e

theorem course_succ {p : Program} {e : Evaluation} (inputs : Nat → Input) (k : Nat) :
    e.course p inputs (k + 1) = (e.course p inputs k).take p (inputs k) :=
  foldl_range_succ (take p) e inputs k

/-- The evaluation has reached a call of the name, inside of as many actions as there may be. -/
def AtLimit (e : Evaluation) (name : String) : Prop :=
  (∃ response, e.point = .reached (.call name) response) ∧ e.names.length = maxDepth

/-! ### In lockstep -/

/-- The focus of the run in place of the evaluation. -/
def focus (e : Evaluation) : Focus :=
  match e.point with
  | .reached action response => .perform action response e.names.length
  | .back => .next
  | .asking prompt context storeAs onSuccess =>
    .asking prompt context storeAs onSuccess e.names.length
  | .waiting storeAs _ => .waiting storeAs
  | .ended outcome => .finished outcome

end Evaluation

/-- The frames of the run in place of what is pending: the lists of steps, each with the number of
names around it. -/
def Pending.frames : List Pending → List Frame
  | [] => []
  | .named _ :: below => frames below
  | .steps rest response :: below => ⟨rest, response, (names below).length⟩ :: frames below

/-- The frames of the run in place of the evaluation. A run that waits has entered already what
follows on success. -/
def Evaluation.frames (e : Evaluation) : List Frame :=
  match e.point with
  | .waiting _ onSuccess => ⟨onSuccess, none, e.names.length⟩ :: Pending.frames e.pending
  | _ => Pending.frames e.pending

/-- The run does what the evaluation does, and neither has exceeded the limit. -/
structure Tracks (e : Evaluation) (r : Run) : Prop where
  focus : r.focus = e.focus
  frames : e.outcome? = none → r.frames = e.frames
  depth : e.names.length ≤ maxDepth
  bounded : ∀ name, e.point ≠ .ended (.error (.tooDeep name))

namespace Tracks

variable {p : Program} {e : Evaluation} {r : Run} {c : Bool} {d : Desk}

theorem outcome? (h : Tracks e r) : r.outcome? = e.outcome? := by
  unfold Run.outcome? Evaluation.outcome?
  rw [h.focus, Evaluation.focus]
  cases e.point <;> rfl

/-- While the evaluation goes on the run has its focus and its frames. -/
theorem live (hd : e.names.length ≤ maxDepth) (hf : r.focus = e.focus)
    (hframes : r.frames = e.frames) (he : e.outcome? = none) : Tracks e r where
  focus := hf
  frames _ := hframes
  depth := hd
  bounded name hp := by
    rw [Evaluation.outcome?, hp] at he
    cases he

/-- When the evaluation has ended the frames of the run do not matter any more. -/
theorem finish (hd : e.names.length ≤ maxDepth) {o : Except RunError Unit}
    (ho : ∀ name, o ≠ .error (.tooDeep name)) : Tracks (e.finish o) (r.finish o) where
  focus := rfl
  frames := nofun
  depth := hd
  bounded name hn := ho name (Point.ended.inj hn)

theorem cancelled (hd : e.names.length ≤ maxDepth) :
    Tracks (e.finish (.error .cancelled)) (r.finish (.error .cancelled)) :=
  finish hd nofun

theorem unknown (hd : e.names.length ≤ maxDepth) (name : String) :
    Tracks (e.finish (.error (.unknownAction name))) (r.finish (.error (.unknownAction name))) :=
  finish hd nofun

theorem start (name : String) : Tracks (Evaluation.start name) (Run.start name) :=
  live (Nat.zero_le _) rfl rfl rfl

theorem next {pending : List Pending} (hd : (Pending.names pending).length ≤ maxDepth)
    (hf : r.focus = .next) (hframes : r.frames = Pending.frames pending) :
    Tracks (Evaluation.next c pending) (r.next c) := by
  unfold Run.next
  rw [hframes]
  fun_induction Evaluation.next c pending with
  | case1 => exact finish (e := ⟨.back, []⟩) (Nat.zero_le _) nofun
  | case2 name below ih =>
    exact ih (Nat.le_of_succ_le hd) hframes
  | case3 response below => exact live hd hf rfl rfl
  | case4 action rest response below hc =>
    simp only [Pending.frames, hc, if_true]
    exact cancelled (e := ⟨.back, .steps rest response :: below⟩) hd
  | case5 action rest response below hc =>
    simp only [Pending.frames, hc]
    exact live hd rfl rfl rfl

theorem attempt (hframes : r.frames = Pending.frames e.pending) (hd : e.names.length ≤ maxDepth)
    (effect : Effect) : Tracks (e.attempt d effect) (r.attempt d effect goOn).run := by
  have hne (name : String) : (effect.apply d).1 ≠ .error (.tooDeep name) :=
    apply_ne_error d effect nofun nofun
  unfold Evaluation.attempt Run.attempt
  generalize effect.apply d = out at hne
  obtain ⟨cause | _, d'⟩ := out
  · exact finish hd hne
  · exact live hd rfl hframes rfl

theorem reach {action : Action} {response : Option Value}
    (hframes : r.frames = Pending.frames e.pending) (hd : e.names.length ≤ maxDepth)
    (hlimit : ∀ name, action = .call name → e.names.length ≠ maxDepth) :
    Tracks (e.reach p c d response action)
      (r.perform p c d response e.names.length action).run := by
  unfold Evaluation.reach perform
  cases action with
  | call name =>
    have hlt : e.names.length < maxDepth := Nat.lt_of_le_of_ne hd (hlimit name rfl)
    simp only [if_neg (Nat.not_le.2 hlt)]
    cases p.actions.get? name with
    | none => exact unknown hd name
    | some a => exact live hlt rfl hframes rfl
  | sequence steps =>
    refine live hd rfl ?_ rfl
    simp [goOn, enter, hframes, Evaluation.frames, Pending.frames, Evaluation.names]
  | branch branches =>
    dsimp only
    split
    · exact cancelled hd
    · cases branches.find? fun b => taken (p.scope d.store response) b.1 with
      | none => exact live hd rfl hframes rfl
      | some b => exact live hd rfl hframes rfl
  | setState path value =>
    dsimp only
    split
    · exact cancelled hd
    · exact attempt hframes hd _
  | send message payload =>
    dsimp only
    split
    · exact cancelled hd
    · exact attempt hframes hd _
  | request prompt context storeAs onSuccess =>
    dsimp only
    split
    · exact cancelled hd
    · exact live hd rfl hframes rfl

theorem receive {onSuccess : List Action}
    (hframes : r.frames = ⟨onSuccess, none, e.names.length⟩ :: Pending.frames e.pending)
    (hd : e.names.length ≤ maxDepth) (storeAs : Option String) (reply : Except BridgeError Value)
    {s : State.Store} (hs : d.store = s) :
    Tracks (e.receive storeAs onSuccess reply s) (r.receive storeAs reply d).run := by
  have onward (v : Value) :
      Tracks ⟨.back, .steps onSuccess (some v) :: e.pending⟩ (r.respond v) := by
    unfold respond
    rw [hframes]
    exact live hd rfl rfl rfl
  unfold Evaluation.receive Run.receive Effect.apply
  subst hs
  cases reply with
  | error cause => exact finish hd nofun
  | ok v =>
    cases storeAs with
    | none => exact onward v
    | some path =>
      dsimp only
      cases d.store.set path v with
      | ok store => exact onward v
      | error cause => exact finish hd nofun

/-- **An evaluation and its run stay together, but for a turn at the limit.** -/
theorem take (h : Tracks e r) {i : Input} (hi : i.isTurn = true → ∀ name, ¬e.AtLimit name) :
    Tracks (e.take p i) (r.take p i) := by
  have hf := h.focus
  have hframes := h.frames
  unfold Evaluation.focus at hf
  unfold Evaluation.frames Evaluation.outcome? at hframes
  cases hp : e.point with
  | reached action response =>
    simp only [hp, forall_const] at hf hframes
    cases i with
    | turn c d =>
      simp only [Evaluation.take, Run.take, step, hf, hp]
      refine reach hframes h.depth fun name hname hd => ?_
      exact hi rfl name ⟨⟨response, hname ▸ hp⟩, hd⟩
    | reply reply d => simpa only [Evaluation.take, Run.take, hf, hp] using h
    | letGo => simpa [Evaluation.take, Run.take, Run.cancel, isWaiting, isAsking, hf, hp] using h
  | back =>
    simp only [hp, forall_const] at hf hframes
    cases i with
    | turn c d =>
      simp only [Evaluation.take, Run.take, step, hf, hp]
      exact next h.depth hf hframes
    | reply reply d => simpa only [Evaluation.take, Run.take, hf, hp] using h
    | letGo => simpa [Evaluation.take, Run.take, Run.cancel, isWaiting, isAsking, hf, hp] using h
  | asking prompt context storeAs onSuccess =>
    simp only [hp, forall_const] at hf hframes
    have hcancel : r.cancel = r.finish (.error .cancelled) := by simp [Run.cancel, isAsking, hf]
    cases i with
    | turn c d =>
      simp only [Evaluation.take, Run.take, step, hf, hp, hcancel]
      split
      · exact cancelled h.depth
      · split
        · exact h
        · refine live h.depth rfl ?_ rfl
          simp [ask, hframes, Evaluation.frames, Evaluation.names]
    | reply reply d => simpa only [Evaluation.take, Run.take, hf, hp] using h
    | letGo =>
      simp only [Evaluation.take, Run.take, hp, hcancel]
      exact cancelled h.depth
  | waiting storeAs onSuccess =>
    simp only [hp, forall_const] at hf hframes
    have hcancel : r.cancel = r.finish (.error .cancelled) := by simp [Run.cancel, isWaiting, hf]
    cases i with
    | turn c d =>
      simp only [Evaluation.take, Run.take, step, hf, hp, hcancel]
      split
      · exact cancelled h.depth
      · split
        · rw [Run.reply, hf, bridge_afterAnswer]
          exact receive hframes h.depth storeAs _ (store_afterAnswer d)
        · exact h
    | reply reply d =>
      simp only [Evaluation.take, Run.take, hf, hp]
      exact receive hframes h.depth storeAs reply rfl
    | letGo =>
      simp only [Evaluation.take, Run.take, hp, hcancel]
      exact cancelled h.depth
  | ended outcome =>
    simp only [hp] at hf
    rw [take_of_finished hf]
    cases i <;> simpa only [Evaluation.take, hp] using h

/-- A turn at the limit ends the run. -/
theorem take_of_atLimit (h : Tracks e r) {name : String} (he : e.AtLimit name) {i : Input}
    (hi : i.isTurn = true) : (r.take p i).focus = .finished (.error (.tooDeep name)) := by
  obtain ⟨⟨response, hp⟩, hd⟩ := he
  cases i with
  | turn cancelled d =>
    have hf : r.focus = .perform (.call name) response maxDepth := by
      rw [h.focus, Evaluation.focus, hp, ← hd]
    simp [Run.take, step, hf, perform, Run.finish]
  | reply reply d => cases hi
  | letGo => cases hi

end Tracks

end LivePanel
