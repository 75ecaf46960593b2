import LivePanel.Expr.Condition
import LivePanel.Run.Basic
import LivePanel.Value.Merge

/-!
# The steps of a run

A run moves in small steps. It looks at its cancellation before each step of a list and
before each write, message, branch and request, and while it waits for a reply; inside
these it does not stop. Expressions see the store over the initial state of the template,
and after a request its response.
-/

namespace LivePanel

/-- The values that the expressions of a step see. -/
def Program.scope (p : Program) (store : State.Store) (response : Option Value) : Expr.Scope :=
  ⟨p.defaults.merge store.value, response⟩

/-- What is left of the stint after an answer at once. -/
def Desk.afterAnswer (d : Desk) : Desk :=
  if d.bridge.looksAtClock then { d with left := d.left - 1 } else d

namespace Run

/-- What a step comes to: the run and its desk after it, and the effect that it had. -/
structure Move where
  run : Run
  desk : Desk
  effect : Option Effect := none

/-- Try an effect and go on with `after`; the run ends where it is refused. -/
def attempt (r : Run) (d : Desk) (e : Effect) (after : Run → Run) : Move :=
  let r := { r with begun := r.begun + 1 }
  match e.apply d with
  | (.ok (), d) => ⟨after r, d, some e⟩
  | (.error cause, d) => ⟨r.finish (.error cause), d, none⟩

/-- Whether a branch is taken; a condition that cannot be read holds. -/
def taken (scope : Expr.Scope) (condition : String) : Bool :=
  match Expr.evaluate scope condition with
  | .ok b => b
  | .error _ => true

/-- The text of a prompt after interpolation; what became no text is written as JSON. -/
def promptText (scope : Expr.Scope) (prompt : String) : String :=
  (Expr.interpolateText scope prompt).value.bare

/-- Take the next step of the innermost list that has one. -/
def next (cancelled : Bool) (r : Run) : Run :=
  match r.frames with
  | [] => r.finish (.ok ())
  | ⟨[], _, _⟩ :: below => { r with frames := below }
  | ⟨action :: rest, response, depth⟩ :: below =>
    if cancelled then r.finish (.error .cancelled)
    else
      { r with
        focus := .perform action response depth
        frames := ⟨rest, response, depth⟩ :: below
        queued := r.queued - 1 }

/-- Perform an action. -/
def perform (p : Program) (cancelled : Bool) (r : Run) (d : Desk) (response : Option Value)
    (depth : Nat) (action : Action) : Move :=
  let scope := p.scope d.store response
  match action with
  | .call name =>
    if maxDepth ≤ depth then ⟨r.finish (.error (.tooDeep name)), d, none⟩
    else
      match p.actions.get? name with
      | none => ⟨r.finish (.error (.unknownAction name)), d, none⟩
      | some a => ⟨{ r with focus := .perform a response (depth + 1) }, d, none⟩
  | .sequence steps => ⟨(r.enter steps response depth).goOn, d, none⟩
  | .branch branches =>
    if cancelled then ⟨r.finish (.error .cancelled), d, none⟩
    else
      match branches.find? fun b => taken scope b.1 with
      | none => ⟨r.goOn, d, none⟩
      | some b => ⟨{ r with focus := .perform b.2 response depth }, d, none⟩
  | .setState path value =>
    if cancelled then ⟨r.finish (.error .cancelled), d, none⟩
    else r.attempt d (.write path (Expr.interpolate scope value).value) goOn
  | .send message payload =>
    if cancelled then ⟨r.finish (.error .cancelled), d, none⟩
    else r.attempt d (.send message (Expr.interpolate scope payload).value) goOn
  | .request prompt context storeAs onSuccess =>
    if cancelled then ⟨r.finish (.error .cancelled), d, none⟩
    else
      ⟨{ r with
          focus := .asking (promptText scope prompt) (Expr.interpolate scope context).value storeAs
            onSuccess depth
          queued := r.queued + onSuccess.length
          begun := r.begun + 1 }, d, none⟩

/-- Make a request. What follows on its success is queued already. -/
def ask (r : Run) (d : Desk) (prompt : String) (context : Value) (storeAs : Option String)
    (onSuccess : List Action) (depth : Nat) : Move :=
  ⟨{ r with focus := .waiting storeAs, frames := ⟨onSuccess, none, depth⟩ :: r.frames },
    { d with bridge := d.bridge.prompt prompt context }, some (.ask prompt context)⟩

/-- Let the steps of the innermost list see a response. -/
def respond (r : Run) (response : Value) : Run :=
  match r.frames with
  | [] => r.goOn
  | f :: below => { r with focus := .next, frames := { f with response := some response } :: below }

/-- Take the reply that a run waits for. -/
def receive (r : Run) (storeAs : Option String) (reply : Except BridgeError Value) (d : Desk) :
    Move :=
  match reply with
  | .error e => ⟨r.finish (.error (.bridge e)), d, none⟩
  | .ok v =>
    match storeAs with
    | none => ⟨r.respond v, d, none⟩
    | some path =>
      match (Effect.write path v).apply d with
      | (.ok (), d) => ⟨r.respond v, d, some (.write path v)⟩
      | (.error cause, d) => ⟨r.finish (.error cause), d, none⟩

/-- Take the next reply of the bridge. -/
def reply (r : Run) (d : Desk) : Move :=
  match r.focus with
  | .waiting storeAs =>
    let (reply, bridge) := d.bridge.reply
    r.receive storeAs reply { d with bridge := bridge }
  | _ => ⟨r, d, none⟩

/-- One step. A reply that takes no time is taken at once; a run that waits for another one, that
pauses before a request, or has finished, stays as it is. -/
def step (p : Program) (cancelled : Bool) (r : Run) (d : Desk) : Move :=
  match r.focus with
  | .next => ⟨r.next cancelled, d, none⟩
  | .perform action response depth => r.perform p cancelled d response depth action
  | .asking prompt context storeAs onSuccess depth =>
    if cancelled then ⟨r.cancel, d, none⟩
    else if d.left = 0 then ⟨r, d, none⟩
    else r.ask d prompt context storeAs onSuccess depth
  | .waiting _ =>
    if cancelled then ⟨r.cancel, d, none⟩
    else if d.bridge.answersAtOnce then r.reply d.afterAnswer
    else ⟨r, d, none⟩
  | .finished _ => ⟨r, d, none⟩

/-- Whether a run goes on only when something happens around it, or not at all. -/
def rests (cancelled : Bool) (r : Run) (d : Desk) : Bool :=
  match r.focus with
  | .next => false
  | .perform .. => false
  | .asking .. => !cancelled && d.left == 0
  | .waiting _ => !cancelled && !d.bridge.answersAtOnce
  | .finished _ => true

end Run

end LivePanel
