import LivePanel.Proofs.Run.Inputs

/-!
# The steps that a cancelled run skips

A run keeps one number for the steps that it has queued, however many lists of steps it is inside
of. The number goes up by the length of each list that is entered and down by one with each step
that is started; the lists themselves lie in the frames, and where a request is still to be made,
beside its prompt.

## The model

`Run.unstarted` gathers the steps that have not been started from where they lie. What one input has
a run enter, start and begin is `Run.enters`, `Run.starts` and `Run.begins`; along several inputs
these are gathered by `Run.along`.

## What is proved

* `books_take`: what one input does to the numbers and to the steps that are not started.
* `Tallied.take`, `perm_after`: after any inputs the number is that of the steps not started, and
  together with the steps started these are the steps entered.
* `Performance.exists_after`: what drives a performance gives inputs to its run.
* `skipped_steps_are_unstarted`: what is reported of a run that is cancelled, or let go.
-/

namespace LivePanel

/-- Whether the action itself does something: whether it is a write, a message or a request. -/
def Action.isDeed : Action → Bool
  | .setState .. => true
  | .send .. => true
  | .request .. => true
  | _ => false

/-- The steps on the success of a request that is still to be made. -/
def Focus.following : Focus → List Action
  | .asking _ _ _ onSuccess _ => onSuccess
  | _ => []

namespace Run

/-- The steps not started of the lists that the run has entered. -/
def unstarted (r : Run) : List Action := r.focus.following ++ r.frames.flatMap Frame.steps

/-- The steps that the run enters with an input. Those on the success of a request are entered with
the request. -/
def enters (r : Run) : Input → List Action
  | .turn cancelled _ =>
    match r.focus with
    | .perform (.sequence steps) _ _ => steps
    | .perform (.request _ _ _ onSuccess) _ _ => if cancelled then [] else onSuccess
    | _ => []
  | _ => []

/-- The step that the run starts with an input. -/
def starts (r : Run) : Input → List Action
  | .turn false _ =>
    match r.focus, r.frames with
    | .next, ⟨a :: _, _, _⟩ :: _ => [a]
    | _, _ => []
  | _ => []

/-- The write, message or request that the run begins with an input. -/
def begins (r : Run) : Input → List Action
  | .turn false _ =>
    match r.focus with
    | .perform a _ _ => if a.isDeed then [a] else []
    | _ => []
  | _ => []

/-- What a run does with each of several inputs, gathered. -/
def along (p : Program) (does : Run → Input → List Action) (r : Run) : List Input → List Action
  | [] => []
  | i :: rest => does r i ++ (r.take p i).along p does rest

/-! ### One input -/

/-- What an input does to the numbers of a run and to its steps. -/
structure Books (r : Run) (i : Input) (r' : Run) : Prop where
  begun : r'.begun = r.begun + (r.begins i).length
  queued : r'.queued = r.queued - (r.starts i).length + (r.enters i).length
  unstarted : r'.outcome? = none → r.starts i ++ r'.unstarted = r.enters i ++ r.unstarted

variable {p : Program} {r : Run} {i : Input}

/-- The steps that are started are among those that were not. -/
theorem starts_isPrefix_unstarted (r : Run) (i : Input) : r.starts i <+: r.unstarted := by
  unfold starts
  split
  · split
    · rename_i hf hfs
      rw [unstarted, hf, hfs]
      exact ⟨_, rfl⟩
    · exact List.nil_prefix
  · exact List.nil_prefix

/-- An input with which nothing is entered, started or begun. -/
theorem Books.still {r' : Run} (hb : r.begins i = []) (hs : r.starts i = []) (he : r.enters i = [])
    (hbegun : r'.begun = r.begun) (hqueued : r'.queued = r.queued)
    (h : r'.outcome? = none → r'.unstarted = r.unstarted) : Books r i r' := by
  refine ⟨by simp [hb, hbegun], by simp [hs, he, hqueued], fun h' => ?_⟩
  rw [hs, he, h h']

/-- The run ends, and leaves its numbers as they are. -/
theorem Books.finish (hb : r.begins i = []) (hs : r.starts i = []) (he : r.enters i = [])
    (o : Except RunError Unit) : Books r i (r.finish o) :=
  .still hb hs he rfl rfl nofun

/-- Where nothing is still to be asked for, the steps that are not started lie in the frames. -/
theorem unstarted_of_following (h : r.focus.following = []) :
    r.unstarted = r.frames.flatMap Frame.steps := by
  rw [unstarted, h]
  rfl

@[simp] theorem unstarted_respond (v : Value) :
    (r.respond v).unstarted = r.frames.flatMap Frame.steps := by
  unfold respond
  split
  · rename_i hf
    simp [unstarted, goOn, Focus.following, hf]
  · rename_i hf
    simp [unstarted, Focus.following, hf]

/-- To go on leaves the numbers as they are. -/
theorem respond_counts (v : Value) :
    (r.respond v).begun = r.begun ∧ (r.respond v).queued = r.queued := by
  unfold respond
  split <;> exact ⟨rfl, rfl⟩

theorem books_next (cancelled : Bool) (d : Desk) (h : r.focus = .next) :
    Books r (.turn cancelled d) (r.next cancelled) := by
  have hb : r.begins (.turn cancelled d) = [] := by cases cancelled <;> simp [begins, h]
  have he : r.enters (.turn cancelled d) = [] := by simp [enters, h]
  unfold next
  split
  · rename_i hfs
    exact .finish hb (by cases cancelled <;> simp [starts, h, hfs]) he _
  · rename_i hfs
    refine .still hb (by cases cancelled <;> simp [starts, h, hfs]) he rfl rfl fun _ => ?_
    simp [unstarted, h, hfs]
  · rename_i hfs
    cases cancelled with
    | true => exact .finish hb rfl he _
    | false =>
      refine ⟨by simp [hb], by simp [starts, he, h, hfs], fun _ => ?_⟩
      simp [starts, he, unstarted, Focus.following, h, hfs]

/-- An effect is begun, whether it is refused or not. -/
theorem books_attempt {d : Desk} {e : Effect} (hs : r.starts i = []) (he : r.enters i = [])
    (hb : (r.begins i).length = 1) (hf : r.focus.following = []) :
    Books r i (r.attempt d e goOn).run := by
  unfold attempt
  dsimp only
  split
  · refine ⟨by rw [hb]; rfl, by rw [hs, he]; rfl, fun _ => ?_⟩
    rw [hs, he, unstarted, unstarted, hf]
    rfl
  · exact ⟨by rw [hb]; rfl, by rw [hs, he]; rfl, nofun⟩

/-- An action that is no write, message or request begins nothing. -/
theorem begins_of_not_deed {a : Action} {response : Option Value} {depth : Nat}
    (h : r.focus = .perform a response depth) (ha : a.isDeed = false) (cancelled : Bool)
    (d : Desk) : r.begins (.turn cancelled d) = [] := by
  cases cancelled <;> simp [begins, h, ha]

theorem books_perform {cancelled : Bool} {d d' : Desk} {a : Action} {response : Option Value}
    {depth : Nat} (h : r.focus = .perform a response depth) :
    Books r (.turn cancelled d) (r.perform p cancelled d' response depth a).run := by
  have hs : r.starts (.turn cancelled d) = [] := by cases cancelled <;> simp [starts, h]
  have hf : r.focus.following = [] := by rw [h]; rfl
  cases a with
  | call name =>
    have hb := begins_of_not_deed h rfl cancelled d
    have he : r.enters (.turn cancelled d) = [] := by simp [enters, h]
    simp only [perform]
    split
    · exact .finish hb hs he _
    · split
      · exact .finish hb hs he _
      · exact .still hb hs he rfl rfl fun _ => by simp [unstarted, Focus.following, h]
  | sequence steps =>
    have hb := begins_of_not_deed h rfl cancelled d
    have he : r.enters (.turn cancelled d) = steps := by simp [enters, h]
    refine ⟨by rw [hb]; rfl, by rw [hs, he]; rfl, fun _ => ?_⟩
    rw [hs, he, unstarted_of_following hf]
    simp [perform, enter, goOn, unstarted, Focus.following]
  | branch branches =>
    have hb := begins_of_not_deed h rfl cancelled d
    have he : r.enters (.turn cancelled d) = [] := by simp [enters, h]
    simp only [perform]
    split
    · exact .finish hb hs he _
    · split
      · exact .still hb hs he rfl rfl fun _ => by simp [goOn, unstarted, Focus.following, h]
      · exact .still hb hs he rfl rfl fun _ => by simp [unstarted, Focus.following, h]
  | setState | send =>
    have he : r.enters (.turn cancelled d) = [] := by simp [enters, h]
    simp only [perform]
    split
    · rename_i hc
      exact .finish (by rw [hc]; rfl) hs he _
    · rename_i hc
      exact books_attempt hs he (by simp [begins, h, hc, Action.isDeed]) hf
  | request prompt context storeAs onSuccess =>
    simp only [perform]
    split
    · rename_i hc
      exact .finish (by rw [hc]; rfl) hs (by simp [enters, h, hc]) _
    · rename_i hc
      have he : r.enters (.turn cancelled d) = onSuccess := by simp [enters, h, hc]
      refine ⟨by simp [begins, h, hc, Action.isDeed], by rw [hs, he]; rfl, fun _ => ?_⟩
      rw [hs, he, unstarted_of_following hf]
      rfl

/-- Nothing is entered, started or begun with a reply. -/
theorem books_receive {storeAs : Option String} {reply : Except BridgeError Value} {d : Desk}
    (h : r.focus = .waiting storeAs) (hb : r.begins i = []) (hs : r.starts i = [])
    (he : r.enters i = []) : Books r i (r.receive storeAs reply d).run := by
  have goes : ∀ v, Books r i (r.respond v) := fun v =>
    .still hb hs he (respond_counts v).1 (respond_counts v).2 fun _ => by
      rw [unstarted_respond, unstarted_of_following (by rw [h]; rfl)]
  unfold receive
  split
  · exact .finish hb hs he _
  · split
    · exact goes _
    · split
      · exact goes _
      · exact .finish hb hs he _

/-- To let a run go leaves its numbers as they are. -/
theorem books_cancel (hb : r.begins i = []) (hs : r.starts i = []) (he : r.enters i = []) :
    Books r i r.cancel := by
  unfold cancel
  split
  · exact .finish hb hs he _
  · exact .still hb hs he rfl rfl fun _ => rfl

/-- **What an input does to the numbers of a run.** -/
theorem books_take (p : Program) (r : Run) (i : Input) : Books r i (r.take p i) := by
  cases i with
  | letGo => exact books_cancel rfl rfl rfl
  | reply reply d =>
    rw [take]
    split
    · exact books_receive ‹_› rfl rfl rfl
    · exact .still rfl rfl rfl rfl rfl fun _ => rfl
  | turn cancelled d =>
    have quiet (h : ∀ a response depth, r.focus ≠ .perform a response depth)
        (hn : r.focus ≠ .next) : r.begins (.turn cancelled d) = [] ∧
        r.starts (.turn cancelled d) = [] ∧ r.enters (.turn cancelled d) = [] := by
      cases hf : r.focus <;> cases cancelled <;> simp_all [begins, starts, enters]
    rw [take, step]
    split
    · exact books_next cancelled d ‹_›
    · exact books_perform ‹_›
    · rename_i h
      obtain ⟨hb, hs, he⟩ := quiet (by simp [h]) (by simp [h])
      split
      · exact books_cancel hb hs he
      · split
        · exact .still hb hs he rfl rfl fun _ => rfl
        · exact .still hb hs he rfl rfl fun _ => by simp [ask, unstarted, Focus.following, h]
    · rename_i h
      obtain ⟨hb, hs, he⟩ := quiet (by simp [h]) (by simp [h])
      split
      · exact books_cancel hb hs he
      · split
        · rw [reply, h]
          exact books_receive h hb hs he
        · exact .still hb hs he rfl rfl fun _ => rfl
    · rename_i h
      obtain ⟨hb, hs, he⟩ := quiet (by simp [h]) (by simp [h])
      exact .still hb hs he rfl rfl fun _ => rfl

/-! ### Several inputs -/

/-- The steps queued are counted as the steps not started, until the run has ended. -/
def Tallied (r : Run) : Prop := r.outcome? = none → r.queued = r.unstarted.length

/-- A run that has ended starts and enters nothing. -/
theorem still_of_finished {o : Except RunError Unit} (h : r.focus = .finished o) (i : Input) :
    r.starts i = [] ∧ r.enters i = [] := by
  cases i with
  | turn cancelled d => cases cancelled <;> simp [starts, enters, h]
  | reply reply d => exact ⟨rfl, rfl⟩
  | letGo => exact ⟨rfl, rfl⟩

namespace Tallied

theorem start (name : String) : Tallied (Run.start name) := fun _ => rfl

/-- What is started is queued, so that the number never goes below zero. -/
theorem length_starts_le (h : Tallied r) (i : Input) : (r.starts i).length ≤ r.queued := by
  cases ho : r.outcome? with
  | none =>
    rw [h ho]
    exact (starts_isPrefix_unstarted r i).length_le
  | some o =>
    rw [(still_of_finished (focus_of_outcome? ho) i).1]
    exact Nat.zero_le _

/-- **The number that is queued moves by what is entered and started, and by nothing else.** -/
theorem queued_take (h : Tallied r) (i : Input) :
    (r.take p i).queued + (r.starts i).length = r.queued + (r.enters i).length := by
  have hle := h.length_starts_le i
  have hqueued := (books_take p r i).queued
  omega

/-- **Every input keeps the tally.** -/
theorem take (h : Tallied r) (i : Input) : Tallied (r.take p i) := by
  intro ho
  cases hr : r.outcome? with
  | none =>
    have hlists := congrArg List.length ((books_take p r i).unstarted ho)
    have hnumbers := h.queued_take (p := p) i
    rw [h hr] at hnumbers
    simp only [List.length_append] at hlists
    omega
  | some o =>
    rw [take_of_finished (focus_of_outcome? hr), hr] at ho
    cases ho

theorem after (h : Tallied r) (inputs : List Input) : Tallied (r.after p inputs) := by
  induction inputs generalizing r with
  | nil => exact h
  | cons i inputs ih => exact ih (h.take i)

end Tallied

/-- A run is not under way any more where it was not before. -/
theorem outcome?_of_after {inputs : List Input} (h : (r.after p inputs).outcome? = none) :
    r.outcome? = none := by
  cases hr : r.outcome? with
  | none => rfl
  | some o =>
    induction inputs generalizing r with
    | nil => exact absurd h (by rw [show r.after p [] = r from rfl, hr]; exact nofun)
    | cons i inputs ih =>
      have htake : r.take p i = r := take_of_finished (focus_of_outcome? hr) i
      refine ih ?_ hr
      rwa [show r.after p (i :: inputs) = (r.take p i).after p inputs from rfl, htake] at h

open scoped List in
/-- **What has been entered has been started, or is not started yet.** -/
theorem perm_after {inputs : List Input} (h : (r.after p inputs).outcome? = none) :
    (r.along p starts inputs ++ (r.after p inputs).unstarted).Perm
      (r.along p enters inputs ++ r.unstarted) := by
  induction inputs generalizing r with
  | nil => exact .refl _
  | cons i inputs ih =>
    have hgoing : (r.take p i).outcome? = none := outcome?_of_after h
    have hfirst := (books_take p r i).unstarted hgoing
    -- what is entered later is entered in front of what the first input leaves
    calc r.along p starts (i :: inputs) ++ (r.after p (i :: inputs)).unstarted
        = r.starts i ++
            ((r.take p i).along p starts inputs ++ ((r.take p i).after p inputs).unstarted) :=
          List.append_assoc ..
      _ ~ r.starts i ++ ((r.take p i).along p enters inputs ++ (r.take p i).unstarted) :=
          (ih h).append_left _
      _ ~ (r.take p i).along p enters inputs ++ (r.starts i ++ (r.take p i).unstarted) := by
          rw [← List.append_assoc, ← List.append_assoc]
          exact List.perm_append_comm.append_right _
      _ = (r.take p i).along p enters inputs ++ (r.enters i ++ r.unstarted) := by rw [hfirst]
      _ ~ r.along p enters (i :: inputs) ++ r.unstarted := by
          rw [along, ← List.append_assoc]
          exact List.perm_append_comm.append_right _

theorem begun_after (p : Program) (r : Run) (inputs : List Input) :
    (r.after p inputs).begun = r.begun + (r.along p begins inputs).length := by
  induction inputs generalizing r with
  | nil => rfl
  | cons i inputs ih =>
    have hrest := ih (r.take p i)
    rw [(books_take p r i).begun] at hrest
    rw [show r.after p (i :: inputs) = (r.take p i).after p inputs from rfl, hrest, along,
      List.length_append, Nat.add_assoc]

/-! ### Requests and cancellations -/

/-- A request that is begun is pending, and its steps lie in front of all others. -/
theorem take_request {prompt : String} {context : Value} {storeAs : Option String}
    {onSuccess : List Action} {response : Option Value} {depth : Nat} {d : Desk}
    (h : r.focus = .perform (.request prompt context storeAs onSuccess) response depth) :
    (r.take p (.turn false d)).suspended = true ∧
      (r.take p (.turn false d)).unstarted = onSuccess ++ r.unstarted := by
  have hrun : (r.take p (.turn false d)).focus =
      .asking (promptText (p.scope d.store response) prompt)
        (Expr.interpolate (p.scope d.store response) context).value storeAs onSuccess depth := by
    simp [take, step, h, perform]
  refine ⟨by simp [suspended, isAsking, hrun], ?_⟩
  have hlists := (books_take p r (.turn false d)).unstarted
    (outcome?_of_focus hrun fun _ => Focus.noConfusion)
  simpa [starts, enters, h] using hlists

theorem focus_of_suspended (h : r.suspended = true) :
    (∃ storeAs, r.focus = .waiting storeAs) ∨
      ∃ prompt context storeAs onSuccess depth,
        r.focus = .asking prompt context storeAs onSuccess depth := by
  unfold suspended isWaiting isAsking at h
  cases hf : r.focus <;> simp_all

/-- A request that stays pending starts and enters nothing. -/
theorem take_suspended (h : r.suspended = true) (h' : (r.take p i).suspended = true) :
    (r.take p i).unstarted = r.unstarted := by
  have hquiet : r.starts i = [] ∧ r.enters i = [] := by
    obtain ⟨_, hf⟩ | ⟨_, _, _, _, _, hf⟩ := focus_of_suspended h <;>
      cases i with
      | turn cancelled d => cases cancelled <;> simp [starts, enters, hf]
      | reply reply d => exact ⟨rfl, rfl⟩
      | letGo => exact ⟨rfl, rfl⟩
  have hunder : (r.take p i).outcome? = none := by
    obtain ⟨_, hf⟩ | ⟨_, _, _, _, _, hf⟩ := focus_of_suspended h' <;>
      exact outcome?_of_focus hf fun _ => Focus.noConfusion
  have hlists := (books_take p r i).unstarted hunder
  rwa [hquiet.1, hquiet.2] at hlists

/-- What is on the list of steps does not cancel a run. -/
theorem Comes.outcome?_ne_cancelled {d : Desk} {m : Move} (h : Comes p r d m)
    (hr : r.outcome? = none) : m.run.outcome? ≠ some (.error .cancelled) := by
  cases h with
  | goes hr' _ => exact fun h' => by rw [hr'.trans hr] at h'; cases h'
  | acts _ hr' _ => exact fun h' => by rw [hr'] at h'; cases h'
  | ends _ _ => exact nofun
  | fails _ he _ => exact fun h' => he.ne_cancelled (Except.error.inj (Option.some.inj h'))

theorem receive_outcome?_ne_cancelled (storeAs : Option String)
    (reply : Except BridgeError Value) (d : Desk) :
    ¬(r.receive storeAs reply d).run.outcome? = some (.error .cancelled) := by
  unfold receive
  split
  · simp [finish, outcome?]
  · split
    · simp
    · split
      · simp
      · rename_i hwrite
        obtain ⟨e, -, rfl, -⟩ := Effect.refused_write hwrite
        simp [finish, outcome?]

/-- A run that is cancelled is stopped where it was. -/
theorem take_of_cancelled (hr : r.outcome? = none)
    (h : (r.take p i).outcome? = some (.error .cancelled)) :
    r.take p i = r.finish (.error .cancelled) := by
  cases i with
  | turn cancelled d =>
    have hfalse := (comes_step p r d).outcome?_ne_cancelled hr
    rw [take] at h ⊢
    cases cancelled with
    | false => exact absurd h hfalse
    | true =>
      rw [step_of_cancelled] at h ⊢
      split
      · rfl
      · rename_i hl
        rw [if_neg hl] at h
        exact absurd h hfalse
  | reply reply d =>
    rw [take] at h
    split at h
    · exact absurd h (receive_outcome?_ne_cancelled _ reply d)
    · rw [hr] at h
      cases h
  | letGo =>
    rw [take, cancel] at h ⊢
    split
    · rfl
    · rename_i hs
      rw [if_neg hs, hr] at h
      cases h

end Run

namespace Performance

/-- What a performance comes to with several inputs to its run. -/
def after (f : Performance) (inputs : List Run.Input) : Performance :=
  { f with run := f.run.after f.program inputs }

/-- What is told and reported of a run is that it was cancelled with so many steps skipped. -/
structure CancelledWith (f : Performance) (skipped : Nat) : Prop where
  closing : f.closing? = some (f.event (.actionCancelled f.key f.action skipped))
  state : ∀ store, (f.report store).state = .cancelled
  skippedSteps : ∀ store, (f.report store).skippedSteps = skipped

theorem cancelledWith {f : Performance} (h : f.run.outcome? = some (.error .cancelled)) :
    f.CancelledWith f.run.queued := by
  have hf := Run.focus_of_outcome? h
  have hstate : f.run.state = .cancelled := by simp [Run.state, hf]
  exact ⟨by simp [closing?, hf, cancelledEvent], fun _ => hstate,
    fun _ => by simp [report, hstate]⟩

/-- What a performance does with its run is to give it inputs. -/
theorem exists_after (f : Performance) (cancelled : Bool) (d : Desk) :
    (∃ inputs, (f.drive cancelled d).1 = f.after inputs) ∧
      (∃ inputs, (f.reply cancelled d).1 = f.after inputs) ∧
      (∃ inputs, (f.resume cancelled d).1 = f.after inputs) ∧ f.letGo = f.after [.letGo] := by
  refine ⟨?_, ?_, ?_, rfl⟩
  · obtain ⟨inputs, h⟩ := Run.turns_iff.1 (f.turns_drive cancelled d)
    exact ⟨inputs, congrArg (fun r => { f with run := r }) h⟩
  · obtain ⟨inputs, h⟩ := Run.turns_iff.1 (f.turns_reply cancelled d)
    exact ⟨inputs, congrArg (fun r => { f with run := r }) h⟩
  · obtain ⟨inputs, h⟩ := Run.turns_iff.1 (f.turns_resume cancelled d)
    exact ⟨inputs, congrArg (fun r => { f with run := r }) h⟩

/-- The numbers of a performance are right after some inputs, and so are those that are reported
where it is cancelled then. -/
structure Accounted (f : Performance) (inputs : List Run.Input) : Prop where
  /-- The steps queued are those not started, -/
  counted : (f.after inputs).run.outcome? = none →
    (f.after inputs).run.queued = (f.after inputs).run.unstarted.length
  /-- and these are all that has been entered and not been started. -/
  listed : (f.after inputs).run.outcome? = none →
    (f.run.along f.program Run.starts inputs ++ (f.after inputs).run.unstarted).Perm
      (f.run.along f.program Run.enters inputs ++ f.run.unstarted)
  /-- No step is started with none queued, -/
  positive : ∀ i, ((f.after inputs).run.starts i).length ≤ (f.after inputs).run.queued
  /-- and the number goes by what is started and what is entered. -/
  exact_number : ∀ i,
    (f.after (inputs ++ [i])).run.queued + ((f.after inputs).run.starts i).length =
      (f.after inputs).run.queued + ((f.after inputs).run.enters i).length
  /-- A request has all steps on its success queued, -/
  requested : ∀ prompt context storeAs onSuccess response depth d,
    (f.after inputs).run.focus =
        .perform (.request prompt context storeAs onSuccess) response depth →
      (f.after (inputs ++ [.turn false d])).run.suspended = true ∧
        (f.after (inputs ++ [.turn false d])).run.unstarted =
          onSuccess ++ (f.after inputs).run.unstarted
  /-- as long as it is pending. -/
  pending : ∀ i, (f.after inputs).run.suspended = true →
    (f.after (inputs ++ [i])).run.suspended = true →
      (f.after (inputs ++ [i])).run.unstarted = (f.after inputs).run.unstarted
  /-- A turn with which the run sees its cancellation reports the steps not started, -/
  seen : ∀ d, (f.after inputs).run.looks = true →
    (f.after (inputs ++ [.turn true d])).CancelledWith (f.after inputs).run.unstarted.length
  /-- so it is where the run is let go, -/
  abandoned : (f.after inputs).run.suspended = true →
    (f.after inputs).letGo.CancelledWith (f.after inputs).run.unstarted.length
  /-- and with anything else that cancels it. -/
  cancelled : ∀ i, (f.after inputs).run.outcome? = none →
    (f.after (inputs ++ [i])).run.outcome? = some (.error .cancelled) →
      (f.after (inputs ++ [i])).CancelledWith (f.after inputs).run.unstarted.length
  /-- The steps reported as run are the writes, messages and requests begun. -/
  stepsRun : ∀ store, ((f.after inputs).report store).stepsRun =
    (f.run.along f.program Run.begins inputs).length

theorem after_concat (f : Performance) (inputs : List Run.Input) (i : Run.Input) :
    (f.after (inputs ++ [i])).run = (f.after inputs).run.take f.program i :=
  List.foldl_append ..

theorem cancelledWith_unstarted {f : Performance} {inputs : List Run.Input} {i : Run.Input}
    (ht : (f.after inputs).run.Tallied) (hr : (f.after inputs).run.outcome? = none)
    (h : (f.after (inputs ++ [i])).run.outcome? = some (.error .cancelled)) :
    (f.after (inputs ++ [i])).CancelledWith (f.after inputs).run.unstarted.length := by
  have hstop : (f.after (inputs ++ [i])).run = (f.after inputs).run.finish (.error .cancelled) := by
    rw [after_concat] at h ⊢
    exact Run.take_of_cancelled hr h
  have hcount : (f.after (inputs ++ [i])).run.queued = (f.after inputs).run.unstarted.length := by
    rw [hstop]
    exact ht hr
  rw [← hcount]
  exact cancelledWith h

/-- **A run whose numbers are right at its start has them right after any inputs.** -/
theorem accounted {f : Performance} (hf : f.run.Tallied) (hbegun : f.run.begun = 0)
    (inputs : List Run.Input) : f.Accounted inputs := by
  have ht : (f.after inputs).run.Tallied := hf.after inputs
  have hsuspended : (f.after inputs).run.suspended = true →
      (f.after inputs).run.outcome? = none := by
    intro h
    obtain ⟨_, hfocus⟩ | ⟨_, _, _, _, _, hfocus⟩ := Run.focus_of_suspended h <;>
      exact Run.outcome?_of_focus hfocus fun _ => Focus.noConfusion
  refine
    { counted := ht
      listed := Run.perm_after
      positive := ht.length_starts_le
      exact_number := fun i => by
        rw [after_concat]
        exact ht.queued_take i
      requested := fun _ _ _ _ _ _ d h => by
        rw [after_concat]
        exact Run.take_request h
      pending := fun i h h' => by
        rw [after_concat] at h' ⊢
        exact Run.take_suspended h h'
      seen := fun d h => cancelledWith_unstarted ht (Run.outcome?_of_looks h) ?_
      abandoned := fun h => ?_
      cancelled := fun i => cancelledWith_unstarted ht
      stepsRun := fun store => ?_ }
  · rw [after_concat, Run.take, Run.step_of_cancelled, if_pos h]
    rfl
  · have hlet : (f.after inputs).letGo = f.after (inputs ++ [.letGo]) :=
      congrArg (fun r => { f with run := r }) (after_concat f inputs .letGo).symm
    rw [hlet]
    refine cancelledWith_unstarted ht (hsuspended h) ?_
    rw [after_concat, Run.take, Run.cancel]
    exact congrArg Run.outcome? (if_pos h)
  · have hcount := Run.begun_after f.program f.run inputs
    rwa [hbegun, Nat.zero_add] at hcount

end Performance

/-- **The steps reported as skipped are those not started in what the run had entered.** The run of
an action is given any inputs, each with a store, a bridge and a cancellation of its own; before the
first one its root step is not started, and it looks at its cancellation. -/
theorem skipped_steps_are_unstarted {id : Nat} {key action : String} {p : Program}
    {store : State.Store} {f : Performance}
    (hf : Performance.start id key action p store = .ok f) :
    (f.run.unstarted = [.call action] ∧ f.run.looks = true) ∧ ∀ inputs, f.Accounted inputs := by
  unfold Performance.start at hf
  split at hf
  · cases hf
    exact ⟨⟨rfl, rfl⟩, Performance.accounted (Run.Tallied.start action) rfl⟩
  · cases hf

/-- An action with a request and a step after it. -/
def Program.asking : Program :=
  ⟨[("go", .sequence [.request "why" .null none [.send "a" .null, .send "b" .null],
    .send "c" .null])], .null⟩

/-- It is let go while its request is pending. -/
theorem skipped_steps_are_unstarted_asking :
    let f : Performance := ⟨0, "k", "go", .asking, 0, .start "go"⟩
    Performance.start 0 "k" "go" .asking .empty = .ok f ∧
      (f.after (.replicate 6 (.turn false ⟨.empty, .detached {}, Run.stint⟩))).letGo.CancelledWith
        3 := by
  intro f
  have hstart : Performance.start 0 "k" "go" .asking .empty = .ok f := by rfl
  refine ⟨hstart, ?_⟩
  have hlet := ((skipped_steps_are_unstarted hstart).2
    (.replicate 6 (.turn false ⟨.empty, .detached {}, Run.stint⟩))).abandoned (by decide +kernel)
  have hthree : (f.after (.replicate 6
      (.turn false ⟨.empty, .detached {}, Run.stint⟩))).run.unstarted.length = 3 := by
    decide +kernel
  rwa [hthree] at hlet

end LivePanel
