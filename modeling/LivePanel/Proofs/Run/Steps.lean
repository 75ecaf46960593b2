import LivePanel.Run.Report
import Mathlib.Logic.Relation

/-!
# What one step of a run comes to

A step goes on to the next thing, carries out an effect, ends the run with nothing left to do, or
fails; and where the run looks at its cancellation and sees it, the run ends as cancelled. `Comes`
lists these, and what is later said about all runs is read off the list; the step function itself is
not opened again. `Fails` says when a step fails, in terms of the actions of a template, the store
and the answers of the host.

A run goes on in turns: it takes a step, with its cancellation asked for or not and on whatever desk
it finds; it takes a reply that it waits for, whatever this is; or it is let go. Between two turns
anything may happen around it. An `Instant` is a step or a reply with where the run stands and the
desk that it finds there, and `Run.instants` lists those of a run that is driven. `Ends` says of such
a list how the run has ended: whether any of these steps has failed on the desk that it found.

## What is proved

* `comes_step`, `comes_reply`: every step that does not see a cancellation is on the list, and so is
  every reply.
* `step_of_cancelled`: a cancellation that is seen ends the run, any other changes nothing.
* `Instant.makes`: a run goes past an instant only if no step of it fails there.
* `Stands.more`, `Stands.drive`: a run that stands as it should after some instants does so after one
  more, and after those of being driven.
* `Turns.keep`: what is kept by every turn holds after any number of them. All that a performance
  does is turns (`Performance.turns_drive` and the like).
-/

namespace LivePanel

/-- The store after an effect. -/
def Effect.onStore (s : State.Store) : Effect → Except State.WriteError State.Store
  | .write path value => s.set path value
  | .send .. => .ok s
  | .ask .. => .ok s

section

variable {d d' : Desk}

theorem Effect.onStore_of_apply {e : Effect} (h : e.apply d = (.ok (), d')) :
    e.onStore d.store = .ok d'.store := by
  unfold apply at h
  cases e with
  | write path value =>
    dsimp only at h
    split at h
    · rename_i hset
      cases h
      exact hset
    · cases congrArg Prod.fst h
  | send message payload =>
    dsimp only at h
    split at h
    · cases h
      rfl
    · cases congrArg Prod.fst h
  | ask prompt context =>
    cases h
    rfl

theorem Effect.apply_write_of_error {path : String} {value : Value} {e : State.WriteError}
    (h : d.store.set path value = .error e) :
    (Effect.write path value).apply d = (.error (.state e), d) := by
  unfold apply
  dsimp only
  rw [h]

theorem Effect.apply_send_of_error {message : String} {payload : Value} {e : BridgeError}
    (h : (d.bridge.send message payload).1 = .error e) :
    ∃ d', (Effect.send message payload).apply d = (.error (.bridge e), d') ∧
      d'.store = d.store := by
  unfold apply
  dsimp only
  generalize d.bridge.send message payload = out at h
  obtain ⟨out, bridge⟩ := out
  obtain rfl : out = .error e := h
  exact ⟨_, rfl, rfl⟩

/-- The store refuses a write. -/
theorem Effect.refused_write {path : String} {value : Value} {cause : RunError}
    (h : (Effect.write path value).apply d = (.error cause, d')) :
    ∃ e, d.store.set path value = .error e ∧ cause = .state e ∧ d' = d := by
  unfold apply at h
  dsimp only at h
  split at h
  · cases congrArg Prod.fst h
  · rename_i e hset
    cases h
    exact ⟨e, hset, rfl, rfl⟩

/-- The host refuses a message. -/
theorem Effect.refused_send {message : String} {payload : Value} {cause : RunError}
    (h : (Effect.send message payload).apply d = (.error cause, d')) :
    ∃ e, (d.bridge.send message payload).1 = .error e ∧ cause = .bridge e ∧
      d'.store = d.store := by
  unfold apply at h
  dsimp only at h
  split at h
  · cases congrArg Prod.fst h
  · rename_i e bridge hsend
    cases h
    exact ⟨e, congrArg Prod.fst hsend, rfl, rfl⟩

end

namespace Run

/-! ### Looking at the cancellation, and failing -/

/-- Whether a run looks at its cancellation before it does anything. -/
def looks (r : Run) : Bool :=
  match r.focus with
  | .next =>
    match r.frames with
    | ⟨_ :: _, _, _⟩ :: _ => true
    | _ => false
  | .perform (.call _) _ _ => false
  | .perform (.sequence _) _ _ => false
  | .perform _ _ _ => true
  | .asking .. => true
  | .waiting _ => true
  | .finished _ => false

/-- The next step of a run fails, with the store and the bridge that it finds. -/
inductive Fails (p : Program) (r : Run) (s : State.Store) (b : Bridge) : RunError → Prop where
  /-- The calls are too many inside one another. -/
  | tooDeep {name : String} {response : Option Value} {depth : Nat}
      (hf : r.focus = .perform (.call name) response depth) (h : maxDepth ≤ depth) :
      Fails p r s b (.tooDeep name)
  /-- There is no such action. -/
  | unknown {name : String} {response : Option Value} {depth : Nat}
      (hf : r.focus = .perform (.call name) response depth) (hd : depth < maxDepth)
      (h : p.actions.get? name = none) : Fails p r s b (.unknownAction name)
  /-- The store refuses a write. -/
  | write {path : String} {value : Value} {response : Option Value} {depth : Nat}
      {e : State.WriteError} (hf : r.focus = .perform (.setState path value) response depth)
      (h : s.set path (Expr.interpolate (p.scope s response) value).value = .error e) :
      Fails p r s b (.state e)
  /-- The host refuses a message. -/
  | send {message : String} {payload : Value} {response : Option Value} {depth : Nat}
      {e : BridgeError} (hf : r.focus = .perform (.send message payload) response depth)
      (h : (b.send message (Expr.interpolate (p.scope s response) payload).value).1 = .error e) :
      Fails p r s b (.bridge e)
  /-- The host refuses a request. -/
  | reply {storeAs : Option String} {e : BridgeError} (hf : r.focus = .waiting storeAs)
      (h : b.reply.1 = .error e) : Fails p r s b (.bridge e)
  /-- The store refuses the response. -/
  | storeAs {path : String} {v : Value} {e : State.WriteError}
      (hf : r.focus = .waiting (some path)) (hv : b.reply.1 = .ok v) (h : s.set path v = .error e) :
      Fails p r s b (.state e)

theorem Fails.ne_cancelled {p : Program} {r : Run} {s : State.Store} {b : Bridge} {e : RunError}
    (h : Fails p r s b e) : e ≠ .cancelled := by
  cases h <;> exact RunError.noConfusion

/-! ### The list -/

/-- What a step that sees no cancellation, or a reply, comes to. -/
inductive Comes (p : Program) (r : Run) (d : Desk) : Move → Prop where
  /-- The run goes on, or stays where it is. -/
  | goes {r' : Run} {d' : Desk} (hr : r'.outcome? = r.outcome?) (hd : d'.store = d.store) :
      Comes p r d ⟨r', d', none⟩
  /-- The run goes on after an effect. -/
  | acts {r' : Run} {d' : Desk} {e : Effect} (hr : r.outcome? = none) (hr' : r'.outcome? = none)
      (he : e.onStore d.store = .ok d'.store) : Comes p r d ⟨r', d', some e⟩
  /-- Nothing is left to do. -/
  | ends (hf : r.focus = .next) (hn : r.frames = []) : Comes p r d ⟨r.finish (.ok ()), d, none⟩
  /-- The step fails. -/
  | fails {r' : Run} {d' : Desk} {e : RunError} (hr : r.outcome? = none)
      (he : Fails p r d.store d.bridge e) (hd : d'.store = d.store) :
      Comes p r d ⟨r'.finish (.error e), d', none⟩

theorem Comes.onward {p : Program} {r : Run} {d : Desk} {m : Move} (hr : r.outcome? = none)
    (hr' : m.run.outcome? = none) (hd : m.desk.store = d.store) (he : m.effect = none) :
    Comes p r d m := by
  obtain ⟨r', d', e⟩ := m
  obtain rfl : e = none := he
  exact .goes (hr'.trans hr.symm) hd

variable (p : Program) (r : Run) (d : Desk)

@[simp] theorem outcome?_goOn : r.goOn.outcome? = none := rfl

@[simp] theorem outcome?_respond (v : Value) : (r.respond v).outcome? = none := by
  unfold respond
  split <;> rfl

theorem outcome?_of_focus {r : Run} {f : Focus} (h : r.focus = f) (hf : ∀ o, f ≠ .finished o) :
    r.outcome? = none := by
  unfold outcome?
  split
  · exact absurd (h.symm.trans ‹_›) (hf _)
  · rfl

theorem focus_of_outcome? {r : Run} {o : Except RunError Unit} (h : r.outcome? = some o) :
    r.focus = .finished o := by
  unfold outcome? at h
  split at h
  · rw [‹r.focus = _›, Option.some.inj h]
  · cases h

theorem comes_next (h : r.focus = .next) : Comes p r d ⟨r.next false, d, none⟩ := by
  have hr : r.outcome? = none := outcome?_of_focus h fun _ => Focus.noConfusion
  unfold next
  split
  · exact .ends h ‹_›
  · exact .onward hr (outcome?_of_focus h fun _ => Focus.noConfusion) rfl rfl
  · exact .onward hr rfl rfl rfl

/-- An effect is carried out, or it is refused. -/
theorem comes_attempt {e : Effect} {after : Run → Run} (hr : r.outcome? = none)
    (ha : ∀ r, (after r).outcome? = none)
    (hf : ∀ {cause d'}, e.apply d = (.error cause, d') →
      Fails p r d.store d.bridge cause ∧ d'.store = d.store) :
    Comes p r d (r.attempt d e after) := by
  unfold attempt
  dsimp only
  split
  · exact .acts hr (ha _) (Effect.onStore_of_apply ‹_›)
  · rename_i happly
    obtain ⟨hfails, hstore⟩ := hf happly
    exact .fails hr hfails hstore

theorem comes_perform {action : Action} {response : Option Value} {depth : Nat}
    (h : r.focus = .perform action response depth) :
    Comes p r d (r.perform p false d response depth action) := by
  have hr : r.outcome? = none := outcome?_of_focus h fun _ => Focus.noConfusion
  cases action with
  | call name =>
    simp only [perform]
    split
    · exact .fails hr (.tooDeep h ‹_›) rfl
    · split
      · exact .fails hr (.unknown h (by omega) ‹_›) rfl
      · exact .onward hr rfl rfl rfl
  | sequence steps => exact .onward hr rfl rfl rfl
  | branch branches =>
    simp only [perform, Bool.false_eq_true, if_false]
    split
    · exact .onward hr rfl rfl rfl
    · exact .onward hr rfl rfl rfl
  | setState path value =>
    simp only [perform, Bool.false_eq_true, if_false]
    refine comes_attempt p r d hr outcome?_goOn fun happly => ?_
    obtain ⟨e, hset, rfl, rfl⟩ := Effect.refused_write happly
    exact ⟨.write h hset, rfl⟩
  | send message payload =>
    simp only [perform, Bool.false_eq_true, if_false]
    refine comes_attempt p r d hr outcome?_goOn fun happly => ?_
    obtain ⟨e, hsend, rfl, hstore⟩ := Effect.refused_send happly
    exact ⟨.send h hsend, hstore⟩
  | request prompt context storeAs onSuccess =>
    simp only [perform, Bool.false_eq_true, if_false]
    exact .onward hr rfl rfl rfl

/-- A reply is received, or the step fails. -/
theorem comes_receive {storeAs : Option String} {reply : Except BridgeError Value} {d' : Desk}
    (h : r.focus = .waiting storeAs) (hreply : d.bridge.reply.1 = reply)
    (hd : d'.store = d.store) : Comes p r d (r.receive storeAs reply d') := by
  have hr : r.outcome? = none := outcome?_of_focus h fun _ => Focus.noConfusion
  unfold receive
  split
  · exact .fails hr (.reply h hreply) hd
  · rename_i v
    split
    · exact .onward hr (outcome?_respond _ _) hd rfl
    · rename_i path
      split
      · rename_i hset
        refine .acts hr (outcome?_respond _ _) ?_
        rw [← hd]
        exact Effect.onStore_of_apply hset
      · rename_i hset
        obtain ⟨e, hrefused, rfl, rfl⟩ := Effect.refused_write hset
        rw [hd] at hrefused
        exact .fails hr (.storeAs h hreply hrefused) hd

theorem comes_reply_of_eq {d' : Desk} (hs : d'.store = d.store) (hb : d'.bridge = d.bridge) :
    Comes p r d (r.reply d') := by
  unfold Run.reply
  split
  · refine comes_receive p r d ‹_› ?_ hs
    rw [hb]
    rfl
  · exact .goes rfl hs

/-- **What a reply comes to.** -/
theorem comes_reply : Comes p r d (r.reply d) := comes_reply_of_eq p r d rfl rfl

@[simp] theorem store_afterAnswer : d.afterAnswer.store = d.store := by
  unfold Desk.afterAnswer
  split <;> rfl

@[simp] theorem bridge_afterAnswer : d.afterAnswer.bridge = d.bridge := by
  unfold Desk.afterAnswer
  split <;> rfl

/-- **What a step comes to that does not see a cancellation.** -/
theorem comes_step : Comes p r d (r.step p false d) := by
  unfold step
  split
  · exact comes_next p r d ‹_›
  · exact comes_perform p r d ‹_›
  · rename_i h
    have hr : r.outcome? = none := outcome?_of_focus h fun _ => Focus.noConfusion
    simp only [Bool.false_eq_true, if_false]
    split
    · exact .goes rfl rfl
    · exact .acts hr rfl rfl
  · rename_i storeAs h
    simp only [Bool.false_eq_true, if_false]
    split
    · exact comes_reply_of_eq p r d (store_afterAnswer d) (bridge_afterAnswer d)
    · exact .goes rfl rfl
  · exact .goes rfl rfl

/-- **A cancellation that is seen ends the run and does nothing else, and any other changes
nothing.** -/
theorem step_of_cancelled :
    r.step p true d =
      if r.looks then ⟨r.finish (.error .cancelled), d, none⟩ else r.step p false d := by
  unfold looks step
  split
  · rename_i h
    unfold next
    rw [h]
    split
    · simp [*]
    · simp [*]
    · simp [*]
  · rename_i action response depth h
    rw [h]
    cases action <;> simp [perform]
  · rename_i h
    have hask : r.isAsking = true := by simp [isAsking, h]
    rw [h]
    simp [cancel, hask]
  · rename_i h
    have hwait : r.isWaiting = true := by simp [isWaiting, h]
    rw [h]
    simp [cancel, hwait]
  · rename_i h
    rw [h]
    simp

/-- A step that finds a cancellation does nothing to its surroundings. -/
theorem still_of_cancelled : ∃ r', r.step p true d = ⟨r', d, none⟩ := by
  rw [step_of_cancelled]
  split
  · exact ⟨_, rfl⟩
  · rename_i hl
    unfold looks at hl
    unfold step
    split
    · exact ⟨_, rfl⟩
    · rename_i action response depth hf
      rw [hf] at hl
      cases action with
      | call name =>
        simp only [perform]
        split
        · exact ⟨_, rfl⟩
        · split <;> exact ⟨_, rfl⟩
      | sequence steps => exact ⟨_, rfl⟩
      | branch branches => exact absurd rfl hl
      | setState path value => exact absurd rfl hl
      | send message payload => exact absurd rfl hl
      | request prompt context storeAs onSuccess => exact absurd rfl hl
    · rename_i hf
      rw [hf] at hl
      exact absurd rfl hl
    · rename_i hf
      rw [hf] at hl
      exact absurd rfl hl
    · exact ⟨_, rfl⟩

/-- A move ends a run with an error, and does nothing to its surroundings. -/
structure Move.Breaks (m : Move) (d : Desk) (e : RunError) : Prop where
  outcome : m.run.outcome? = some (.error e)
  store : m.desk.store = d.store
  effect : m.effect = none

variable {p r d}

theorem attempt_of_refused {e : Effect} {cause : RunError} {d' : Desk} {after : Run → Run}
    (h : e.apply d = (.error cause, d')) (hd : d'.store = d.store) :
    (r.attempt d e after).Breaks d cause := by
  unfold attempt
  dsimp only
  rw [h]
  exact ⟨rfl, hd, rfl⟩

/-- **A step that fails ends the run.** -/
theorem step_of_fails {e : RunError} (h : Fails p r d.store d.bridge e)
    (hr : r.isWaiting = false) : (r.step p false d).Breaks d e := by
  unfold step
  cases h with
  | tooDeep hf hd =>
    simp only [hf, perform, if_pos hd]
    exact ⟨rfl, rfl, rfl⟩
  | unknown hf hd hn =>
    simp only [hf, perform, if_neg (Nat.not_le.2 hd), hn]
    exact ⟨rfl, rfl, rfl⟩
  | write hf hset =>
    simp only [hf, perform, Bool.false_eq_true, if_false]
    exact attempt_of_refused (Effect.apply_write_of_error hset) rfl
  | send hf hsend =>
    simp only [hf, perform, Bool.false_eq_true, if_false]
    obtain ⟨d', happly, hd'⟩ := Effect.apply_send_of_error hsend
    exact attempt_of_refused happly hd'
  | reply hf _ => simp [isWaiting, hf] at hr
  | storeAs hf _ _ => simp [isWaiting, hf] at hr

theorem receive_of_refused {path : String} {v : Value} {e : State.WriteError} {d' : Desk}
    (h : d.store.set path v = .error e) (hd : d'.store = d.store) :
    (r.receive (some path) (.ok v) d').Breaks d (.state e) := by
  unfold receive
  dsimp only
  rw [← hd] at h
  rw [Effect.apply_write_of_error h]
  exact ⟨rfl, hd, rfl⟩

/-- A reply that fails ends the run. -/
theorem reply_of_fails {e : RunError} (h : Fails p r d.store d.bridge e)
    (hr : r.isWaiting = true) : (r.reply d).Breaks d e := by
  unfold Run.reply
  cases h with
  | reply hf hreply =>
    simp only [hf, hreply]
    exact ⟨rfl, rfl, rfl⟩
  | @storeAs path v e hf hreply hset =>
    simp only [hf, hreply]
    exact receive_of_refused hset rfl
  | tooDeep hf _ => simp [isWaiting, hf] at hr
  | unknown hf _ _ => simp [isWaiting, hf] at hr
  | write hf _ => simp [isWaiting, hf] at hr
  | send hf _ => simp [isWaiting, hf] at hr

/-! ### Instants -/

/-- A run that rests stays as it is. -/
theorem step_of_rests {cancelled : Bool} (h : r.rests cancelled d = true) :
    (r.step p cancelled d).run = r := by
  unfold rests at h
  unfold step
  split <;> simp_all

/-- An instant of a run, with the desk that it finds: it is given a step, with its cancellation asked
for or not, or it is given the reply of the bridge. -/
inductive Instant where
  | step (r : Run) (cancelled : Bool) (d : Desk)
  | reply (r : Run) (d : Desk)

namespace Instant

/-- Where the run stands at the instant. -/
def run : Instant → Run
  | step r _ _ => r
  | reply r _ => r

/-- The desk that it finds. -/
def desk : Instant → Desk
  | step _ _ d => d
  | reply _ d => d

/-- Whether its cancellation is asked for. -/
def asked : Instant → Bool
  | step _ cancelled _ => cancelled
  | reply .. => false

/-- What the instant comes to. -/
def move (p : Program) : Instant → Move
  | step r cancelled d => r.step p cancelled d
  | reply r d => r.reply d

/-- The run looks at its cancellation at the instant, and it is asked for. -/
def Sees (i : Instant) : Prop := i.asked = true ∧ i.run.looks = true

/-- The run is not kept from its step: it does not see its cancellation, and where it waits the reply
is there. -/
def Open : Instant → Prop
  | step r cancelled d =>
    (cancelled = true → r.looks = false) ∧ (r.isWaiting = true → d.bridge.answersAtOnce = true)
  | reply r _ => r.isWaiting = true

/-- The step that the run takes at the instant fails on the desk that it finds. -/
structure Fails (p : Program) (i : Instant) (e : RunError) : Prop where
  isOpen : i.Open
  fails : Run.Fails p i.run i.desk.store i.desk.bridge e

/-- The run goes past the instant: it sees no cancellation, and no step fails. -/
structure Succeeds (p : Program) (i : Instant) : Prop where
  unseen : ¬i.Sees
  sound : ∀ e, ¬i.Fails p e

/-- Nothing is left to do at the instant. -/
structure Spent (i : Instant) : Prop where
  focus : i.run.focus = .next
  frames : i.run.frames = []

end Instant

/-- How a run has ended with these instants. -/
inductive Ends (p : Program) : List Instant → Except RunError Unit → Prop where
  /-- Every step has succeeded, and nothing was left to do. -/
  | well {is : List Instant} (h : ∀ i ∈ is, i.Succeeds p) (hi : ∃ i ∈ is, i.Spent) :
      Ends p is (.ok ())
  /-- A step has failed, all before it have succeeded, and none was taken after it. -/
  | badly {before after : List Instant} {i : Instant} {e : RunError}
      (h : ∀ j ∈ before, j.Succeeds p) (hi : i.Fails p e)
      (ha : ∀ j ∈ after, j.run.outcome?.isSome) : Ends p (before ++ i :: after) (.error e)
  /-- The cancellation has been seen, all steps before have succeeded, and none was taken after. -/
  | cancelled {before after : List Instant} {i : Instant} (h : ∀ j ∈ before, j.Succeeds p)
      (hi : i.Sees) (ha : ∀ j ∈ after, j.run.outcome?.isSome) :
      Ends p (before ++ i :: after) (.error .cancelled)

/-- The instants are those of a run that goes from `r₀` to `r`, each where the one before has left
it. -/
inductive Trail (p : Program) (r₀ : Run) : List Instant → Run → Prop where
  | nothing : Trail p r₀ [] r₀
  | more {is : List Instant} {i : Instant} (h : Trail p r₀ is i.run) :
      Trail p r₀ (is ++ [i]) (i.move p).run

/-- A run that has come from `r₀` with these instants is under way or has ended as it should. -/
structure Stands (p : Program) (r₀ : Run) (is : List Instant) (r : Run) : Prop where
  trail : Trail p r₀ is r
  going : r.outcome? = none → ∀ i ∈ is, i.Succeeds p
  ended : ∀ {o}, r.outcome? = some o → Ends p is o

/-- The instants of a run that is driven until it rests. -/
def instants (p : Program) (cancelled : Bool) (r : Run) (d : Desk) : List Instant :=
  if r.rests cancelled d then []
  else
    let m := r.step p cancelled d
    .step r cancelled d :: instants p cancelled m.run m.desk
termination_by r.load p
decreasing_by exact load_step p cancelled r d (Bool.eq_false_iff.2 ‹_›)

theorem outcome?_of_looks {r : Run} (h : r.looks = true) : r.outcome? = none := by
  unfold looks at h
  unfold outcome?
  split at h <;> simp_all

theorem Fails.outcome? {s : State.Store} {b : Bridge} {e : RunError} (h : Fails p r s b e) :
    r.outcome? = none := by
  cases h with
  | tooDeep hf | unknown hf | write hf | send hf | reply hf | storeAs hf =>
    exact outcome?_of_focus hf fun _ => Focus.noConfusion

/-- A reply that is there at once is taken as any other. -/
theorem step_of_answered (hr : r.isWaiting = true) (hb : d.bridge.answersAtOnce = true) :
    r.step p false d = r.reply d.afterAnswer := by
  unfold isWaiting at hr
  unfold step
  split at hr
  · rename_i hf
    simp [hf, hb]
  · cases hr

namespace Instant

variable {i : Instant}

/-- **A step that fails ends the run, with its own error.** -/
theorem Fails.outcome? {e : RunError} (h : i.Fails p e) :
    (i.move p).run.outcome? = some (.error e) := by
  obtain ⟨hopen, hfails⟩ := h
  cases i with
  | reply r d => exact (reply_of_fails hfails hopen).outcome
  | step r cancelled d =>
    obtain ⟨hc, hw⟩ := hopen
    have hstep : (step r cancelled d).move p = r.step p false d := by
      cases cancelled with
      | false => rfl
      | true => exact (step_of_cancelled ..).trans (if_neg (by simp [hc rfl]))
    rw [hstep]
    cases hr : r.isWaiting with
    | false => exact (step_of_fails hfails hr).outcome
    | true =>
      rw [step_of_answered hr (hw hr)]
      refine (reply_of_fails (p := p) (d := d.afterAnswer) ?_ hr).outcome
      rwa [store_afterAnswer, bridge_afterAnswer]

/-- Nothing happens to a run that is over. -/
theorem move_of_over {o : Except RunError Unit} (h : i.run.outcome? = some o) :
    (i.move p).run = i.run := by
  have hf := focus_of_outcome? h
  cases i with
  | step r cancelled d =>
    exact step_of_rests (by simp [rests, show r.focus = .finished o from hf])
  | reply r d =>
    change (r.reply d).run = r
    unfold Run.reply
    rw [show r.focus = .finished o from hf]

/-- A run that is over takes no step that could fail. -/
theorem succeeds_of_over (h : i.run.outcome?.isSome) : i.Succeeds p := by
  refine ⟨fun hs => ?_, fun e he => ?_⟩
  · simp [outcome?_of_looks hs.2] at h
  · simp [he.fails.outcome?] at h

/-- A run that is kept from its step stays as it is. -/
theorem move_of_not_open (hs : ¬i.Sees) (h : ¬i.Open) : (i.move p).run = i.run := by
  cases i with
  | reply r d =>
    change (r.reply d).run = r
    unfold Run.reply
    split
    · exact absurd (by simp [Open, isWaiting, *]) h
    · rfl
  | step r cancelled d =>
    have hc : cancelled = true → r.looks = false := fun hc => by
      simpa [Sees, asked, run, hc] using hs
    have hw : ¬(r.isWaiting = true → d.bridge.answersAtOnce = true) := fun hw => h ⟨hc, hw⟩
    obtain ⟨hr, hb⟩ := Classical.not_imp.1 hw
    refine step_of_rests ?_
    unfold isWaiting at hr
    split at hr
    · rename_i hf
      have hnot : cancelled = false := Bool.eq_false_iff.2 fun hc' => by
        simpa [looks, hf] using hc hc'
      simp [rests, hf, hnot, hb]
    · cases hr

/-- What a run that does not see its cancellation makes of an instant is on the list. -/
theorem comes_move (hs : ¬i.Sees) : Comes p i.run i.desk (i.move p) := by
  cases i with
  | reply r d => exact comes_reply p r d
  | step r cancelled d =>
    have hstep := comes_step p r d
    cases cancelled with
    | false => exact hstep
    | true =>
      have hl : ¬r.looks = true := fun hl => hs ⟨rfl, hl⟩
      change Comes p r d (r.step p true d)
      rwa [step_of_cancelled, if_neg hl]

/-- What a run that is under way makes of an instant. -/
inductive Makes (p : Program) (i : Instant) : Option (Except RunError Unit) → Prop where
  | goesOn (h : i.Succeeds p) : Makes p i none
  | ends (h : i.Succeeds p) (hi : i.Spent) : Makes p i (some (.ok ()))
  | fails {e : RunError} (h : i.Fails p e) : Makes p i (some (.error e))
  | sees (h : i.Sees) : Makes p i (some (.error .cancelled))

/-- **Under way, a run goes past an instant, or ends there, fails or sees its cancellation.** -/
theorem makes (h : i.run.outcome? = none) : i.Makes p (i.move p).run.outcome? := by
  by_cases hs : i.Sees
  · have hcancelled : (i.move p).run.outcome? = some (.error .cancelled) := by
      obtain ⟨hasked, hlooks⟩ := hs
      cases i with
      | reply r d => cases hasked
      | step r cancelled d =>
        obtain rfl : cancelled = true := hasked
        change (r.step p true d).run.outcome? = _
        rw [step_of_cancelled, if_pos (show r.looks = true from hlooks)]
        rfl
    rw [hcancelled]
    exact .sees hs
  by_cases hf : ∃ e, i.Fails p e
  · obtain ⟨e, he⟩ := hf
    rw [he.outcome?]
    exact .fails he
  have hsucceeds : i.Succeeds p := ⟨hs, not_exists.1 hf⟩
  have hcomes := comes_move (p := p) hs
  have hopen : (i.move p).run.outcome? ≠ none → i.Open := fun hm =>
    Classical.byContradiction fun hclosed => hm (move_of_not_open (p := p) hs hclosed ▸ h)
  generalize i.move p = m at hcomes hopen ⊢
  cases hcomes with
  | goes hr _ =>
    rw [show _ = none from hr.trans h]
    exact .goesOn hsucceeds
  | acts _ hr _ =>
    rw [show _ = none from hr]
    exact .goesOn hsucceeds
  | ends hfocus hframes => exact .ends hsucceeds ⟨hfocus, hframes⟩
  | fails _ he _ => exact absurd ⟨hopen nofun, he⟩ (hsucceeds.sound _)

end Instant

/-- Nothing that comes after the end of a run changes how it has ended. -/
theorem Ends.more {is : List Instant} {i : Instant} {o : Except RunError Unit} (h : Ends p is o)
    (hi : i.run.outcome?.isSome) : Ends p (is ++ [i]) o := by
  have hafter {after : List Instant} (ha : ∀ j ∈ after, j.run.outcome?.isSome) :
      ∀ j ∈ after ++ [i], j.run.outcome?.isSome :=
    List.forall_mem_append.2 ⟨ha, List.forall_mem_singleton.2 hi⟩
  cases h with
  | well h hspent =>
    obtain ⟨j, hj, hspent⟩ := hspent
    exact .well (List.forall_mem_append.2 ⟨h, List.forall_mem_singleton.2 (Instant.succeeds_of_over hi)⟩)
      ⟨j, List.mem_append_left _ hj, hspent⟩
  | badly h hf ha =>
    rw [List.append_assoc]
    exact .badly h hf (hafter ha)
  | cancelled h hs ha =>
    rw [List.append_assoc]
    exact .cancelled h hs (hafter ha)

theorem Ends.succeeds {is : List Instant} (h : Ends p is (.ok ())) : ∀ i ∈ is, i.Succeeds p := by
  cases h with
  | well h _ => exact h

/-- A run is cancelled only where it has seen its cancellation. -/
theorem Ends.exists_seen {is : List Instant} (h : Ends p is (.error .cancelled)) :
    ∃ i ∈ is, i.Sees := by
  cases h with
  | badly _ hf _ => exact absurd rfl hf.fails.ne_cancelled
  | cancelled _ hs _ => exact ⟨_, List.mem_append_right _ List.mem_cons_self, hs⟩

theorem asked_of_mem_instants {cancelled : Bool} {i : Instant}
    (h : i ∈ r.instants p cancelled d) : i.asked = cancelled := by
  induction r, d using drive.induct p cancelled
  case case1 r d hr =>
    rw [instants, if_pos hr] at h
    cases h
  case case2 r d hr m ih =>
    rw [instants, if_neg hr] at h
    rcases List.mem_cons.1 h with rfl | h
    · rfl
    · exact ih h

namespace Stands

variable {r₀ : Run} {is : List Instant}

/-- A run that is under way. -/
theorem start (h : r.outcome? = none) : Stands p r [] r :=
  ⟨.nothing, fun _ => List.forall_mem_nil _, fun h' => by simp [h] at h'⟩

/-- **A run that stands as it should does so after one more instant.** -/
theorem more {i : Instant} (h : Stands p r₀ is i.run) :
    Stands p r₀ (is ++ [i]) (i.move p).run := by
  suffices hstands : ((i.move p).run.outcome? = none → ∀ j ∈ is ++ [i], j.Succeeds p) ∧
      ∀ {o}, (i.move p).run.outcome? = some o → Ends p (is ++ [i]) o from
    ⟨h.trail.more, hstands.1, hstands.2⟩
  cases ho : i.run.outcome? with
  | some o =>
    rw [Instant.move_of_over ho, ho]
    refine ⟨nofun, fun ho' => ?_⟩
    cases ho'
    exact (h.ended ho).more (by simp [ho])
  | none =>
    have hbefore := h.going ho
    have hall (hi : i.Succeeds p) : ∀ j ∈ is ++ [i], j.Succeeds p :=
      List.forall_mem_append.2 ⟨hbefore, List.forall_mem_singleton.2 hi⟩
    have hmakes := i.makes (p := p) ho
    generalize (i.move p).run.outcome? = out at hmakes ⊢
    cases hmakes with
    | goesOn hi => exact ⟨fun _ => hall hi, nofun⟩
    | ends hi hspent =>
      refine ⟨nofun, fun ho' => ?_⟩
      cases ho'
      exact .well (hall hi) ⟨i, List.mem_append_right _ (List.mem_singleton_self i), hspent⟩
    | fails hi =>
      refine ⟨nofun, fun ho' => ?_⟩
      cases ho'
      exact .badly hbefore hi (List.forall_mem_nil _)
    | sees hi =>
      refine ⟨nofun, fun ho' => ?_⟩
      cases ho'
      exact .cancelled hbefore hi (List.forall_mem_nil _)

/-- Driving a run is one instant after the other. -/
theorem drive {cancelled : Bool} (h : Stands p r₀ is r) :
    Stands p r₀ (is ++ r.instants p cancelled d) (r.drive p cancelled d).1 := by
  induction r, d using drive.induct p cancelled generalizing is
  case case1 r d hr =>
    rw [instants, Run.drive, if_pos hr, if_pos hr, List.append_nil]
    exact h
  case case2 r d hr m ih =>
    have hmore := ih (Stands.more (i := .step r cancelled d) h)
    rw [instants, Run.drive, if_neg hr, if_neg hr]
    rwa [List.append_assoc] at hmore

end Stands

/-- Whether a run is suspended. -/
def suspended (r : Run) : Bool := r.isWaiting || r.isAsking

/-- A run that is suspended is not over. -/
theorem outcome?_of_suspended {r : Run} (h : r.suspended = true) : r.outcome? = none := by
  unfold suspended isWaiting isAsking at h
  unfold outcome?
  cases hf : r.focus <;> simp_all

/-- A run that is driven is over then, or is suspended. -/
theorem suspended_drive (p : Program) (cancelled : Bool) (r : Run) (d : Desk) :
    (r.drive p cancelled d).1.suspended = true ∨ (r.drive p cancelled d).1.outcome?.isSome := by
  fun_induction drive p cancelled r d with
  | case1 r d h =>
    unfold rests at h
    unfold suspended isWaiting isAsking outcome?
    cases hf : r.focus <;> simp_all
  | case2 r d _ m ih => exact ih

/-- Driving a run takes something off its load, unless it is over or waits or pauses. -/
theorem load_drive_lt_or (p : Program) {cancelled : Bool} {r : Run} {d : Desk}
    (hw : cancelled = true ∨ r.isWaiting = false) (hl : 0 < d.left) :
    (r.drive p cancelled d).1.load p < r.load p ∨ (r.drive p cancelled d).1.outcome?.isSome := by
  cases ho : r.outcome? with
  | some o =>
    have hf : r.focus = .finished o := focus_of_outcome? ho
    rw [drive, if_pos (by simp [rests, hf])]
    exact .inr (by simp [ho])
  | none =>
    refine .inl (load_drive_lt p cancelled ?_)
    unfold outcome? at ho
    unfold isWaiting at hw
    unfold rests
    cases hf : r.focus <;> simp_all
    omega

end Run

/-! ### Turns -/

namespace Run

/-- One turn of a run. -/
inductive Turn (p : Program) : Run → Run → Prop where
  | step (cancelled : Bool) (r : Run) (d : Desk) : Turn p r (r.step p cancelled d).run
  | receive {r : Run} {storeAs : Option String} (h : r.focus = .waiting storeAs)
      (reply : Except BridgeError Value) (d : Desk) : Turn p r (r.receive storeAs reply d).run
  | cancel (r : Run) : Turn p r r.cancel

/-- Any number of turns. -/
def Turns (p : Program) : Run → Run → Prop := Relation.ReflTransGen (Turn p)

theorem turns_reply (p : Program) (r : Run) (d : Desk) : Turns p r (r.reply d).run := by
  unfold reply
  split
  · exact .single (.receive ‹_› _ _)
  · exact .refl

theorem turns_drive (p : Program) (cancelled : Bool) (r : Run) (d : Desk) :
    Turns p r (r.drive p cancelled d).1 := by
  fun_induction drive p cancelled r d with
  | case1 => exact .refl
  | case2 r d _ m ih => exact .head (.step cancelled r d) ih

/-- What every turn keeps holds after any number of turns. -/
theorem Turns.keep {p : Program} {P : Run → Prop} (hstep : ∀ r r', P r → Turn p r r' → P r')
    {r r' : Run} (h : Turns p r r') (hr : P r) : P r' := by
  induction h with
  | refl => exact hr
  | tail _ hturn ih => exact hstep _ _ ih hturn

end Run

namespace Performance

theorem turns_drive (f : Performance) (cancelled : Bool) (d : Desk) :
    Run.Turns f.program f.run (f.drive cancelled d).1.run := Run.turns_drive ..

theorem turns_reply (f : Performance) (cancelled : Bool) (d : Desk) :
    Run.Turns f.program f.run (f.reply cancelled d).1.run :=
  (Run.turns_reply f.program f.run d).trans (Run.turns_drive ..)

theorem turns_resume (f : Performance) (cancelled : Bool) (d : Desk) :
    Run.Turns f.program f.run (f.resume cancelled d).1.run := turns_drive ..

end Performance

end LivePanel
