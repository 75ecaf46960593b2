import LivePanel.Proofs.Orchestra.Building
import LivePanel.Proofs.Run.Steps
import Mathlib.Data.List.Induction

/-!
# What is told of a run

A run is followed through whatever comes to it: it takes turns in orchestras as it finds them, with
other stores, other answers of the host and other tokens cancelled each time; it takes steps by
itself, so that a cancellation may come between any two of them; it is let go. `Errand.instants` lists
the steps that the run takes meanwhile, each with the desk that it finds; `Told` says what its errand
tells, and `Verdict` what that should be, given whether all these steps have succeeded.

## What is proved

* `startRun_eq`: a run of a defined action tells first that it has started, and goes on as an
  errand.
* `exists_told`: whatever comes to a run, it has told nothing since then while it is under way, and
  one event of its end when it is over.
* `startRun_tells_one_end`: this, and that nothing is told later, that a run that has taken a turn
  is over or waits or pauses, and that it is over after finitely many answers; and that nothing at
  all is told of a run of an action that is not defined.
-/

namespace LivePanel.Orchestra

open Run (Stands Ends)

variable {σ : Type}

/-! ### What comes to a run -/

/-- What may come to a run. -/
inductive Moment (σ : Type) where
  /-- It takes one step on a desk, with its token cancelled or not. -/
  | step (cancelled : Bool) (desk : Desk)
  /-- It takes a turn in an orchestra. -/
  | turn (s : Signal) (o : Orchestra σ)
  /-- It is let go. -/
  | letGo (o : Orchestra σ)

/-- The same dispatch with its run somewhere else. -/
def Dispatch.withRun (d : Dispatch) (r : Run) : Dispatch :=
  { d with performance := { d.performance with run := r } }

/-- The signal that a run waits for: a reply, or to be taken up again. -/
def awaited (r : Run) : Signal := if r.isWaiting then .reply else .go

/-- Whether an errand is a run that is suspended. -/
def Errand.pauses : Errand → Bool
  | .running d => d.performance.run.suspended
  | _ => false

/-- Whether a run finds its token cancelled. -/
def Moment.cancels (m : Moment σ) (token : Option Nat) : Bool :=
  match m with
  | .step cancelled _ => cancelled
  | .turn _ o => o.isCancelled token
  | .letGo _ => false

section

variable [Hosted σ]

/-- The errand after a moment. Only a run that is suspended can be let go. -/
def Errand.after (t : Errand) (m : Moment σ) : Errand :=
  match m with
  | .step cancelled desk =>
    match t with
    | .running d =>
      .running (d.withRun (d.performance.run.step d.performance.program cancelled desk).run)
    | t => t
  | .turn s o => (t.turn s o).errand
  | .letGo _ => if t.pauses then .done .nothing else t

/-- The steps and replies of a run that is taken up at a signal. -/
def Dispatch.instants (d : Dispatch) (s : Signal) (o : Orchestra σ) : List Run.Instant :=
  let f := d.performance
  match s with
  | .go => f.run.instants f.program (o.isCancelled d.token) o.desk
  | .reply =>
    if o.isCancelled d.token then f.run.instants f.program true o.desk
    else
      .reply f.run o.desk ::
        (f.run.reply o.desk).run.instants f.program false (f.run.reply o.desk).desk
  | _ => []

/-- The steps and replies of the run of an errand in a moment. -/
def Moment.instants (m : Moment σ) (t : Errand) : List Run.Instant :=
  match t, m with
  | .running d, .step cancelled desk => [.step d.performance.run cancelled desk]
  | .running d, .turn s o => d.instants s o
  | _, _ => []

/-- The steps and replies of the run of an errand while one thing after the other comes to it. -/
def Errand.instants (t : Errand) : List (Moment σ) → List Run.Instant
  | [] => []
  | m :: ms => m.instants t ++ (t.after m).instants ms

/-- What an errand tells in a moment. -/
def Moment.Tells (m : Moment σ) (t : Errand) (es : List Event) : Prop :=
  match m with
  | .step _ _ => es = []
  | .turn s o => o.scene.Tells es (t.turn s o).orchestra.scene
  | .letGo o => if t.pauses then o.scene.Tells es (t.letGo o).scene else es = []

/-- What an errand tells while one thing after the other comes to it, and what it is then. -/
inductive Told (t : Errand) : List (Moment σ) → List Event → Errand → Prop where
  | nothing : Told t [] [] t
  | more {ms : List (Moment σ)} {m : Moment σ} {es es' : List Event} {t' : Errand} :
      Told t ms es t' → m.Tells t' es' → Told t (ms ++ [m]) (es ++ es') (t'.after m)

/-! ### What should be told -/

/-- The run of a dispatch that has come from `d` stands as it should after these moments, and its
cancellation has been asked for only where its token was cancelled. -/
structure Dispatch.StandsAfter (d : Dispatch) (ms : List (Moment σ)) (r : Run) : Prop where
  stands : Stands d.performance.program d.performance.run ((Errand.running d).instants ms) r
  asked : ∀ i ∈ (Errand.running d).instants ms, i.asked = true →
    ∃ m ∈ ms, m.cancels d.token = true

/-- What is told of the run of a dispatch after its start, and what has become of its errand. -/
inductive Verdict (d : Dispatch) (ms : List (Moment σ)) : List Event → Errand → Prop where
  /-- The run is under way, or its end has not been seen yet. -/
  | underWay {r : Run} (h : d.StandsAfter ms r) : Verdict d ms [] (.running (d.withRun r))
  /-- All its steps have succeeded. -/
  | completed {report : RunReport} (hs : report.state = .succeeded) (he : report.error = none)
      (hw : Ends d.performance.program ((Errand.running d).instants ms) (.ok ())) :
      Verdict d ms
        [d.performance.event (.actionCompleted d.performance.key d.performance.action)]
        (.done (.reported (.ok report)))
  /-- One of its steps has failed. -/
  | failed {report : RunReport} {e : RunError} (hs : report.state = .failed)
      (he : report.error = some e.message) (hc : e ≠ .cancelled)
      (hw : Ends d.performance.program ((Errand.running d).instants ms) (.error e)) :
      Verdict d ms
        [d.performance.event (.actionFailed d.performance.key d.performance.action e.message)]
        (.done (.reported (.ok report)))
  /-- The run has seen its token cancelled. -/
  | cancelled {report : RunReport} (hs : report.state = .cancelled) (he : report.error = none)
      (hm : ∃ m ∈ ms, m.cancels d.token = true)
      (hw : Ends d.performance.program ((Errand.running d).instants ms) (.error .cancelled)) :
      Verdict d ms
        [d.performance.event (.actionCancelled d.performance.key d.performance.action
          report.skippedSteps)]
        (.done (.reported (.ok report)))
  /-- The run was let go while it was suspended. -/
  | abandoned {r : Run} (h : d.StandsAfter ms r) (hr : r.suspended = true)
      (hm : ∃ o, .letGo o ∈ ms) :
      Verdict d ms
        [d.performance.event (.actionCancelled d.performance.key d.performance.action r.queued)]
        (.done .nothing)

theorem Errand.instants_append (t : Errand) (ms ms' : List (Moment σ)) :
    t.instants (ms ++ ms') = t.instants ms ++ (ms.foldl after t).instants ms' := by
  induction ms generalizing t with
  | nil => rfl
  | cons m ms ih => rw [List.cons_append, instants, instants, ih, List.append_assoc, List.foldl_cons]

theorem Told.errand {t t' : Errand} {ms : List (Moment σ)} {es : List Event} (h : Told t ms es t') :
    ms.foldl Errand.after t = t' := by
  induction h with
  | nothing => rfl
  | more _ _ ih => rw [List.foldl_append, ih, List.foldl_cons, List.foldl_nil]

theorem cancels_of_asked {d : Dispatch} {m : Moment σ} {i : Run.Instant}
    (hi : i ∈ m.instants (.running d)) (h : i.asked = true) : m.cancels d.token = true := by
  cases m with
  | letGo o => cases hi
  | step cancelled desk =>
    obtain rfl := List.mem_singleton.1 hi
    exact h
  | turn s o =>
    change o.isCancelled d.token = true
    cases s with
    | go => rwa [← Run.asked_of_mem_instants hi]
    | reply =>
      change i ∈ if _ then _ else _ at hi
      split at hi
      · assumption
      · rcases List.mem_cons.1 hi with rfl | hi
        · cases h
        · rw [Run.asked_of_mem_instants hi] at h
          cases h
    | _ => cases hi

/-- A run that stands as it should does so after one more moment, if it does so after what it takes
in it. -/
theorem Dispatch.StandsAfter.onward {d : Dispatch} {ms : List (Moment σ)} {r r' : Run}
    (h : d.StandsAfter ms r) (ht : ms.foldl Errand.after (.running d) = .running (d.withRun r))
    {m : Moment σ}
    (hr : Stands d.performance.program d.performance.run
      ((Errand.running d).instants ms ++ m.instants (.running (d.withRun r))) r') :
    d.StandsAfter (ms ++ [m]) r' := by
  have hi : (Errand.running d).instants (ms ++ [m]) =
      (Errand.running d).instants ms ++ m.instants (.running (d.withRun r)) := by
    rw [Errand.instants_append, ht, Errand.instants, Errand.instants, List.append_nil]
  refine ⟨by rwa [hi], fun i hmem hasked => ?_⟩
  rw [hi] at hmem
  rcases List.mem_append.1 hmem with hmem | hmem
  · obtain ⟨m', hm', hc⟩ := h.asked i hmem hasked
    exact ⟨m', List.mem_append_left _ hm', hc⟩
  · exact ⟨m, List.mem_append_right _ (List.mem_singleton_self m),
      cancels_of_asked (d := d.withRun r) hmem hasked⟩

theorem Dispatch.StandsAfter.of_instants {d : Dispatch} {ms : List (Moment σ)} {r : Run}
    (h : d.StandsAfter ms r) {m : Moment σ}
    (hi : (Errand.running d).instants (ms ++ [m]) = (Errand.running d).instants ms) :
    d.StandsAfter (ms ++ [m]) r := by
  refine ⟨by rw [hi]; exact h.stands, fun i hmem hasked => ?_⟩
  rw [hi] at hmem
  obtain ⟨m', hm', hc⟩ := h.asked i hmem hasked
  exact ⟨m', List.mem_append_left _ hm', hc⟩

/-- What comes to a run that is over does not change its verdict. -/
theorem Verdict.more {d : Dispatch} {ms : List (Moment σ)} {es : List Event} {t : Errand}
    (h : Verdict d ms es t) {m : Moment σ}
    (hi : (Errand.running d).instants (ms ++ [m]) = (Errand.running d).instants ms) :
    Verdict d (ms ++ [m]) es t := by
  cases h with
  | underWay h => exact .underWay (h.of_instants hi)
  | completed hs he hw => exact .completed hs he (hi ▸ hw)
  | failed hs he hc hw => exact .failed hs he hc (hi ▸ hw)
  | cancelled hs he hm hw =>
    obtain ⟨m', hm', hc⟩ := hm
    exact .cancelled hs he ⟨m', List.mem_append_left _ hm', hc⟩ (hi ▸ hw)
  | abandoned h hr hm =>
    obtain ⟨o, ho⟩ := hm
    exact .abandoned (h.of_instants hi) hr ⟨o, List.mem_append_left _ ho⟩

/-- A run that has ended as it should is told of as it should. -/
theorem verdict_of_closing {d : Dispatch} {ms : List (Moment σ)} {r : Run} {e : Event}
    (h : d.StandsAfter ms r) (he : (d.withRun r).performance.closing? = some e)
    (store : State.Store) :
    Verdict d ms [e] (.done (.reported (.ok ((d.withRun r).performance.report store)))) := by
  unfold Performance.closing? at he
  split at he
  · rename_i hf
    cases he
    have hout : r.outcome? = some (.ok ()) := by
      rw [Run.outcome?, show r.focus = _ from hf]
    refine .completed ?_ ?_ (h.stands.ended hout)
    · simp only [Performance.report, Run.state, hf]
    · simp only [Performance.report, Run.failure?, hf, Option.map_none]
  · rename_i hf
    cases he
    have hout : r.outcome? = some (.error .cancelled) := by
      rw [Run.outcome?, show r.focus = _ from hf]
    have hstate : (d.withRun r).performance.run.state = .cancelled := by
      rw [Run.state, hf]
    have hevent : (d.withRun r).performance.cancelledEvent =
        d.performance.event (.actionCancelled d.performance.key d.performance.action
          ((d.withRun r).performance.report store).skippedSteps) := by
      rw [Performance.report, if_pos hstate]
      rfl
    rw [hevent]
    obtain ⟨i, hi, hsees⟩ := (h.stands.ended hout).exists_seen
    refine .cancelled hstate ?_ (h.asked i hi hsees.1) (h.stands.ended hout)
    simp only [Performance.report, Run.failure?, hf, Option.map_none]
  · rename_i cause hcause hf
    cases he
    have hout : r.outcome? = some (.error cause) := by
      rw [Run.outcome?, show r.focus = _ from hf]
    refine .failed ?_ ?_ hcause (h.stands.ended hout)
    · simp only [Performance.report, Run.state, hf]
    · simp only [Performance.report, Run.failure?, hf, Option.map_some]
  · cases he

/-! ### What is told -/

omit [Hosted σ] in
/-- That the state has changed, and how the build came out that follows, belongs to no run. -/
theorem tells_changed (o : Orchestra σ) (key : String) (l : Loaded) :
    ∃ es, o.scene.Tells es ((o.tell (.stateChanged key o.store.revision)).rebuild key l).scene ∧
      ∀ x ∈ es, x.run = none :=
  ⟨_, (tells_tell _ _).trans (tells_rebuild _ _ _), by simp [builtEvent]⟩

omit [Hosted σ] in
/-- The end of a run is told before anything else, and what else is told belongs to no run. -/
theorem tells_settle {d : Dispatch} {o : Orchestra σ} {e : Event}
    (h : d.performance.closing? = some e) :
    (∃ es, o.scene.Tells (e :: es) (settle d o).orchestra.scene ∧ ∀ x ∈ es, x.run = none) ∧
      (settle d o).errand = .done (.reported (.ok (d.performance.report o.store))) := by
  unfold settle
  simp only [h]
  refine ⟨?_, rfl⟩
  have hend : o.scene.Tells [e] (o.emit e).scene := .emitted e .still
  split
  · obtain ⟨es, hes, hnone⟩ := tells_changed ((o.emit e).record .action (some d.performance.key)
      (d.performance.action ++ ": " ++ (d.performance.report (o.emit e).store).state.name))
      d.performance.key d.loaded
    exact ⟨es, hend.trans hes, hnone⟩
  · exact ⟨[], hend, by simp⟩

omit [Hosted σ] in
theorem settle_of_none {d : Dispatch} {o : Orchestra σ} (h : d.performance.closing? = none) :
    settle d o = ⟨o, .running d, []⟩ := by
  unfold settle
  simp only [h]

/-- A run is taken up at a signal: it is driven, and the reply is taken first that it may wait
for. -/
structure Driven (d : Dispatch) (s : Signal) (o : Orchestra σ) (r : Run) : Prop where
  /-- It stands as it should. -/
  stands : ∀ {r₀ is}, Stands d.performance.program r₀ is d.performance.run →
    Stands d.performance.program r₀ (is ++ d.instants s o) r
  /-- It is suspended, or over. -/
  rests : r.suspended = true ∨ r.outcome?.isSome
  /-- It has come nearer to its end, if this is the signal that it waits for. -/
  nearer : s = awaited d.performance.run → 0 < o.left →
    r.load d.performance.program < d.performance.run.load d.performance.program ∨
      r.outcome?.isSome

theorem driven_go (d : Dispatch) (o : Orchestra σ) :
    Driven d .go o (d.performance.drive (o.isCancelled d.token) o.desk).1.run where
  stands h := h.drive
  rests := Run.suspended_drive ..
  nearer hs hl := by
    refine Run.load_drive_lt_or _ (.inr ?_) hl
    unfold awaited at hs
    split at hs
    · cases hs
    · exact Bool.eq_false_iff.2 ‹_›

theorem driven_cancelled (d : Dispatch) (o : Orchestra σ) (hc : o.isCancelled d.token = true) :
    Driven d .reply o (d.performance.drive true o.desk).1.run where
  stands h := by
    rw [Dispatch.instants, if_pos hc]
    exact h.drive
  rests := Run.suspended_drive ..
  nearer _ hl := Run.load_drive_lt_or _ (.inl rfl) hl

theorem driven_reply (d : Dispatch) (o : Orchestra σ) (hc : ¬o.isCancelled d.token = true) :
    Driven d .reply o (d.performance.reply false o.desk).1.run where
  stands h := by
    rw [Dispatch.instants, if_neg hc, List.append_cons]
    exact (Stands.more (i := .reply d.performance.run o.desk) h).drive
  rests := Run.suspended_drive ..
  nearer hs _ := by
    refine .inl (d.performance.load_reply_lt false o.desk ?_)
    unfold awaited at hs
    split at hs
    · assumption
    · cases hs

/-- A turn drives a run, or does nothing. -/
theorem turn_running (d : Dispatch) (s : Signal) (o : Orchestra σ) :
    (s ≠ .go ∧ s ≠ .reply ∧ (Errand.running d).turn s o = ⟨o, .running d, []⟩ ∧
        d.instants s o = []) ∨
      ∃ r desk, (Errand.running d).turn s o = settle (d.withRun r) (o.withDesk desk) ∧
        Driven d s o r := by
  cases s with
  | go => exact .inr ⟨_, _, rfl, driven_go d o⟩
  | reply =>
    refine .inr ?_
    cases hc : o.isCancelled d.token with
    | true =>
      refine ⟨_, (d.performance.drive true o.desk).2, ?_, driven_cancelled d o hc⟩
      unfold Errand.turn
      simp only [hc, if_true]
      rfl
    | false =>
      refine ⟨_, (d.performance.reply false o.desk).2, ?_, driven_reply d o (by simp [hc])⟩
      unfold Errand.turn
      simp only [hc, Bool.false_eq_true, if_false]
      rfl
  | _ => exact .inl ⟨nofun, nofun, rfl, rfl⟩

theorem tells_turn {o : Orchestra σ} {t : Errand} {s : Signal} {es : List Event} {turn : Turn σ}
    (h : t.turn s o = turn) (hes : o.scene.Tells es turn.orchestra.scene) :
    (Moment.turn s o).Tells t es := by
  change o.scene.Tells es (t.turn s o).orchestra.scene
  rwa [h]

theorem after_turn {o : Orchestra σ} {t : Errand} {s : Signal} {turn : Turn σ}
    (h : t.turn s o = turn) : t.after (.turn s o) = turn.errand :=
  congrArg Turn.errand h

omit [Hosted σ] in
theorem run_closing {f : Performance} {e : Event} (h : f.closing? = some e) :
    e.run = some f.id := by
  unfold Performance.closing? at h
  split at h <;> cases h <;> rfl

omit [Hosted σ] in
theorem filter_of_own {e : Event} {es : List Event} {id : Nat} (he : e.run = some id)
    (hes : ∀ x ∈ es, x.run = none) : (e :: es).filter (·.run.isSome) = [e] := by
  rw [List.filter_cons_of_pos (by simp [he]), List.filter_eq_nil_iff.2]
  intro x hx
  simp [hes x hx]

/-- Nothing is told of a run that is over, and it stays so. -/
theorem done_after (r : Outcome) (m : Moment σ) :
    (Errand.done r).after m = .done r ∧ m.Tells (.done r) [] := by
  cases m with
  | step cancelled desk => exact ⟨rfl, rfl⟩
  | turn s o =>
    have hturn : (Errand.done r).turn s o = ⟨o, .done r, []⟩ := by cases s <;> rfl
    exact ⟨after_turn hturn, tells_turn hturn .still⟩
  | letGo o => exact ⟨rfl, rfl⟩

theorem told_of_done (r : Outcome) (ms : List (Moment σ)) : Told (.done r) ms [] (.done r) := by
  induction ms using List.reverseRecOn with
  | nil => exact .nothing
  | append_singleton ms m ih =>
    obtain ⟨hafter, htells⟩ := done_after r m
    have hmore := ih.more htells
    rwa [hafter] at hmore

/-- Whatever comes next to a run that is under way, it is told of as it should be. -/
theorem exists_verdict {d : Dispatch} {ms : List (Moment σ)} {r : Run} (h : d.StandsAfter ms r)
    (ht : ms.foldl Errand.after (.running d) = .running (d.withRun r)) (m : Moment σ) :
    ∃ es, m.Tells (.running (d.withRun r)) es ∧
      Verdict d (ms ++ [m]) (es.filter (·.run.isSome))
        ((Errand.running (d.withRun r)).after m) := by
  have hquiet (hi : m.instants (.running (d.withRun r)) = []) : d.StandsAfter (ms ++ [m]) r :=
    h.onward ht (by rw [hi, List.append_nil]; exact h.stands)
  cases m with
  | step cancelled desk => exact ⟨[], rfl, .underWay (h.onward ht h.stands.more)⟩
  | turn s o =>
    rcases turn_running (d.withRun r) s o with ⟨-, -, hturn, hnone⟩ | ⟨r', desk, hturn, hdriven⟩
    · refine ⟨[], tells_turn hturn .still, ?_⟩
      rw [after_turn hturn]
      exact .underWay (hquiet hnone)
    · have h' : d.StandsAfter (ms ++ [.turn s o]) r' := h.onward ht (hdriven.stands h.stands)
      have hdesk : o.scene.Tells [] (o.withDesk desk).scene := Scene.tells_nil_iff.2 rfl
      cases hclosing : (d.withRun r').performance.closing? with
      | none =>
        rw [show (d.withRun r).withRun r' = d.withRun r' from rfl, settle_of_none hclosing] at hturn
        refine ⟨[], tells_turn hturn hdesk, ?_⟩
        rw [after_turn hturn]
        exact .underWay h'
      | some e =>
        obtain ⟨⟨es, hes, hnone⟩, hdone⟩ := tells_settle (o := o.withDesk desk) hclosing
        refine ⟨e :: es, tells_turn hturn (hdesk.trans hes), ?_⟩
        rw [after_turn hturn, filter_of_own (run_closing hclosing) hnone]
        exact hdone ▸ verdict_of_closing h' hclosing _
  | letGo o =>
    cases hp : (Errand.running (d.withRun r)).pauses with
    | false =>
      refine ⟨[], ?_, ?_⟩
      · simp [Moment.Tells, hp]
      · rw [Errand.after, if_neg (by simp [hp])]
        exact .underWay (hquiet rfl)
    | true =>
      have hlet : (Errand.running (d.withRun r)).letGo o =
          o.emit (d.withRun r).performance.cancelledEvent := by
        have hcancel : r.cancel = r.finish (.error .cancelled) := if_pos hp
        have hlet : (d.withRun r).performance.letGo =
            (d.withRun (r.finish (.error .cancelled))).performance := by
          rw [← hcancel]
          rfl
        unfold Errand.letGo
        simp only [hlet]
        rfl
      refine ⟨[(d.withRun r).performance.cancelledEvent], ?_, ?_⟩
      · simp only [Moment.Tells, hp, if_true]
        rw [hlet]
        exact .emitted _ .still
      · rw [Errand.after, if_pos hp]
        exact .abandoned (hquiet rfl) hp ⟨o, List.mem_append_right _ (List.mem_singleton_self _)⟩

/-- A run is under way and nothing has been told of its end, or it is over. -/
theorem Verdict.underWay_or {d : Dispatch} {ms : List (Moment σ)} {es : List Event} {t : Errand}
    (h : Verdict d ms es t) :
    (∃ r, t = .running (d.withRun r) ∧ d.StandsAfter ms r ∧ es = []) ∨ ∃ r, t = .done r := by
  cases h with
  | underWay h => exact .inl ⟨_, rfl, h, rfl⟩
  | _ => exact .inr ⟨_, rfl⟩

/-- **Whatever comes to a run, it is told of as it should be.** -/
theorem exists_told {d : Dispatch} (h : d.performance.run.outcome? = none)
    (ms : List (Moment σ)) : ∃ es t, Told (.running d) ms es t ∧
      Verdict d ms (es.filter (·.run.isSome)) t := by
  induction ms using List.reverseRecOn with
  | nil => exact ⟨[], .running d, .nothing, .underWay ⟨.start h, List.forall_mem_nil _⟩⟩
  | append_singleton ms m ih =>
    obtain ⟨es, t, htold, hverdict⟩ := ih
    rcases hverdict.underWay_or with ⟨r, rfl, hr, hown⟩ | ⟨r, rfl⟩
    · obtain ⟨es', htells, hverdict'⟩ := exists_verdict hr htold.errand m
      refine ⟨es ++ es', _, htold.more htells, ?_⟩
      rwa [List.filter_append, hown, List.nil_append]
    · obtain ⟨hafter, htells⟩ := done_after r m
      have hmore := htold.more htells
      rw [hafter, List.append_nil] at hmore
      refine ⟨es, _, hmore, hverdict.more ?_⟩
      rw [Errand.instants_append, htold.errand]
      exact List.append_nil _

/-! ### Coming to an end -/

omit [Hosted σ] in
/-- A run that is over is done with when it takes a turn. -/
theorem done_of_over {d : Dispatch} {o : Orchestra σ} (h : d.performance.run.outcome?.isSome) :
    ∃ r, (settle d o).errand = .done r := by
  obtain ⟨outcome, ho⟩ := Option.isSome_iff_exists.1 h
  have hf := Run.focus_of_outcome? ho
  cases hclosing : d.performance.closing? with
  | some e => exact ⟨_, (tells_settle hclosing).2⟩
  | none =>
    unfold Performance.closing? at hclosing
    rw [hf] at hclosing
    cases outcome with
    | ok u => cases hclosing
    | error e => cases e <;> cases hclosing

/-- **A run that has been taken up is suspended again, or is over.** -/
theorem pauses_or_done (d : Dispatch) {s : Signal} (hs : s = .go ∨ s = .reply) (o : Orchestra σ) :
    ((Errand.running d).turn s o).errand.pauses = true ∨
      ∃ r, ((Errand.running d).turn s o).errand = .done r := by
  rcases turn_running d s o with ⟨hgo, hreply, -, -⟩ | ⟨r, desk, hturn, hdriven⟩
  · exact (hs.elim hgo hreply).elim
  · rw [hturn]
    cases hclosing : (d.withRun r).performance.closing? with
    | some e => exact .inr ⟨_, (tells_settle hclosing).2⟩
    | none =>
      rcases hdriven.rests with h | h
      · rw [settle_of_none hclosing]
        exact .inl h
      · exact .inr (done_of_over h)

/-- The errand of a run that gets what it waits for, again and again. -/
def answered (t : Errand) : List (Orchestra σ) → Errand
  | [] => t
  | o :: os =>
    match t with
    | .running d => answered (t.turn (awaited d.performance.run) o).errand os
    | t => answered t os

theorem answered_done (r : Outcome) (os : List (Orchestra σ)) :
    answered (.done r) os = .done r := by
  induction os with
  | nil => rfl
  | cons o os ih => exact ih

/-- **A run that gets what it waits for comes to its end.** -/
theorem exists_answered (d : Dispatch) (os : List (Orchestra σ)) (hl : ∀ o ∈ os, 0 < o.left)
    (hos : d.performance.run.load d.performance.program < os.length) :
    ∃ r, answered (.running d) os = .done r := by
  induction os generalizing d with
  | nil => exact absurd hos (Nat.not_lt_zero _)
  | cons o os ih =>
    have hleft : 0 < o.left := hl o List.mem_cons_self
    change ∃ r, answered ((Errand.running d).turn (awaited d.performance.run) o).errand os = .done r
    rcases turn_running d (awaited d.performance.run) o with ⟨hgo, hreply, -, -⟩ |
      ⟨r, desk, hturn, hdriven⟩
    · unfold awaited at hgo hreply
      split at hgo
      · exact absurd (if_pos ‹_›) hreply
      · exact absurd rfl hgo
    · rw [hturn]
      cases hclosing : (d.withRun r).performance.closing? with
      | some e =>
        rw [(tells_settle hclosing).2]
        exact ⟨_, answered_done _ os⟩
      | none =>
        rcases hdriven.nearer rfl hleft with h | h
        · rw [settle_of_none hclosing]
          rw [List.length_cons] at hos
          exact ih (d.withRun r) (fun o' ho => hl o' (List.mem_cons_of_mem _ ho))
            (Nat.lt_of_lt_of_le h (Nat.lt_succ_iff.1 hos))
        · obtain ⟨outcome, hdone⟩ := done_of_over (d := d.withRun r) (o := o.withDesk desk) h
          rw [hdone]
          exact ⟨_, answered_done _ os⟩

/-! ### From the start -/

omit [Hosted σ] in
/-- The dispatch of a run that starts now. -/
def dispatchOf (o : Orchestra σ) (key action : String) (token : Option Nat) (l : Loaded) :
    Dispatch :=
  ⟨⟨o.nextRun, key, action, l.template.program, o.store.revision, Run.start action⟩, l, token⟩

section

variable (o : Orchestra σ) (key action : String) (token : Option Nat) {l : Loaded}

/-- A run of a defined action tells first that it has started. -/
theorem startRun_eq (hl : o.loaded.get? key = some l) (ha : l.template.actions.has action = true) :
    o.startRun key action token =
      (Errand.running (o.dispatchOf key action token l)).turn .go
        ({ o with nextRun := o.nextRun + 1 }.emit
          (o.dispatchOf key action token l).performance.opening) := by
  have hstart : Performance.start o.nextRun key action l.template.program o.store =
      .ok (o.dispatchOf key action token l).performance := if_pos ha
  unfold startRun
  simp only [hl, hstart]
  rfl

/-- A run of an action that is not defined changes nothing. -/
theorem startRun_of_undefined (hl : o.loaded.get? key = some l)
    (ha : l.template.actions.has action = false) :
    o.startRun key action token =
      .over o (.reported (.error (.action key (.unknownAction action)))) := by
  have hstart : Performance.start o.nextRun key action l.template.program o.store =
      .error (.unknownAction action) := if_neg (by simp [Template.program, ha])
  unfold startRun
  simp only [hl, hstart]

/-- **A run tells that it has started and then, once, how it has ended.** What is told of it is its
verdict, and nothing is told after that. A run that is not over is suspended whenever it has been
taken up, and is over once it has been taken up often enough. A run of an action that is not defined
tells nothing. -/
theorem startRun_tells_one_end (hl : o.loaded.get? key = some l) :
    (l.template.actions.has action = false →
      o.startRun key action token =
        .over o (.reported (.error (.action key (.unknownAction action))))) ∧
    (l.template.actions.has action = true →
      let d := o.dispatchOf key action token l
      o.startRun key action token =
        (Errand.running d).turn .go
          ({ o with nextRun := o.nextRun + 1 }.emit d.performance.opening) ∧
      ∀ ms : List (Moment σ), ∃ es t,
        Told (.running d) ms es t ∧ Verdict d ms (es.filter (·.run.isSome)) t ∧
        (∀ r, t = .done r → ∀ more : List (Moment σ), Told t more [] t) ∧
        ∀ d', t = .running d' →
          (∀ s, s = .go ∨ s = .reply → ∀ o' : Orchestra σ,
            (t.turn s o').errand.pauses = true ∨ ∃ r, (t.turn s o').errand = .done r) ∧
          ∃ n, ∀ os : List (Orchestra σ), n ≤ os.length → (∀ o' ∈ os, 0 < o'.left) →
            ∃ r, answered t os = .done r) := by
  refine ⟨startRun_of_undefined o key action token hl, fun ha => ?_⟩
  intro d
  refine ⟨startRun_eq o key action token hl ha, fun ms => ?_⟩
  have hstart : d.performance.run.outcome? = none := rfl
  obtain ⟨es, t, htold, hverdict⟩ := exists_told hstart ms
  refine ⟨es, t, htold, hverdict, ?_, ?_⟩
  · rintro r rfl more
    exact told_of_done r more
  · rintro d' rfl
    exact ⟨fun s hs o' => pauses_or_done d' hs o',
      d'.performance.run.load d'.performance.program + 1,
      fun os hos hleft => exists_answered d' os hleft hos⟩

end

end

/-- A template with an action that asks the host, and one that tells it something. -/
def asking : Loaded where
  template :=
    { name := "t"
      version := "1"
      bootstrap := ⟨"panel", []⟩
      actions := [("ask", .request "well?" .null none []), ("tell", .send "well" .null)] }
  fingerprint := ⟨""⟩
  origin := .text

/-- An orchestra that keeps it, with a host that takes no messages. -/
def keeper : Orchestra Bridge :=
  { setup := { registry := [], keyOf? := some }
    scene := ⟨Bus.empty, .attached { panel := {}, sendFailure := some .disconnected }⟩
    log := .ofCapacity 50
    loaded := [("k", asking)] }

/-- A run takes three steps, in which it comes to its action and carries it out, and then a turn. -/
def threeSteps : List (Moment Bridge) :=
  List.replicate 3 (.step false keeper.desk) ++ [.turn .go keeper]

/-- A run that is let go while it waits for the host has one event of its end, and a run whose message
the host refuses fails. -/
theorem startRun_tells_one_end_keeper :
    keeper.loaded.get? "k" = some asking ∧
      (asking.template.actions.has "stop" = false ∧
        keeper.startRun "k" "stop" none =
          .over keeper (.reported (.error (.action "k" (.unknownAction "stop"))))) ∧
      (asking.template.actions.has "ask" = true ∧
        ∀ o : Orchestra Bridge, ∃ es t,
          let d := keeper.dispatchOf "k" "ask" none asking
          Told (.running d) [.turn .go o, .letGo o] es t ∧
            Verdict d [.turn .go o, .letGo o] (es.filter (·.run.isSome)) t) ∧
      asking.template.actions.has "tell" = true ∧
        let d := keeper.dispatchOf "k" "tell" none asking
        ∃ es report, Told (.running d) threeSteps es (.done (.reported (.ok report))) ∧
          report.state = .failed ∧
          Verdict d threeSteps (es.filter (·.run.isSome)) (.done (.reported (.ok report))) := by
  have hl : keeper.loaded.get? "k" = some asking := rfl
  have hstop : asking.template.actions.has "stop" = false := by decide
  have hask : asking.template.actions.has "ask" = true := by decide
  have htell : asking.template.actions.has "tell" = true := by decide
  refine ⟨hl, ⟨hstop, (startRun_tells_one_end keeper "k" "stop" none hl).1 hstop⟩,
    ⟨hask, fun o => ?_⟩, htell, ?_⟩
  · obtain ⟨es, t, htold, hverdict, -⟩ :=
      ((startRun_tells_one_end keeper "k" "ask" none hl).2 hask).2 [.turn .go o, .letGo o]
    exact ⟨es, t, htold, hverdict⟩
  · intro d
    obtain ⟨es, t, htold, hverdict, -⟩ :=
      ((startRun_tells_one_end keeper "k" "tell" none hl).2 htell).2 threeSteps
    let onward (r : Run) : Run := (r.step d.performance.program false keeper.desk).run
    let told : Run.Instant := .step (onward (onward d.performance.run)) false keeper.desk
    have hmem : told ∈ (Errand.running d).instants threeSteps :=
      List.mem_cons_of_mem _ (List.mem_cons_of_mem _ List.mem_cons_self)
    have hfails : told.Fails d.performance.program (.bridge .disconnected) :=
      ⟨⟨nofun, nofun⟩, .send rfl rfl⟩
    generalize hown : es.filter (·.run.isSome) = own at hverdict
    cases hverdict with
    | @underWay r h =>
      let d' := d.withRun (told.move d.performance.program).run
      have hturn : ((Errand.running d').turn .go keeper).errand = .running (d.withRun r) :=
        htold.errand
      rcases pauses_or_done d' (.inl rfl) keeper with hp | ⟨o, ho⟩
      · rw [hturn] at hp
        have hgoing : r.outcome? = none := Run.outcome?_of_suspended hp
        exact ((h.stands.going hgoing _ hmem).sound _ hfails).elim
      · cases hturn.symm.trans ho
    | completed _ _ hw => exact ((hw.succeeds _ hmem).sound _ hfails).elim
    | failed hs he hc hw => exact ⟨es, _, htold, hs, hown ▸ .failed hs he hc hw⟩
    | cancelled _ _ hm =>
      obtain ⟨m, hm, hc⟩ := hm
      obtain rfl | rfl : m = .step false keeper.desk ∨ m = .turn .go keeper := by
        simpa [threeSteps] using hm
      · cases hc
      · cases hc
    | abandoned _ _ hm =>
      obtain ⟨o, ho⟩ := hm
      simp [threeSteps] at ho

end LivePanel.Orchestra
