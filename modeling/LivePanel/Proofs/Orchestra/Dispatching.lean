import LivePanel.Proofs.Orchestra.Writing

/-!
# Runs that have the orchestra to themselves

A run of an action is dispatched, and until it has ended nothing else happens: only its own task
takes turns. Tokens may be cancelled meanwhile, and the host may prepare its answers, but nobody
else writes, loads or tells anything. `Settled` lists what the orchestra comes to then: the run is
under way, or it has ended without a change of the state, or with one.

## What is proved

* `settled_turn`: one turn of a run.
* `dispatch_alone`: a whole run, from the call on. Whether the state has changed hangs on whether
  the run has written, and on nothing else; and the run can be brought to its end.
-/

namespace LivePanel.Orchestra

variable {σ : Type}

/-! ### What a run comes to -/

/-- The event of a run's end that goes with its report. -/
inductive Closes (f : Performance) (report : RunReport) : Event → Prop where
  | completed (h : report.state = .succeeded) :
      Closes f report (f.event (.actionCompleted f.key f.action))
  | failed {message : String} (h : report.state = .failed) (he : report.error = some message) :
      Closes f report (f.event (.actionFailed f.key f.action message))
  | cancelled (h : report.state = .cancelled) :
      Closes f report (f.event (.actionCancelled f.key f.action report.skippedSteps))

theorem closes_of_closing {f : Performance} {e : Event} (h : f.closing? = some e)
    (store : State.Store) : Closes f (f.report store) e := by
  unfold Performance.closing? at h
  split at h
  · rename_i hf
    cases h
    exact .completed (by simp only [Performance.report, Run.state, hf])
  · rename_i hf
    cases h
    have hstate : f.run.state = .cancelled := by rw [Run.state, hf]
    have hskipped : (f.report store).skippedSteps = f.run.queued := if_pos hstate
    rw [Performance.cancelledEvent, ← hskipped]
    exact .cancelled hstate
  · rename_i cause _ hf
    cases h
    refine .failed ?_ ?_
    · simp only [Performance.report, Run.state, hf]
    · simp only [Performance.report, Run.failure?, hf, Option.map_some]
  · cases h

/-- Where a run stands makes no difference to its events. -/
theorem Closes.of_withRun {d : Dispatch} {r : Run} {report : RunReport} {e : Event}
    (h : Closes (d.withRun r).performance report e) : Closes d.performance report e := by
  cases h with
  | completed h => exact .completed h
  | failed h he => exact .failed h he
  | cancelled h => exact .cancelled h

/-- What is held under all keys is as it was, and so are flights, numbers and the shutdown. -/
structure Unmoved (o o' : Orchestra σ) : Prop where
  holding : o'.holding = o.holding
  ledger : o'.ledger = o.ledger

theorem Unmoved.trans {o o' o'' : Orchestra σ} (h : Unmoved o o') (h' : Unmoved o' o'') :
    Unmoved o o'' := ⟨h'.holding.trans h.holding, h'.ledger.trans h.ledger⟩

/-- What an orchestra has come to with a run of its own, what is left of the run, and what was told
after its start. -/
inductive Settled (d : Dispatch) (o o' : Orchestra σ) : Errand → List Event → Prop where
  /-- The run is under way. -/
  | underWay {r : Run} (hs : Unmoved o o') : Settled d o o' (.running (d.withRun r)) []
  /-- The run has ended, and that is told. -/
  | unchanged {report : RunReport} {ending : Event} (hc : Closes d.performance report ending)
      (hr : report.stateChanged = false) (hs : Unmoved o o') :
      Settled d o o' (.done (.reported (.ok report))) [ending]
  /-- The run has ended and the state has changed: its template is built against the state as it is
  now, and replaces the artifact of the key under the marks of the template. -/
  | changed {report : RunReport} {ending : Event} {b : Built}
      (hc : Closes d.performance report ending) (hr : report.stateChanged = true)
      (hb : ∃ world, b = ⟨o.nextBuilt, (Build.template o.setup.options o.setup.registry
        d.loaded.template o'.store.value [] world).1⟩)
      (hh : ∀ k, o'.holding k =
        if d.performance.key = k then
          { o.holding k with entry := some ⟨d.loaded.fingerprint, b, d.loaded.origin⟩ }
        else o.holding k)
      (hl : o'.ledger = { o.ledger with nextBuilt := o.nextBuilt + 1 }) :
      Settled d o o' (.done (.reported (.ok report)))
        [ending, ⟨.stateChanged d.performance.key o'.store.revision, none⟩,
          builtEvent d.performance.key b.artifact]

namespace Settled

variable {d : Dispatch} {o o₁ o' o'' : Orchestra σ} {t : Errand} {es : List Event}

theorem withRun {r : Run} (h : Settled (d.withRun r) o o' t es) : Settled d o o' t es := by
  cases h with
  | underWay hs => exact .underWay hs
  | unchanged hc hr hs => exact .unchanged hc.of_withRun hr hs
  | changed hc hr hb hh hl => exact .changed hc.of_withRun hr hb hh hl

/-- Nothing has come of a run before. -/
theorem after_unmoved (hs : Unmoved o o₁) (h : Settled d o₁ o' t es) : Settled d o o' t es := by
  cases h with
  | underWay hs' => exact .underWay (hs.trans hs')
  | unchanged hc hr hs' => exact .unchanged hc hr (hs.trans hs')
  | changed hc hr hb hh hl =>
    have hn : o₁.nextBuilt = o.nextBuilt := congrArg Ledger.nextBuilt hs.ledger
    have hset : o₁.setup = o.setup := congrArg Ledger.setup hs.ledger
    rw [hs.holding] at hh
    rw [hs.ledger, hn] at hl
    rw [hn, hset] at hb
    exact .changed hc hr hb hh hl

/-- Nothing comes of a run afterwards. -/
theorem before_unmoved (h : Settled d o o' t es) (hs : Unmoved o' o'') (hst : o''.store = o'.store) :
    Settled d o o'' t es := by
  cases h with
  | underWay hs' => exact .underWay (hs'.trans hs)
  | unchanged hc hr hs' => exact .unchanged hc hr (hs'.trans hs)
  | changed hc hr hb hh hl =>
    rw [← hs.holding] at hh
    rw [← hst] at hb ⊢
    exact .changed hc hr hb hh (hs.ledger.trans hl)

end Settled

/-- A run that has ended is settled. -/
theorem settled_settle {d : Dispatch} {o : Orchestra σ} {ending : Event}
    (h : d.performance.closing? = some ending) (hs : o.shutDown = false) :
    (settle d o).launched = [] ∧ ∃ es, o.scene.Tells es (settle d o).orchestra.scene ∧
      Settled d o (settle d o).orchestra (settle d o).errand es := by
  let report := d.performance.report o.store
  let ended := (o.emit ending).record .action d.performance.key
    (d.performance.action ++ ": " ++ report.state.name)
  let told := ended.tell (.stateChanged d.performance.key ended.store.revision)
  have hend : o.scene.Tells [ending] ended.scene := .emitted ending .still
  have hclose : Closes d.performance report ending := closes_of_closing h o.store
  cases hr : report.stateChanged with
  | false =>
    have hsettle : settle d o = .over ended (.reported (.ok report)) := by
      unfold settle
      simp only [h]
      rw [if_neg]
      · rfl
      · simp [show (d.performance.report (o.emit ending).store).stateChanged = false from hr]
    rw [hsettle]
    exact ⟨rfl, [ending], hend, .unchanged hclose hr ⟨rfl, rfl⟩⟩
  | true =>
    have hsettle : settle d o =
        .over (told.rebuild d.performance.key d.loaded) (.reported (.ok report)) := by
      unfold settle
      simp only [h]
      rw [if_pos]
      · rfl
      · simp [show (d.performance.report (o.emit ending).store).stateChanged = true from hr,
          show ((o.emit ending).record .action d.performance.key _).shutDown = false from hs]
    have hstore : (told.rebuild d.performance.key d.loaded).store = told.store := store_rebuild ..
    rw [hsettle]
    refine ⟨rfl, _, (hend.trans (tells_tell _ _)).trans (tells_rebuild told _ _), ?_⟩
    have hsettled : Settled d o (told.rebuild d.performance.key d.loaded)
        (.done (.reported (.ok report)))
        [ending, ⟨.stateChanged d.performance.key
          (told.rebuild d.performance.key d.loaded).store.revision, none⟩,
          builtEvent d.performance.key (told.rebuiltOf d.loaded.template).artifact] := by
      refine .changed hclose hr ⟨told.scene.world, ?_⟩ (fun k => ?_) (ledger_rebuild ..)
      · rw [hstore]
        rfl
      · exact holding_rebuild told d.performance.key d.loaded k
    rwa [hstore] at hsettled

theorem awaited_go_or_reply (r : Run) : awaited r = .go ∨ awaited r = .reply := by
  unfold awaited
  split
  · exact .inr rfl
  · exact .inl rfl

section

variable [Hosted σ]

/-- **What one turn of a run comes to.** -/
theorem settled_turn (d : Dispatch) (s : Signal) {o : Orchestra σ} (hs : o.shutDown = false) :
    ((Errand.running d).turn s o).launched = [] ∧
      ∃ es, o.scene.Tells es ((Errand.running d).turn s o).orchestra.scene ∧
        Settled d o ((Errand.running d).turn s o).orchestra ((Errand.running d).turn s o).errand
          es := by
  rcases turn_running d s o with ⟨-, -, hturn, -⟩ | ⟨r, desk, hturn, -⟩
  · rw [hturn]
    exact ⟨rfl, [], .still, .underWay (r := d.performance.run) ⟨rfl, rfl⟩⟩
  · have hdesk : o.scene.Tells [] (o.withDesk desk).scene := Scene.tells_nil_iff.2 rfl
    rw [hturn]
    cases hclosing : (d.withRun r).performance.closing? with
    | none =>
      rw [settle_of_none hclosing]
      exact ⟨rfl, [], hdesk, .underWay ⟨rfl, rfl⟩⟩
    | some ending =>
      obtain ⟨hnone, es, hes, hsettled⟩ := settled_settle (o := o.withDesk desk) hclosing hs
      have hunmoved : Unmoved o (o.withDesk desk) := ⟨rfl, rfl⟩
      exact ⟨hnone, es, hdesk.trans hes, hsettled.withRun.after_unmoved hunmoved⟩

/-! ### Nothing else happens -/

omit [Hosted σ] in
/-- A beat leaves the run of a task alone: it is a turn of it, or cancels a token, or changes the
world only. -/
def Beat.LeavesAlone (e : Ensemble σ) (i : Nat) : Beat σ → Prop
  | .turn j _ => j = i
  | .cancel _ => True
  | .outside scene store _ =>
    scene.bus = e.orchestra.scene.bus ∧ store = e.orchestra.store
  | _ => False

namespace Ensemble

omit [Hosted σ] in
/-- There are the same tasks as before, and only one has gone on. -/
structure Beside (i : Nat) (e e' : Ensemble σ) : Prop where
  length : e'.tasks.length = e.tasks.length
  rest : ∀ j, j ≠ i → e'.rest? j = e.rest? j

omit [Hosted σ] in
theorem Beside.trans {i : Nat} {e e' e'' : Ensemble σ} (h : Beside i e e') (h' : Beside i e' e'') :
    Beside i e e'' :=
  ⟨h'.length.trans h.length, fun j hj => (h'.rest j hj).trans (h.rest j hj)⟩

/-- A turn that launches nothing is beside the other tasks. -/
theorem beside_turn {e : Ensemble σ} {i : Nat} {t : Errand} (h : e.rest? i = some t) (s : Signal)
    (hn : (t.turn s e.orchestra).launched = []) : Beside i e (e.play (.turn i s)) := by
  refine ⟨?_, fun j hj => ?_⟩
  · rw [play_turn_of_eq h rfl hn, length_setRest, tasks_withOrchestra]
  · have h' : (e.withOrchestra (t.turn s e.orchestra).orchestra).rest? i = some t := h
    rw [play_turn_of_eq h rfl hn, rest?_setRest j _ h', if_neg hj, rest?_withOrchestra]

/-- What a run that has been started has come to: what it has told, what is left of it, and what
the orchestra holds. -/
structure Followed (e : Ensemble σ) (i : Nat) (d : Dispatch) (beats : List (Beat σ))
    (t : Errand) (es : List Event) : Prop where
  telling : Telling e beats (d.performance.opening :: es)
  rest : (e.plays beats).rest? i = some t
  settled : Settled d e.orchestra (e.plays beats).orchestra t es
  beside : Beside i e (e.plays beats)

namespace Followed

variable {e : Ensemble σ} {i : Nat} {d : Dispatch} {beats : List (Beat σ)} {t : Errand}
  {es : List Event}

/-- A run is started. -/
theorem start {key action : String} {token : Option Nat} {l : Loaded}
    (hi : e.rest? i = some (.dispatch key action token)) (hs : e.orchestra.shutDown = false)
    (hl : e.orchestra.loaded.get? key = some l) (ha : l.template.actions.has action = true) :
    ∃ t es, e.Followed i (e.orchestra.dispatchOf key action token l) [.turn i .go] t es := by
  let d := e.orchestra.dispatchOf key action token l
  let opened := e.orchestra.openedFor d
  have hturn : (Errand.dispatch key action token).turn .go e.orchestra =
      (Errand.running d).turn .go opened := by
    have hgo : (Errand.dispatch key action token).turn .go e.orchestra =
        e.orchestra.startRun key action token := if_neg (by simp [hs])
    rw [hgo]
    exact startRun_eq e.orchestra key action token hl ha
  have hopen : e.orchestra.scene.Tells [d.performance.opening] opened.scene := .emitted _ .still
  have hunmoved : Unmoved e.orchestra opened := ⟨rfl, rfl⟩
  obtain ⟨hnone, es, hes, hsettled⟩ := settled_turn d .go (o := opened) hs
  rw [← hturn] at hnone hes hsettled
  refine ⟨_, es, ?_, rest?_turn_self hi .go, ?_, beside_turn hi .go hnone⟩
  · refine .single rfl ?_
    rw [orchestra_turn hi]
    exact hopen.trans hes
  · rw [plays_cons, plays_nil, orchestra_turn hi]
    exact hsettled.after_unmoved hunmoved

/-- Nothing comes of a beat that changes nothing. -/
theorem still {b : Beat σ} (h : e.Followed i d beats t es)
    (ht : Telling (e.plays beats) [b] []) (hr : ((e.plays beats).play b).rest? i = some t)
    (hs : Unmoved (e.plays beats).orchestra ((e.plays beats).play b).orchestra)
    (hst : ((e.plays beats).play b).orchestra.store = (e.plays beats).orchestra.store)
    (hb : Beside i (e.plays beats) ((e.plays beats).play b)) :
    e.Followed i d (beats ++ [b]) t es := by
  have hplays : e.plays (beats ++ [b]) = (e.plays beats).play b := plays_append ..
  have htelling := h.telling.append ht
  rw [List.append_nil] at htelling
  refine ⟨htelling, ?_, ?_, ?_⟩ <;> rw [hplays]
  · exact hr
  · exact h.settled.before_unmoved hs hst
  · exact h.beside.trans hb

/-- A run that has ended stays ended. -/
theorem turn_of_done {r : Outcome} (h : e.Followed i d beats (.done r) es) (s : Signal) :
    e.Followed i d (beats ++ [.turn i s]) (.done r) es := by
  have hturn : (Errand.done r).turn s (e.plays beats).orchestra =
      ⟨(e.plays beats).orchestra, .done r, []⟩ := by cases s <;> rfl
  have hplay : (e.plays beats).play (.turn i s) = e.plays beats := by
    rw [play_turn_of_eq h.rest hturn rfl]
    exact setRest_of_rest? h.rest
  refine h.still (.single rfl ?_) ?_ ?_ ?_ ?_ <;> rw [hplay]
  · exact .still
  · exact h.rest
  · exact ⟨rfl, rfl⟩
  · exact ⟨rfl, fun _ _ => rfl⟩

/-- A run that is under way goes on. -/
theorem turn_of_running {r : Run} (h : e.Followed i d beats (.running (d.withRun r)) [])
    (hs : e.orchestra.shutDown = false) (hunmoved : Unmoved e.orchestra (e.plays beats).orchestra)
    (s : Signal) : ∃ t es, e.Followed i d (beats ++ [.turn i s]) t es := by
  have hplays : e.plays (beats ++ [.turn i s]) = (e.plays beats).play (.turn i s) :=
    plays_append ..
  have hshut : (e.plays beats).orchestra.shutDown = false :=
    (congrArg Ledger.shutDown hunmoved.ledger).trans hs
  obtain ⟨hnone, es, hes, hsettled⟩ := settled_turn (d.withRun r) s hshut
  refine ⟨((Errand.running (d.withRun r)).turn s (e.plays beats).orchestra).errand, es,
    h.telling.append (.single rfl ?_), ?_, ?_, ?_⟩
  · rw [orchestra_turn h.rest]
    exact hes
  · rw [hplays]
    exact rest?_turn_self h.rest s
  · rw [hplays, orchestra_turn h.rest]
    exact hsettled.withRun.after_unmoved hunmoved
  · rw [hplays]
    exact h.beside.trans (beside_turn h.rest s hnone)

/-- **What a run has come to is followed with every beat that leaves it alone.** -/
theorem next (h : e.Followed i d beats t es) (hs : e.orchestra.shutDown = false) {b : Beat σ}
    (hb : b.LeavesAlone (e.plays beats) i) :
    ∃ t' es', e.Followed i d (beats ++ [b]) t' es' := by
  cases b with
  | turn j s =>
    obtain rfl : j = i := hb
    have hsettled := h.settled
    cases hsettled with
    | underWay hunmoved => exact h.turn_of_running hs hunmoved s
    | unchanged => exact ⟨_, _, h.turn_of_done s⟩
    | changed => exact ⟨_, _, h.turn_of_done s⟩
  | cancel token =>
    exact ⟨t, es, h.still (.single rfl .still) h.rest ⟨rfl, rfl⟩ rfl ⟨rfl, fun _ _ => rfl⟩⟩
  | outside scene store left =>
    exact ⟨t, es, h.still (.outside rfl .nil) h.rest ⟨rfl, rfl⟩ hb.2 ⟨rfl, fun _ _ => rfl⟩⟩
  | _ => exact hb.elim

theorem plays (h : e.Followed i d beats t es) (hs : e.orchestra.shutDown = false)
    {beats' : List (Beat σ)} (hb : Along (fun e b => b.LeavesAlone e i) (e.plays beats) beats') :
    ∃ t' es', e.Followed i d (beats ++ beats') t' es' := by
  induction beats' generalizing beats t es with
  | nil => exact ⟨t, es, (List.append_nil beats).symm ▸ h⟩
  | cons b beats' ih =>
    obtain ⟨t₁, es₁, h₁⟩ := h.next hs hb.1
    rw [List.append_cons]
    refine ih h₁ ?_
    rw [plays_append]
    exact hb.2

end Followed

/-- **A run that is left alone can be brought to its end.** It gets what it waits for, and a fresh
stint each time. -/
theorem exists_end {e : Ensemble σ} {i : Nat} {d : Dispatch} (h : e.rest? i = some (.running d)) :
    ∃ more, Along (fun e b => b.LeavesAlone e i) e more ∧
      ∃ report, (e.plays more).rest? i = some (.done (.reported (.ok report))) := by
  -- by induction on the load of the run, which is lower after each round
  induction hload : d.performance.run.load d.performance.program using Nat.strongRecOn
    generalizing e d with
  | ind load ih =>
    let rested := e.play (.outside e.orchestra.scene e.orchestra.store Run.stint)
    let s := awaited d.performance.run
    have hrest : rested.rest? i = some (.running d) := h
    have hround : Along (fun e b => b.LeavesAlone e i) e
        [.outside e.orchestra.scene e.orchestra.store Run.stint, .turn i s] :=
      ⟨⟨rfl, rfl⟩, rfl, trivial⟩
    have hturn := rest?_turn_self hrest s
    rcases turn_running d s rested.orchestra with ⟨hgo, hreply, -⟩ | ⟨r, desk, heq, hdriven⟩
    · exact ((awaited_go_or_reply d.performance.run).elim hgo hreply).elim
    · rw [heq] at hturn
      cases hclosing : (d.withRun r).performance.closing? with
      | some ending =>
        rw [(tells_settle hclosing).2] at hturn
        exact ⟨_, hround, _, hturn⟩
      | none =>
        rcases hdriven.nearer rfl (show 0 < Run.stint by decide) with hlt | hover
        · rw [settle_of_none hclosing] at hturn
          obtain ⟨more, hmore, hend⟩ := ih _ (hload ▸ hlt) hturn rfl
          exact ⟨_, (along_append _ e _ more).2 ⟨hround, hmore⟩, by rwa [plays_append]⟩
        · obtain ⟨outcome, hdone⟩ := done_of_over (d := d.withRun r)
            (o := rested.orchestra.withDesk desk) hover
          rw [settle_of_none hclosing] at hdone
          cases hdone

/-- Nobody else writes into the store where a run is left alone. -/
theorem honest_of_leavesAlone {e : Ensemble σ} {i : Nat} {b : Beat σ} (h : b.LeavesAlone e i) :
    b.Honest e ∧ ¬ b.Interferes e i := by
  cases b with
  | turn j s => exact ⟨trivial, fun hw => hw.2.1 h⟩
  | cancel token => exact ⟨trivial, And.right⟩
  | outside scene store left =>
    obtain ⟨-, rfl⟩ := h
    exact ⟨.refl, fun hw => Nat.lt_irrefl _ (State.Store.revision_lt_of_writes hw.2)⟩
  | _ => exact h.elim

theorem undisturbed_of_leavesAlone {e : Ensemble σ} {i : Nat} {beats : List (Beat σ)}
    (h : Along (fun e b => b.LeavesAlone e i) e beats) :
    Along (fun e b => b.Honest e) e beats ∧
      ¬ e.Somewhere (fun e b => b.Interferes e i) beats := by
  induction beats generalizing e with
  | nil => exact ⟨trivial, id⟩
  | cons b beats ih =>
    obtain ⟨hb, hi⟩ := honest_of_leavesAlone h.1
    obtain ⟨hbeats, his⟩ := ih h.2
    exact ⟨⟨hb, hbeats⟩, fun hs => hs.elim hi his⟩

/-- **A run that has the orchestra to itself tells that it has started and how it has ended, and has
its template built again if, and only if, it has written.** Its report says whether it has written,
and the build is told of by what has come of it. Nothing else has been asked for or has gone on, a
flight least of all, and the run can be brought to its end. -/
theorem dispatch_alone {e : Ensemble σ} {i : Nat} {key action : String} {token : Option Nat}
    {l : Loaded} {beats : List (Beat σ)} (hi : e.rest? i = some (.dispatch key action token))
    (hs : e.orchestra.shutDown = false) (hl : e.orchestra.loaded.get? key = some l)
    (ha : l.template.actions.has action = true)
    (hb : Along (fun e b => b.LeavesAlone e i) (e.play (.turn i .go)) beats) :
    let d := e.orchestra.dispatchOf key action token l
    let e' := e.plays (.turn i .go :: beats)
    (∃ t es, e'.rest? i = some t ∧
      Telling e (.turn i .go :: beats) (d.performance.opening :: es) ∧
      Settled d e.orchestra e'.orchestra t es ∧
      ∀ report, t = .done (.reported (.ok report)) →
        (report.stateChanged = true ↔
          e.Somewhere (fun e b => b.WritesFor e i) (.turn i .go :: beats))) ∧
    (∀ a, (builtEvent key a).what.name =
      if a.errors = [] then "template:built" else "template:error") ∧
    Beside i e e' ∧
    ∃ more, Along (fun e b => b.LeavesAlone e i) e' more ∧
      ∃ report, (e'.plays more).rest? i = some (.done (.reported (.ok report))) := by
  intro d e'
  obtain ⟨t₀, es₀, h₀⟩ := Followed.start hi hs hl ha
  obtain ⟨t, es, h⟩ := h₀.plays hs hb
  refine ⟨⟨t, es, h.rest, h.telling, h.settled, ?_⟩, builtEvent_name key, h.beside, ?_⟩
  · rintro report rfl
    obtain ⟨hhonest, hquiet⟩ := undisturbed_of_leavesAlone hb
    rw [stateChanged_of_dispatch hi hhonest h.rest]
    refine or_iff_left ?_
    rintro (⟨⟨d', hd'⟩, -⟩ | hs)
    · cases hi.symm.trans hd'
    · exact hquiet hs
  · have hrest := h.rest
    have hsettled := h.settled
    cases hsettled with
    | underWay => exact exists_end hrest
    | unchanged => exact ⟨[], trivial, _, hrest⟩
    | changed => exact ⟨[], trivial, _, hrest⟩

/-- A run that waits for its answer, gets it and keeps it. -/
theorem dispatch_alone_attended :
    let e := attended.plays (inquiring ", storeAs: x")
    let e' := e.plays [.turn 0 .go, .turn 0 .reply]
    Along (fun e b => b.LeavesAlone e 0) (e.play (.turn 0 .go)) [.turn 0 .reply] ∧
      e.Somewhere (fun e b => b.WritesFor e 0) [.turn 0 .go, .turn 0 .reply] ∧
      ∃ l ending b, e.orchestra.loaded.get? "k" = some l ∧
        Telling e [.turn 0 .go, .turn 0 .reply]
          [(e.orchestra.dispatchOf "k" "go" none l).performance.opening, ending,
            ⟨.stateChanged "k" e'.orchestra.store.revision, none⟩, builtEvent "k" b.artifact] ∧
        e'.orchestra.cache.get? "k" = some ⟨l.fingerprint, b, l.origin⟩ := by
  intro e e'
  have hrest : e.rest? 0 = some (.dispatch "k" "go" none) := rfl
  have hshut : e.orchestra.shutDown = false := by decide +kernel
  have hhas : (e.orchestra.loaded.get? "k").map (·.template.actions.has "go") = some true := by
    decide +kernel
  obtain ⟨l, hl, ha⟩ := Option.map_eq_some_iff.1 hhas
  have hb : Along (fun e b => b.LeavesAlone e 0) (e.play (.turn 0 .go)) [.turn 0 .reply] :=
    ⟨rfl, trivial⟩
  have hreport : (e'.report? 0).map (·.stateChanged) = some true := by decide +kernel
  obtain ⟨report, hreport, hchanged⟩ := Option.map_eq_some_iff.1 hreport
  obtain ⟨⟨t, es, ht, htelling, hsettled, hwrote⟩, -⟩ := dispatch_alone hrest hshut hl ha hb
  obtain rfl := Option.some.inj (ht.symm.trans (rest?_of_report? hreport))
  refine ⟨hb, (hwrote report rfl).1 hchanged, l, ?_⟩
  cases hsettled with
  | unchanged _ hr _ => cases hr.symm.trans hchanged
  | @changed _ ending b _ _ _ hh _ =>
    refine ⟨ending, b, hl, htelling, ?_⟩
    exact congrArg Holding.entry ((hh "k").trans (if_pos rfl))

end Ensemble

end

end LivePanel.Orchestra
