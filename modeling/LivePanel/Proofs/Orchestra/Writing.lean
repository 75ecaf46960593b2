import LivePanel.Proofs.Orchestra.Performing
import LivePanel.Proofs.Orchestra.Reads
import LivePanel.Proofs.Orchestra.Rebuild
import LivePanel.Proofs.Run.Deeds

/-!
# Who writes into the store

All runs of an orchestra, and others beside it, write into one store. The store counts the writes. A
run notes the count when it starts, and reports a change of the state if the count is another one
when it has ended; whose writes were counted meanwhile is not asked for.

## The model

`Errand.deeds` lists the effects of a turn; only runs have any. Along a run of beats a task writes
with its own turns (`Beat.WritesFor`), and it is interfered with where anyone else writes while it
is suspended (`Beat.Interferes`). Others may do to the store whatever writes do (`Beat.Honest`).

## What is proved

* `store_turn`: the store after a turn is the store before with the writes of the turn.
* `revision_play`: the count goes up with a beat if, and only if, someone writes.
* `state_changed_unless_interfered`: the report of a run is right unless it is interfered with, and
  a run that has written always reports it.
* `run_reports_change_of_others`: a run that has not written may report a change.
-/

namespace LivePanel

/-- Someone writes into a store, or replaces all of it. -/
inductive State.Store.Write (s : State.Store) : State.Store → Prop where
  | set {s' : State.Store} {path : String} {v : Value} (h : s.set path v = .ok s') : Write s s'
  | replace (v : Value) : Write s (s.replace v)

theorem State.Store.Write.revision {s s' : State.Store} (h : s.Write s') :
    s'.revision = s.revision + 1 := by
  cases h with
  | set h => exact (State.write_segments_of_set h).2.2.2
  | replace v => rfl

theorem State.Store.revision_lt_of_writes {s s' : State.Store}
    (h : Relation.TransGen State.Store.Write s s') : s.revision < s'.revision := by
  induction h with
  | single h =>
    rw [h.revision]
    exact Nat.lt_succ_self _
  | tail _ h ih =>
    rw [h.revision]
    exact Nat.lt_succ_of_lt ih

namespace Orchestra

variable {σ : Type}

/-! ### What leaves the store alone -/

section

variable (o : Orchestra σ) (key : String)

@[simp] theorem store_sourceFailed (cause : SourceError) :
    (o.sourceFailed key cause).2.store = o.store := by
  unfold sourceFailed
  split <;> rfl

@[simp] theorem store_announce (a : Build.Artifact) : (o.announce key a).store = o.store := by
  unfold announce
  split <;> rfl

@[simp] theorem store_bind (events : List EventBinding) :
    (o.bind key events).2.store = o.store := by
  induction events generalizing o with
  | nil => rfl
  | cons e rest ih => exact ih _

@[simp] theorem store_register (l : Loaded) (bound : Bool) :
    (o.register key l bound).store = o.store := store_bind ..

@[simp] theorem store_tell (what : Happening) : (o.tell what).store = o.store := rfl

@[simp] theorem store_record (kind : ActivityKind) (key : Option String) (detail : String) :
    (o.record kind key detail).store = o.store := rfl

@[simp] theorem store_number (a : Build.Artifact) (world : σ) :
    (o.number a world).2.store = o.store := rfl

@[simp] theorem store_drafted (text : String) : (o.drafted text).store = o.store :=
  store_number ..

@[simp] theorem store_adopt (mark : Fingerprint) (origin : Origin) (b : Built)
    (t : Option Template) (bound : Bool) :
    (o.adopt key mark origin b t bound).store = o.store := by
  unfold adopt
  cases t with
  | some t => exact store_register ..
  | none => rfl

@[simp] theorem store_buildText (text : String) (mark : Fingerprint) (origin : Origin)
    (generation : Nat) (bound : Bool) :
    (o.buildText key text mark origin generation bound).2.store = o.store := by
  rw [buildText_eq]
  dsimp only
  split
  · exact store_drafted ..
  · split
    · simp only [store_announce, store_tell, store_adopt, store_drafted]
    · simp only [store_record, store_drafted]

@[simp] theorem store_rebuild (l : Loaded) : (o.rebuild key l).store = o.store := store_announce ..

@[simp] theorem store_loadText (text : String) (bound : Bool) :
    (o.loadText key text bound).2.store = o.store := by
  unfold loadText
  split
  · rfl
  · exact store_buildText ..

@[simp] theorem store_invalidate : (o.invalidate key).2.store = o.store := by
  unfold invalidate
  dsimp only
  split <;> rfl

@[simp] theorem store_evict : (o.evict key).store = o.store := by
  unfold evict
  dsimp only
  split <;> rfl

@[simp] theorem store_settle (d : Dispatch) : (settle d o).orchestra.store = o.store := by
  unfold settle
  dsimp only
  split
  · rfl
  · split
    · exact store_rebuild ..
    · rfl

@[simp] theorem store_letGo (t : Errand) : (t.letGo o).store = o.store := by
  unfold Errand.letGo
  split
  · rename_i d
    cases d.performance.letGo.closing? <;> rfl
  · rfl

end

section

variable [Hosted σ]

/-- Whether an errand is a run, or starts one. -/
def Errand.runs : Errand → Bool
  | .dispatch .. => true
  | .running _ => true
  | _ => false

omit [Hosted σ] in
/-- An errand that may dispatch is a run, or starts one. -/
theorem Errand.runs_of_run? {o : Orchestra σ} {t : Errand} {p : String × Loaded}
    (h : t.run? o = some p) : t.runs = true := by
  cases t <;> first | rfl | cases h

/-- Only runs write. -/
theorem store_turn_of_not_runs {t : Errand} (h : t.runs = false) (s : Signal) (o : Orchestra σ) :
    (t.turn s o).orchestra.store = o.store := by
  have hc := course o t s
  generalize t.turn s o = turn at hc
  cases hc with
  | plays ht | finishes ht | rebuilds ht => cases h.symm.trans (Errand.runs_of_run? ht)
  | notes _ _ hq => exact hq.store rfl
  | drops _ _ hq | renews _ _ hq => exact (store_invalidate ..).trans (hq.store rfl)
  | fails => exact store_sourceFailed ..
  | builds => exact store_buildText ..
  | evicts => exact store_evict ..
  | _ => rfl

/-! ### What a run does in a turn -/

omit [Hosted σ] in
/-- The orchestra in which a run starts: the run has its number, and its start is told. -/
def openedFor (o : Orchestra σ) (d : Dispatch) : Orchestra σ :=
  { o with nextRun := o.nextRun + 1 }.emit d.performance.opening

/-- The effects of a run that takes a turn. -/
def Dispatch.deeds (d : Dispatch) (s : Signal) (o : Orchestra σ) : List Effect :=
  let f := d.performance
  match s with
  | .go => f.run.deeds f.program (o.isCancelled d.token) o.desk
  | .reply =>
    if o.isCancelled d.token then f.run.deeds f.program true o.desk else f.deedsOfReply false o.desk
  | _ => []

/-- The effects of an errand that takes a turn. -/
def Errand.deeds (t : Errand) (s : Signal) (o : Orchestra σ) : List Effect :=
  match t, s with
  | .running d, s => d.deeds s o
  | .dispatch key action token, .go =>
    if o.shutDown then []
    else
      match o.loaded.get? key with
      | none => []
      | some l =>
        if l.template.actions.has action then
          let d := o.dispatchOf key action token l
          d.deeds .go (o.openedFor d)
        else []
  | _, _ => []

theorem store_running (d : Dispatch) (s : Signal) (o : Orchestra σ) :
    o.store.after (d.deeds s o) = .ok ((Errand.running d).turn s o).orchestra.store := by
  cases s with
  | go =>
    unfold Dispatch.deeds Errand.turn
    dsimp only
    rw [store_settle]
    exact Run.store_drive d.performance.program _ d.performance.run o.desk
  | reply =>
    unfold Dispatch.deeds Errand.turn
    dsimp only
    rw [store_settle]
    split
    · rename_i hc
      rw [hc]
      exact Run.store_drive d.performance.program true d.performance.run o.desk
    · rename_i hc
      rw [Bool.eq_false_iff.2 hc]
      exact d.performance.store_reply false o.desk
  | _ => rfl

/-- **The store after a turn is the store before with the writes of the turn.** -/
theorem store_turn (t : Errand) (s : Signal) (o : Orchestra σ) :
    o.store.after (t.deeds s o) = .ok (t.turn s o).orchestra.store := by
  cases h : t.runs with
  | false =>
    rw [store_turn_of_not_runs h]
    cases t <;> first | rfl | cases h
  | true =>
    cases t with
    | running d => exact store_running d s o
    | dispatch key action token =>
      cases s with
      | go =>
        unfold Errand.deeds Errand.turn
        dsimp only
        split
        · rfl
        · split
          · rename_i hl
            unfold startRun
            rw [hl]
            rfl
          · rename_i hl
            split
            · rename_i ha
              rw [startRun_eq o key action token hl ha]
              exact store_running _ .go (o.openedFor _)
            · rename_i ha
              rw [startRun_of_undefined o key action token hl (Bool.eq_false_iff.2 ha)]
              rfl
      | _ => rfl
    | _ => cases h

/-- A run goes on with the count of the store that it has noted, or its report goes by it. -/
theorem turn_running_revision (d : Dispatch) (s : Signal) (o : Orchestra σ) :
    (∃ d', ((Errand.running d).turn s o).errand = .running d' ∧
        d'.performance.revision = d.performance.revision) ∨
      ∃ report, ((Errand.running d).turn s o).errand = .done (.reported (.ok report)) ∧
        report.stateChanged =
          (((Errand.running d).turn s o).orchestra.store.revision != d.performance.revision) := by
  rcases turn_running d s o with ⟨-, -, hturn, -⟩ | ⟨r, desk, hturn, -⟩
  · exact .inl ⟨d, by rw [hturn], rfl⟩
  · rw [hturn, store_settle]
    cases hclosing : (d.withRun r).performance.closing? with
    | none => exact .inl ⟨d.withRun r, by rw [settle_of_none hclosing], rfl⟩
    | some e => exact .inr ⟨_, (tells_settle hclosing).2, rfl⟩

/-- A run notes the count of the store when it starts. -/
theorem turn_dispatch_revision (key action : String) (token : Option Nat) (o : Orchestra σ) :
    (∃ d', ((Errand.dispatch key action token).turn .go o).errand = .running d' ∧
        d'.performance.revision = o.store.revision) ∨
      (∃ report, ((Errand.dispatch key action token).turn .go o).errand =
          .done (.reported (.ok report)) ∧
        report.stateChanged =
          (((Errand.dispatch key action token).turn .go o).orchestra.store.revision !=
            o.store.revision)) ∨
      ∃ e, ((Errand.dispatch key action token).turn .go o).errand =
        .done (.reported (.error e)) := by
  unfold Errand.turn
  dsimp only
  split
  · exact .inr (.inr ⟨_, rfl⟩)
  · cases hl : o.loaded.get? key with
    | none =>
      refine .inr (.inr ⟨.notLoaded key, ?_⟩)
      unfold startRun
      rw [hl]
      rfl
    | some l =>
      cases ha : l.template.actions.has action with
      | false =>
        rw [startRun_of_undefined o key action token hl ha]
        exact .inr (.inr ⟨_, rfl⟩)
      | true =>
        rw [startRun_eq o key action token hl ha]
        rcases turn_running_revision (o.dispatchOf key action token l) .go
          (o.openedFor (o.dispatchOf key action token l)) with h | h
        · exact .inl h
        · exact .inr (.inl h)

end

/-! ### Writes along a run of beats -/

section

variable [Hosted σ]

/-- What others make of the store comes of writes. -/
def Beat.Honest (e : Ensemble σ) : Beat σ → Prop
  | .outside _ store _ => Relation.ReflTransGen State.Store.Write e.orchestra.store store
  | _ => True

/-- Whether a task writes into the store with a turn. -/
def Ensemble.writes (e : Ensemble σ) (i : Nat) (s : Signal) : Bool :=
  (e.rest? i).any fun t => (t.deeds s e.orchestra).any Effect.isWrite

/-- A task writes. -/
def Beat.WritesFor (e : Ensemble σ) (i : Nat) : Beat σ → Prop
  | .turn j s => j = i ∧ e.writes i s = true
  | _ => False

/-- Another task writes, or others do. -/
def Beat.WritesBeside (e : Ensemble σ) (i : Nat) : Beat σ → Prop
  | .turn j s => j ≠ i ∧ e.writes j s = true
  | .outside _ store _ => Relation.TransGen State.Store.Write e.orchestra.store store
  | _ => False

/-- Someone else writes while the run of a task is suspended. -/
def Beat.Interferes (e : Ensemble σ) (i : Nat) (b : Beat σ) : Prop :=
  (∃ d, e.rest? i = some (.running d)) ∧ b.WritesBeside e i

namespace Ensemble

/-- Some beat of a run is of a kind, in the ensemble in which it is played. -/
def Somewhere (kind : Ensemble σ → Beat σ → Prop) : Ensemble σ → List (Beat σ) → Prop
  | _, [] => False
  | e, b :: beats => kind e b ∨ Somewhere kind (e.play b) beats

/-- The writes of a turn are counted. -/
theorem revision_turn (e : Ensemble σ) (i : Nat) (s : Signal) :
    e.orchestra.store.revision ≤ (e.play (.turn i s)).orchestra.store.revision ∧
      ((e.play (.turn i s)).orchestra.store.revision ≠ e.orchestra.store.revision ↔
        e.writes i s = true) := by
  cases h : e.rest? i with
  | none =>
    rw [play_turn_of_none h]
    exact ⟨Nat.le_refl _, fun h' => absurd rfl h', fun h' => by simp [writes, h] at h'⟩
  | some t =>
    have hcount := State.Store.revision_after (store_turn t s e.orchestra)
    rw [← orchestra_turn h] at hcount
    have hwrites : e.writes i s = true ↔ 0 < (t.deeds s e.orchestra).countP Effect.isWrite := by
      rw [List.countP_pos_iff, writes, h, Option.any_some, List.any_eq_true]
    rw [hcount, hwrites]
    exact ⟨Nat.le_add_right _ _, by omega⟩

/-- **The count of the store goes up with a beat if, and only if, someone writes.** -/
theorem revision_play {e : Ensemble σ} {b : Beat σ} (hb : b.Honest e) (i : Nat) :
    e.orchestra.store.revision ≤ (e.play b).orchestra.store.revision ∧
      ((e.play b).orchestra.store.revision ≠ e.orchestra.store.revision ↔
        b.WritesFor e i ∨ b.WritesBeside e i) := by
  have still : (e.play b).orchestra.store = e.orchestra.store → ¬ b.WritesFor e i →
      ¬ b.WritesBeside e i → e.orchestra.store.revision ≤ (e.play b).orchestra.store.revision ∧
      ((e.play b).orchestra.store.revision ≠ e.orchestra.store.revision ↔
        b.WritesFor e i ∨ b.WritesBeside e i) := by
    intro hs hf hbeside
    rw [hs]
    exact ⟨Nat.le_refl _, fun h => absurd rfl h, fun h => (h.elim hf hbeside).elim⟩
  cases b with
  | call c => exact still rfl id id
  | fire event => exact still rfl id id
  | cancel token => exact still rfl id id
  | loadText key text bound => exact still (store_loadText ..) id id
  | invalidate key => exact still (store_invalidate ..) id id
  | clearCache => exact still rfl id id
  | letGo j =>
    refine still ?_ id id
    simp only [play]
    split
    · rfl
    · split
      · rfl
      · exact store_letGo ..
  | outside scene store left =>
    have hplay : (e.play (.outside scene store left)).orchestra.store = store := rfl
    rw [hplay]
    rcases Relation.reflTransGen_iff_eq_or_transGen.1 hb with heq | htrans
    · obtain rfl : store = e.orchestra.store := heq
      refine ⟨Nat.le_refl _, fun h => absurd rfl h, ?_⟩
      rintro (h | h)
      · exact h.elim
      · exact (Nat.ne_of_gt (State.Store.revision_lt_of_writes h)).elim
    · have hlt := State.Store.revision_lt_of_writes htrans
      exact ⟨Nat.le_of_lt hlt, fun _ => .inr htrans, fun _ => Nat.ne_of_gt hlt⟩
  | turn j s =>
    obtain ⟨hle, hiff⟩ := revision_turn e j s
    refine ⟨hle, hiff.trans ⟨fun h => ?_, ?_⟩⟩
    · by_cases hji : j = i
      · exact .inl ⟨hji, hji ▸ h⟩
      · exact .inr ⟨hji, h⟩
    · rintro (⟨rfl, h⟩ | ⟨-, h⟩) <;> exact h

/-- Nothing of this is left to a run that is over. -/
theorem not_somewhere_of_done {e : Ensemble σ} {i : Nat} {r : Outcome}
    (h : e.rest? i = some (.done r)) (beats : List (Beat σ)) :
    ¬ e.Somewhere (fun e b => b.WritesFor e i) beats ∧
      ¬ e.Somewhere (fun e b => b.Interferes e i) beats := by
  induction beats generalizing e with
  | nil => exact ⟨id, id⟩
  | cons b beats ih =>
    obtain ⟨hfor, hbeside⟩ := ih (done_plays h [b])
    refine ⟨?_, ?_⟩
    · rintro (hb | hb)
      · cases b with
        | turn j s =>
          obtain ⟨rfl, hw⟩ := hb
          simp [writes, h, Errand.deeds] at hw
        | _ => exact hb
      · exact hfor hb
    · rintro (⟨⟨d, hd⟩, -⟩ | hb)
      · cases h.symm.trans hd
      · exact hbeside hb

/-- A run that is suspended reports a change if the count of the store has gone up already, or if
it writes itself or anyone else does before its end. -/
theorem stateChanged_of_running {e : Ensemble σ} {i : Nat} {d : Dispatch} {report : RunReport}
    {beats : List (Beat σ)} (h : e.rest? i = some (.running d))
    (hle : d.performance.revision ≤ e.orchestra.store.revision)
    (hb : Along (fun e b => b.Honest e) e beats)
    (hdone : (e.plays beats).rest? i = some (.done (.reported (.ok report)))) :
    report.stateChanged = true ↔
      e.orchestra.store.revision ≠ d.performance.revision ∨
        e.Somewhere (fun e b => b.WritesFor e i) beats ∨
        e.Somewhere (fun e b => b.Interferes e i) beats := by
  induction beats generalizing e d with
  | nil => cases h.symm.trans hdone
  | cons b beats ih =>
    obtain ⟨hup, hiff⟩ := revision_play hb.1 i
    have hinterferes : b.Interferes e i ↔ b.WritesBeside e i := and_iff_right ⟨d, h⟩
    -- what is seen of the count after the beat is what was seen before, or this beat
    have hseen : ((e.play b).orchestra.store.revision ≠ d.performance.revision) ↔
        e.orchestra.store.revision ≠ d.performance.revision ∨ b.WritesFor e i ∨
          b.Interferes e i := by
      rw [hinterferes, ← hiff]
      omega
    have goesOn {d' : Dispatch} (h' : (e.play b).rest? i = some (.running d'))
        (hd' : d'.performance.revision = d.performance.revision) :
        report.stateChanged = true ↔ e.orchestra.store.revision ≠ d.performance.revision ∨
          e.Somewhere (fun e b => b.WritesFor e i) (b :: beats) ∨
          e.Somewhere (fun e b => b.Interferes e i) (b :: beats) := by
      rw [ih h' (by omega) hb.2 hdone, hd', hseen, or_assoc, or_or_or_comm]
      rfl
    rcases rest?_play h b with h' | ⟨s, rfl, h'⟩ | ⟨-, -, h'⟩
    · exact goesOn h' rfl
    · rcases turn_running_revision d s e.orchestra with ⟨d', hturn, hd'⟩ | ⟨r, hturn, hr⟩
      · exact goesOn (hturn ▸ h') hd'
      · rw [hturn] at h'
        obtain ⟨hfor, hbeside⟩ := not_somewhere_of_done h' beats
        obtain rfl : r = report := by simpa using (done_plays h' beats).symm.trans hdone
        rw [hr, ← orchestra_turn h, bne_iff_ne, hseen, Somewhere, Somewhere, or_iff_left hfor,
          or_iff_left hbeside]
    · cases (done_plays h' beats).symm.trans hdone

/-- What a run reports of the state. -/
theorem stateChanged_of_dispatch {e : Ensemble σ} {i : Nat} {key action : String}
    {token : Option Nat} {report : RunReport} {beats : List (Beat σ)}
    (h : e.rest? i = some (.dispatch key action token))
    (hb : Along (fun e b => b.Honest e) (e.play (.turn i .go)) beats)
    (hdone : (e.plays (.turn i .go :: beats)).rest? i = some (.done (.reported (.ok report)))) :
    report.stateChanged = true ↔
      e.Somewhere (fun e b => b.WritesFor e i) (.turn i .go :: beats) ∨
        e.Somewhere (fun e b => b.Interferes e i) (.turn i .go :: beats) := by
  have h' := rest?_turn_self h .go
  obtain ⟨hle, hiff⟩ := revision_turn e i .go
  have hself : ((e.play (.turn i .go)).orchestra.store.revision ≠ e.orchestra.store.revision) ↔
      (Beat.turn i .go).WritesFor e i := hiff.trans (and_iff_right rfl).symm
  have hquiet : ¬ (Beat.turn i .go).Interferes e i := fun ⟨⟨d, hd⟩, _⟩ => by
    cases h.symm.trans hd
  rw [Somewhere, Somewhere, ← hself, or_iff_right hquiet]
  rcases turn_dispatch_revision key action token e.orchestra with
    ⟨d, hturn, hd⟩ | ⟨r, hturn, hr⟩ | ⟨cause, hturn⟩ <;> rw [hturn] at h'
  · rw [stateChanged_of_running h' (by omega) hb hdone, hd, or_assoc]
  · obtain ⟨hfor, hbeside⟩ := not_somewhere_of_done h' beats
    obtain rfl : r = report := by simpa using (done_plays h' beats).symm.trans hdone
    rw [hr, ← orchestra_turn h, bne_iff_ne, or_iff_left hfor, or_iff_left hbeside]
  · cases (done_plays h' beats).symm.trans hdone

/-- **A run reports a change of the state if it has written, and otherwise if, and only if, someone
else has while it was suspended.** Where nobody else has, the report is right. -/
theorem state_changed_unless_interfered {e : Ensemble σ} {i : Nat} {key action : String}
    {token : Option Nat} {report : RunReport} {beats : List (Beat σ)}
    (h : e.rest? i = some (.dispatch key action token))
    (hb : Along (fun e b => b.Honest e) (e.play (.turn i .go)) beats)
    (hdone : (e.plays (.turn i .go :: beats)).rest? i = some (.done (.reported (.ok report)))) :
    (¬ e.Somewhere (fun e b => b.Interferes e i) (.turn i .go :: beats) →
      (report.stateChanged = true ↔
        e.Somewhere (fun e b => b.WritesFor e i) (.turn i .go :: beats))) ∧
    (e.Somewhere (fun e b => b.WritesFor e i) (.turn i .go :: beats) →
      report.stateChanged = true) ∧
    (e.Somewhere (fun e b => b.Interferes e i) (.turn i .go :: beats) →
      report.stateChanged = true) := by
  rw [stateChanged_of_dispatch h hb hdone]
  exact ⟨fun hq => or_iff_left hq, .inl, .inr⟩

omit [Hosted σ] in
/-- What a task that is over has reported. -/
def report? (e : Ensemble σ) (i : Nat) : Option RunReport :=
  match e.rest? i with
  | some (.done (.reported (.ok report))) => some report
  | _ => none

omit [Hosted σ] in
theorem rest?_of_report? {e : Ensemble σ} {i : Nat} {report : RunReport}
    (h : e.report? i = some report) : e.rest? i = some (.done (.reported (.ok report))) := by
  unfold report? at h
  split at h
  · rename_i hi
    rw [hi, Option.some.inj h]
  · cases h

/-- A text is given whose action asks the host, and keeps the answer as it says; then the action is
to be run. -/
def inquiring (keeping : String) : List (Beat Bridge) :=
  [.loadText "k" ("name: a\nbootstrap: p\ncomponents: []\n" ++
      "actions: \x7bgo: \x7btype: ai, prompt: hi" ++ keeping ++ "\x7d\x7d") false,
    .call (.dispatch "k" "go" none)]

/-- A run that keeps the answer that it has asked for. -/
theorem state_changed_attended :
    let e := attended.plays (inquiring ", storeAs: x")
    e.rest? 0 = some (.dispatch "k" "go" none) ∧
      Along (fun e b => b.Honest e) (e.play (.turn 0 .go)) [.turn 0 .reply] ∧
      (∃ report, (e.plays [.turn 0 .go, .turn 0 .reply]).rest? 0 =
        some (.done (.reported (.ok report))) ∧ report.stateChanged = true) ∧
      e.Somewhere (fun e b => b.WritesFor e 0) [.turn 0 .go, .turn 0 .reply] := by
  intro e
  have hrest : e.rest? 0 = some (.dispatch "k" "go" none) := rfl
  have hhonest : Along (fun e b => b.Honest e) (e.play (.turn 0 .go)) [.turn 0 .reply] :=
    ⟨trivial, trivial⟩
  have hreport : ((e.plays [.turn 0 .go, .turn 0 .reply]).report? 0).map (·.stateChanged) =
      some true := by
    decide +kernel
  obtain ⟨report, h, hchanged⟩ := Option.map_eq_some_iff.1 hreport
  have hdone := rest?_of_report? h
  refine ⟨hrest, hhonest, ⟨report, hdone, hchanged⟩, ?_⟩
  refine ((state_changed_unless_interfered hrest hhonest hdone).1 ?_).1 hchanged
  rintro (⟨-, h, -⟩ | ⟨-, h, -⟩ | h)
  · exact h rfl
  · exact h rfl
  · exact h

/-- **A run that has not written reports a change of the state where the host has written while the
run was waiting for its answer.** -/
theorem run_reports_change_of_others :
    let e := attended.plays (inquiring "")
    let asked := (e.play (.turn 0 .go)).orchestra
    let beats : List (Beat Bridge) :=
      [.outside asked.scene (asked.store.replace (.obj [("x", .str "1")])) asked.left,
        .turn 0 .reply]
    e.Reached ∧ e.rest? 0 = some (.dispatch "k" "go" none) ∧
      Along (fun e b => b.Honest e) (e.play (.turn 0 .go)) beats ∧
      (∃ report, (e.plays (.turn 0 .go :: beats)).rest? 0 =
        some (.done (.reported (.ok report))) ∧ report.stateChanged = true) ∧
      ¬ e.Somewhere (fun e b => b.WritesFor e 0) (.turn 0 .go :: beats) := by
  intro e asked beats
  have hreport : ((e.plays (.turn 0 .go :: beats)).report? 0).map (·.stateChanged) =
      some true := by
    decide +kernel
  obtain ⟨report, h, hchanged⟩ := Option.map_eq_some_iff.1 hreport
  refine ⟨⟨_, _, _, _, rfl⟩, rfl, ⟨.single (.replace _), trivial, trivial⟩,
    ⟨report, rest?_of_report? h, hchanged⟩, ?_⟩
  have hgo : e.writes 0 .go = false := by decide +kernel
  have hreply : ((e.play (.turn 0 .go)).plays (beats.take 1)).writes 0 .reply = false := by
    decide +kernel
  rintro (⟨-, h⟩ | h | ⟨-, h⟩ | h)
  · cases hgo.symm.trans h
  · exact h
  · cases hreply.symm.trans h
  · exact h

end Ensemble

end

end Orchestra

end LivePanel
