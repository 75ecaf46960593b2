import Mathlib.Data.List.Induction
import LivePanel.Proofs.Orchestra.Freshness

/-!
# When texts are read

A flight begins to read its text when it is given the fingerprint, and the text that it is given in
the end is built. So every artifact that a flight has built goes back to two beats of the run: the
one at which the flight began to read, and the one at which it had the text. Artifacts have numbers
of their own, so the two beats are known from the artifact alone.

## The model

* `Ensemble.atBeat`: the ensembles that a run goes through.
* `Ensemble.Begins`: a flight begins to read at a beat of a run.
* `Ensemble.ReadAt`: an artifact of a key is the build of a text that a flight began to read at a
  beat.
* `Errand.Ends`: how a flight ends, and with what.

## What is proved

* `exists_begins`: a flight that reads has begun to at some beat, and after another one exactly if
  it was not yet reading then (`Begins.lt_iff`).
* `ReadAt.unique`: the text of an artifact was begun to be read once.
* `ends_of_landing?`: a flight that has landed has ended at some beat with what it brought home.
* `joining_plays`: a task that waits for a flight ends with that.
-/

namespace LivePanel.Orchestra

variable {σ : Type} [Hosted σ]

/-! ### How flights end -/

omit [Hosted σ] in
/-- How a flight ends at a signal, and what it brings home: the artifact that it has found, what a
source that failed leaves it, the build of the text, or nothing where it breaks off. -/
inductive Errand.Ends (o : Orchestra σ) (f : Flight) : Errand → Signal → Landing → Prop where
  | serves {entry : CacheEntry} {r : Except SourceError Fingerprint}
      (hr : entry.isFresh r = true) :
      Ends o f (.comparingIn f entry) (.fingerprint r) (.ok entry.built)
  | unmarked {cause : SourceError} :
      Ends o f (.marking f) (.fingerprint (.error cause)) (o.sourceFailed f.key cause).1
  | unread {mark : Fingerprint} {cause : SourceError} :
      Ends o f (.reading f mark) (.text (.error cause)) (o.sourceFailed f.key cause).1
  | builds {mark : Fingerprint} {text : String} :
      Ends o f (.reading f mark) (.text (.ok text)) (.ok (o.builtOf text))
  | breaksOff {t : Errand} (hf : t.flight? = some f) (ht : t ≠ .build f) :
      Ends o f t .collapse (.error (.buildAborted f.key))

/-- A flight that breaks off is over, and has brought that home. -/
theorem ends_of_collapse (o : Orchestra σ) {t : Errand} {f : Flight} (hf : t.flight? = some f)
    (ht : t ≠ .build f) :
    (t.turn .collapse o).errand = .done .nothing ∧
      ∃ l, t.Ends o f .collapse l ∧ (t.turn .collapse o).orchestra.landing? f.id = some l := by
  rw [turn_collapse o hf ht]
  refine ⟨rfl, _, .breaksOff hf ht, ?_⟩
  exact (Ensemble.landing?_of_landed (congrArg Ledger.landed (o.ledger_crash f)) f.id).trans
    (if_pos rfl)

/-- **A turn of a flight leaves it under way, or ends it.** -/
theorem ends_of_turn (o : Orchestra σ) {t : Errand} {f : Flight} (hf : t.flight? = some f)
    (s : Signal) :
    (t.turn s o).errand.flight? = some f ∨
      (t.turn s o).errand = .done .nothing ∧
        ∃ l, t.Ends o f s l ∧ (t.turn s o).orchestra.landing? f.id = some l := by
  cases t with
  | build g =>
    obtain rfl := Option.some.inj hf
    refine .inl ?_
    cases s with
    | go =>
      unfold Errand.turn
      dsimp only
      split <;> rfl
    | _ => rfl
  | comparingIn g entry =>
    obtain rfl := Option.some.inj hf
    cases s with
    | fingerprint r =>
      cases hr : entry.isFresh r with
      | true =>
        refine .inr ?_
        unfold Errand.turn
        simp only [hr, if_true]
        exact ⟨rfl, _, .serves hr, landing?_land ..⟩
      | false =>
        refine .inl ?_
        unfold Errand.turn
        simp only [hr, Bool.false_eq_true, if_false]
        rfl
    | collapse => exact .inr (ends_of_collapse o rfl nofun)
    | _ => exact .inl rfl
  | marking g =>
    obtain rfl := Option.some.inj hf
    cases s with
    | fingerprint r =>
      cases r with
      | ok mark => exact .inl rfl
      | error cause => exact .inr ⟨rfl, _, .unmarked, landing?_land ..⟩
    | collapse => exact .inr (ends_of_collapse o rfl nofun)
    | _ => exact .inl rfl
  | reading g mark =>
    obtain rfl := Option.some.inj hf
    cases s with
    | text r =>
      cases r with
      | ok text =>
        rw [turn_reading]
        exact .inr ⟨rfl, _, .builds, landing?_land ..⟩
      | error cause => exact .inr ⟨rfl, _, .unread, landing?_land ..⟩
    | collapse => exact .inr (ends_of_collapse o rfl nofun)
    | _ => exact .inl rfl
  | _ => cases hf

/-- An errand that waits for a flight ends when the flight has landed. -/
theorem turn_joining_of_landed {o : Orchestra σ} {id : Nat} {l : Landing}
    (hl : o.landing? id = some l) (silent : Bool) :
    (Errand.joining id silent).turn .go o = .over o (if silent then .nothing else .landed l) := by
  unfold Errand.turn
  simp only [hl]

/-- An errand that waits for a flight goes on to wait, or ends with what the flight brought home. -/
theorem waits_or_ends (o : Orchestra σ) (id : Nat) (silent : Bool) (s : Signal) :
    (Errand.joining id silent).turn s o = ⟨o, .joining id silent, []⟩ ∨
      ∃ l, o.landing? id = some l ∧ (Errand.joining id silent).turn s o =
        .over o (if silent then .nothing else .landed l) := by
  cases s with
  | go =>
    cases hl : o.landing? id with
    | none =>
      left
      unfold Errand.turn
      simp only [hl]
    | some l => exact .inr ⟨l, rfl, turn_joining_of_landed hl silent⟩
  | _ => exact .inl rfl

namespace Ensemble

/-! ### The ensembles of a run -/

/-- The ensemble before the `m`-th beat of a run. -/
def atBeat (e₀ : Ensemble σ) (beats : List (Beat σ)) (m : Nat) : Ensemble σ :=
  e₀.plays (beats.take m)

section

variable (e₀ : Ensemble σ) (beats beats' : List (Beat σ)) (b : Beat σ)

theorem atBeat_append {m : Nat} (hm : m ≤ beats.length) :
    e₀.atBeat (beats ++ beats') m = e₀.atBeat beats m := by
  unfold atBeat
  rw [List.take_append_of_le_length hm]

theorem atBeat_length : e₀.atBeat beats beats.length = e₀.plays beats := by
  unfold atBeat
  rw [List.take_length]

/-- The ensemble between the two parts of a run. -/
theorem atBeat_append_length : e₀.atBeat (beats ++ beats') beats.length = e₀.plays beats := by
  rw [atBeat_append _ _ _ (Nat.le_refl _), atBeat_length]

theorem plays_concat : e₀.plays (beats ++ [b]) = (e₀.plays beats).play b := plays_append ..

variable {b}

theorem atBeat_succ {m : Nat} (hb : beats[m]? = some b) :
    e₀.atBeat beats (m + 1) = (e₀.atBeat beats m).play b := by
  unfold atBeat
  rw [List.take_add_one, hb]
  exact plays_concat ..

/-- What comes later in a run comes of what was before. -/
theorem atBeat_of_le {m n : Nat} (hmn : m ≤ n) :
    ∃ later, e₀.atBeat beats n = (e₀.atBeat beats m).plays later := by
  obtain ⟨later, hlater⟩ := List.take_prefix_take_left (l := beats) hmn
  refine ⟨later, ?_⟩
  unfold atBeat
  rw [← hlater, plays_append]

end

/-! ### Where reading begins -/

/-- What is over stays over. -/
theorem done_plays {e : Ensemble σ} {i : Nat} {r : Outcome} (h : e.rest? i = some (.done r))
    (beats : List (Beat σ)) : (e.plays beats).rest? i = some (.done r) := by
  induction beats generalizing e with
  | nil => exact h
  | cons b beats ih =>
    refine ih ?_
    rcases rest?_play h b with h' | ⟨s, -, h'⟩ | ⟨-, hk, -⟩
    · exact h'
    · exact h'
    · cases hk

/-- A flight that reads goes on reading until it is over. -/
theorem reading_plays {e : Ensemble σ} {i : Nat} {f : Flight} {mark : Fingerprint}
    (h : e.rest? i = some (.reading f mark)) (beats : List (Beat σ)) :
    (e.plays beats).rest? i = some (.reading f mark) ∨
      (e.plays beats).rest? i = some (.done .nothing) := by
  induction beats using List.reverseRecOn with
  | nil => exact .inl h
  | append_singleton beats b ih =>
    rw [plays_concat]
    rcases ih with hi | hi
    · rcases rest?_play hi b with hi' | ⟨s, -, hi'⟩ | ⟨-, hk, -⟩
      · exact .inl hi'
      · rw [hi']
        have hc := course (e.plays beats).orchestra (.reading f mark) s
        generalize (Errand.reading f mark).turn s (e.plays beats).orchestra = turn at hc
        cases hc with
        | unmoved => exact .inl rfl
        | fails | builds | crashes => exact .inr rfl
        | returns ht | notes ht | plays ht | finishes ht | rebuilds ht => cases ht
        | joins ht | embarks ht => exact ht.elim
      · cases hk
    · exact .inr (done_plays hi [b])

/-- At beat `m` of a run a flight is given its fingerprint, and begins to read. -/
structure Begins (e₀ : Ensemble σ) (beats : List (Beat σ)) (i : Nat) (f : Flight)
    (mark : Fingerprint) (m : Nat) : Prop where
  rest : (e₀.atBeat beats m).rest? i = some (.marking f)
  beat : beats[m]? = some (.turn i (.fingerprint (.ok mark)))

/-- At beat `r` of a run a flight is given its text, and builds an artifact from it. -/
structure BuildsAt (e₀ : Ensemble σ) (beats : List (Beat σ)) (i : Nat) (f : Flight)
    (mark : Fingerprint) (b : Built) (r : Nat) : Prop where
  rest : (e₀.atBeat beats r).rest? i = some (.reading f mark)
  beat : ∃ text, beats[r]? = some (.turn i (.text (.ok text))) ∧
    b = (e₀.atBeat beats r).orchestra.builtOf text

/-- An artifact of a key is the build of a text that a flight began to read at beat `m` of a run. -/
def ReadAt (e₀ : Ensemble σ) (beats : List (Beat σ)) (key : String) (b : Built) (m : Nat) : Prop :=
  ∃ i f mark r, f.key = key ∧ Begins e₀ beats i f mark m ∧ BuildsAt e₀ beats i f mark b r

variable {e₀ : Ensemble σ} {beats : List (Beat σ)} {i m : Nat} {f : Flight} {mark : Fingerprint}

namespace Begins

theorem lt_length (h : Begins e₀ beats i f mark m) : m < beats.length :=
  (List.getElem?_eq_some_iff.1 h.beat).1

theorem append (h : Begins e₀ beats i f mark m) (beats' : List (Beat σ)) :
    Begins e₀ (beats ++ beats') i f mark m where
  rest := (e₀.atBeat_append beats beats' (Nat.le_of_lt h.lt_length)).symm ▸ h.rest
  beat := (List.getElem?_append_left h.lt_length).trans h.beat

/-- After the beat the flight reads. -/
theorem reading (h : Begins e₀ beats i f mark m) :
    (e₀.atBeat beats (m + 1)).rest? i = some (.reading f mark) := by
  rw [atBeat_succ _ _ h.beat, rest?_turn_self h.rest]
  rfl

/-- From then on the flight reads, or is over. -/
theorem later (h : Begins e₀ beats i f mark m) {n : Nat} (hn : m < n) :
    (e₀.atBeat beats n).rest? i = some (.reading f mark) ∨
      (e₀.atBeat beats n).rest? i = some (.done .nothing) := by
  obtain ⟨later, hlater⟩ := e₀.atBeat_of_le beats hn
  rw [hlater]
  exact reading_plays h.reading later

/-- A flight begins to read once. -/
theorem unique (h : Begins e₀ beats i f mark m) {m' : Nat} {mark' : Fingerprint}
    (h' : Begins e₀ beats i f mark' m') : m = m' := by
  rcases Nat.lt_trichotomy m m' with hlt | heq | hlt
  · rcases h.later hlt with hi | hi <;> cases hi.symm.trans h'.rest
  · exact heq
  · rcases h'.later hlt with hi | hi <;> cases hi.symm.trans h.rest

/-- **A flight that reads at a beat began before an earlier one exactly if it was reading then.** -/
theorem lt_iff (h : Begins e₀ beats i f mark m) {r : Nat}
    (hr : (e₀.atBeat beats r).rest? i = some (.reading f mark)) {n : Nat} (hn : n ≤ r) :
    m < n ↔ ∃ mark', (e₀.atBeat beats n).rest? i = some (.reading f mark') := by
  constructor
  · intro hmn
    rcases h.later hmn with hi | hi
    · exact ⟨mark, hi⟩
    · obtain ⟨later, hlater⟩ := e₀.atBeat_of_le beats hn
      rw [hlater, done_plays hi later] at hr
      cases hr
  · rintro ⟨mark', hi⟩
    rcases Nat.lt_or_ge m n with hmn | hnm
    · exact hmn
    · obtain ⟨later, hlater⟩ := e₀.atBeat_of_le beats hnm
      have hm := h.rest
      rw [hlater] at hm
      rcases reading_plays hi later with hi' | hi' <;> cases hi'.symm.trans hm

end Begins

/-- **A flight that reads has begun to.** -/
theorem exists_begins {setup : Setup σ} {scene : Scene σ} {log : ActivityLog}
    (h : ((opening setup scene log).plays beats).rest? i = some (.reading f mark)) :
    ∃ m, Begins (opening setup scene log) beats i f mark m := by
  induction beats using List.reverseRecOn with
  | nil => simp [opening, rest?] at h
  | append_singleton beats b ih =>
    have old : ((opening setup scene log).plays beats).rest? i = some (.reading f mark) →
        ∃ m, Begins (opening setup scene log) (beats ++ [b]) i f mark m := fun h =>
      (ih h).imp fun _ hm => hm.append [b]
    rw [plays_concat] at h
    rcases rest?_of_asks h trivial with hi | ⟨s, t, rfl, hi, ht⟩
    · exact old hi
    · rcases reading_of_turn ht.symm with rfl | ⟨rfl, rfl⟩
      · exact old hi
      · refine ⟨beats.length, ?_, by simp⟩
        rw [atBeat_append_length]
        exact hi

/-! ### The text of an artifact -/

namespace BuildsAt

variable {r : Nat} {b : Built}

theorem lt_length (h : BuildsAt e₀ beats i f mark b r) : r < beats.length :=
  let ⟨_, hb, _⟩ := h.beat
  (List.getElem?_eq_some_iff.1 hb).1

theorem append (h : BuildsAt e₀ beats i f mark b r) (beats' : List (Beat σ)) :
    BuildsAt e₀ (beats ++ beats') i f mark b r := by
  have heq := e₀.atBeat_append beats beats' (Nat.le_of_lt h.lt_length)
  obtain ⟨text, hb, hbuilt⟩ := h.beat
  exact ⟨heq ▸ h.rest, text, (List.getElem?_append_left h.lt_length).trans hb, heq ▸ hbuilt⟩

theorem serial (h : BuildsAt e₀ beats i f mark b r) :
    b.serial = (e₀.atBeat beats r).orchestra.nextBuilt :=
  let ⟨_, _, hbuilt⟩ := h.beat
  congrArg Built.serial hbuilt

/-- The number of an artifact is not given out again. -/
theorem serial_lt (h : BuildsAt e₀ beats i f mark b r) {n : Nat} (hn : r < n) :
    b.serial < (e₀.atBeat beats n).orchestra.nextBuilt := by
  obtain ⟨text, hb, -⟩ := h.beat
  obtain ⟨later, hlater⟩ := e₀.atBeat_of_le beats hn
  have hgrows : (e₀.atBeat beats (r + 1)).orchestra.nextBuilt ≤ _ :=
    (grows_plays (e₀.atBeat beats (r + 1)) later).nextBuilt
  have hl := ledger_buildText (e₀.atBeat beats r).orchestra f.key text mark .source
    f.generation true
  have hnext : (e₀.atBeat beats (r + 1)).orchestra.nextBuilt =
      (e₀.atBeat beats r).orchestra.nextBuilt + 1 := by
    rw [atBeat_succ _ _ hb, orchestra_turn h.rest, turn_reading]
    exact congrArg Ledger.nextBuilt hl
  rw [← hlater] at hgrows
  have hserial := h.serial
  omega

/-- An artifact is built at one beat. -/
theorem unique (h : BuildsAt e₀ beats i f mark b r) {i' r' : Nat} {f' : Flight}
    {mark' : Fingerprint} (h' : BuildsAt e₀ beats i' f' mark' b r') :
    r = r' ∧ i = i' ∧ f = f' ∧ mark = mark' := by
  rcases Nat.lt_trichotomy r r' with hlt | rfl | hlt
  · exact absurd h'.serial (Nat.ne_of_lt (h.serial_lt hlt))
  · obtain ⟨_, hb, -⟩ := h.beat
    obtain ⟨_, hb', -⟩ := h'.beat
    obtain ⟨rfl, -⟩ := Beat.turn.inj (Option.some.inj (hb.symm.trans hb'))
    obtain ⟨rfl, rfl⟩ := Errand.reading.inj (Option.some.inj (h.rest.symm.trans h'.rest))
    exact ⟨rfl, rfl, rfl, rfl⟩
  · exact absurd h.serial (Nat.ne_of_lt (h'.serial_lt hlt))

end BuildsAt

namespace ReadAt

variable {key : String} {b : Built}

theorem append (h : ReadAt e₀ beats key b m) (beats' : List (Beat σ)) :
    ReadAt e₀ (beats ++ beats') key b m := by
  obtain ⟨i, f, mark, r, hk, hm, hr⟩ := h
  exact ⟨i, f, mark, r, hk, hm.append beats', hr.append beats'⟩

/-- **The text of an artifact was begun to be read at one beat.** -/
theorem unique (h : ReadAt e₀ beats key b m) {m' : Nat} (h' : ReadAt e₀ beats key b m') :
    m = m' := by
  obtain ⟨i, f, mark, r, -, hm, hr⟩ := h
  obtain ⟨i', f', mark', r', -, hm', hr'⟩ := h'
  obtain ⟨-, rfl, rfl, rfl⟩ := hr.unique hr'
  exact hm.unique hm'

end ReadAt

/-- **An artifact that a flight builds is that of a text which the flight has begun to read**, and
before a beat of the run exactly if it was reading then. -/
theorem readAt_of_reading {setup : Setup σ} {scene : Scene σ} {log : ActivityLog}
    (h : ((opening setup scene log).plays beats).rest? i = some (.reading f mark)) (text : String) :
    ∃ m, ReadAt (opening setup scene log) (beats ++ [.turn i (.text (.ok text))]) f.key
        (((opening setup scene log).plays beats).orchestra.builtOf text) m ∧
      ∀ n ≤ beats.length, m < n ↔
        ∃ mark', ((opening setup scene log).atBeat beats n).rest? i = some (.reading f mark') := by
  obtain ⟨m, hm⟩ := exists_begins h
  have hend := atBeat_append_length (opening setup scene log) beats [.turn i (.text (.ok text))]
  refine ⟨m, ⟨i, f, mark, beats.length, rfl, hm.append _, hend.symm ▸ h, text, by simp, ?_⟩,
    fun n hn => ?_⟩
  · rw [hend]
  · rw [← atBeat_length] at h
    exact hm.lt_iff h hn

/-! ### Where flights end -/

/-- A flight that asks about an artifact in the cache is not forced. -/
theorem Reached.unforced {e : Ensemble σ} (h : e.Reached) {i : Nat} {f : Flight}
    {entry : CacheEntry} (hi : e.rest? i = some (.comparingIn f entry)) : f.forced = false := by
  obtain ⟨setup, scene, log, beats, rfl⟩ := h
  induction beats using List.reverseRecOn with
  | nil => simp [opening, rest?] at hi
  | append_singleton beats b ih =>
    rw [plays_concat] at hi
    rcases rest?_of_asks hi trivial with hold | ⟨s, t, rfl, hold, ht⟩
    · exact ih hold
    · have hc := course ((opening setup scene log).plays beats).orchestra t s
      generalize t.turn s ((opening setup scene log).plays beats).orchestra = turn at hc ht
      cases hc with
      | unmoved => exact ih (hold.trans (congrArg some ht.symm))
      | comparesIn hf =>
        cases ht
        exact hf
      | notes _ hr =>
        subst ht
        exact hr.elim
      | _ => cases ht

/-- **A flight that has landed has ended at some beat**, with what it brought home. -/
theorem ends_of_landing? {e : Ensemble σ} (hs : Sound e) (hf : e.flightAt i = some f) {l : Landing}
    (hl : (e.plays beats).orchestra.landing? f.id = some l) :
    ∃ before s after t, beats = before ++ .turn i s :: after ∧
      (e.plays before).rest? i = some t ∧ t.flight? = some f ∧
      t.Ends (e.plays before).orchestra f s l := by
  induction beats generalizing e with
  | nil => cases (hs.aloft hf).symm.trans hl
  | cons b beats ih =>
    have later : (e.play b).flightAt i = some f → ∃ before s after t,
        b :: beats = before ++ .turn i s :: after ∧ (e.plays before).rest? i = some t ∧
          t.flight? = some f ∧ t.Ends (e.plays before).orchestra f s l := by
      intro hf'
      obtain ⟨before, s, after, t, rfl, ht⟩ := ih (sound_play hs b) hf' hl
      exact ⟨b :: before, s, after, t, rfl, ht⟩
    obtain ⟨t, ht, htf⟩ := Option.bind_eq_some_iff.1 hf
    rcases rest?_play ht b with h | ⟨s, rfl, h⟩ | ⟨-, hk, -⟩
    · exact later ((flightAt_of_rest? h).trans htf)
    · rcases ends_of_turn e.orchestra htf s with hgo | ⟨-, l', hend, hl'⟩
      · exact later ((flightAt_of_rest? h).trans hgo)
      · rw [← orchestra_turn ht] at hl'
        obtain rfl := Option.some.inj ((landing?_plays (sound_play hs _) beats hl').symm.trans hl)
        exact ⟨[], s, beats, t, rfl, ht, htf, hend⟩
    · cases (Errand.isKept_of_flight? htf).symm.trans hk

/-- A flight is under way, or has landed. -/
theorem aloft_or_landed {e : Ensemble σ} (hs : Sound e) (hf : e.flightAt i = some f)
    (beats : List (Beat σ)) :
    (e.plays beats).flightAt i = some f ∨
      (e.plays beats).rest? i = some (.done .nothing) ∧
        ∃ l, (e.plays beats).orchestra.landing? f.id = some l := by
  induction beats using List.reverseRecOn with
  | nil => exact .inl hf
  | append_singleton beats b ih =>
    rw [plays_concat]
    rcases ih with h | ⟨h, l, hl⟩
    · obtain ⟨t, ht, htf⟩ := Option.bind_eq_some_iff.1 h
      rcases rest?_play ht b with h' | ⟨s, rfl, h'⟩ | ⟨-, hk, -⟩
      · exact .inl ((flightAt_of_rest? h').trans htf)
      · rcases ends_of_turn (e.plays beats).orchestra htf s with hgo | ⟨hend, l, -, hl⟩
        · exact .inl ((flightAt_of_rest? h').trans hgo)
        · exact .inr ⟨hend ▸ h', l, (orchestra_turn ht s).symm ▸ hl⟩
      · cases (Errand.isKept_of_flight? htf).symm.trans hk
    · exact .inr ⟨done_plays h [b], l, landing?_play (sound_plays hs beats) b hl⟩

/-- **A task that waits for a flight ends with what the flight has brought home**, unless it is let
go. -/
theorem joining_plays {e : Ensemble σ} (hs : Sound e) {id : Nat} {silent : Bool}
    (hi : e.rest? i = some (.joining id silent)) (beats : List (Beat σ)) :
    (e.plays beats).rest? i = some (.joining id silent) ∨
      (∃ l, (e.plays beats).orchestra.landing? id = some l ∧
        (e.plays beats).rest? i = some (.done (if silent then .nothing else .landed l))) ∨
      .letGo i ∈ beats ∧ (e.plays beats).rest? i = some (.done .nothing) := by
  induction beats using List.reverseRecOn with
  | nil => exact .inl hi
  | append_singleton beats b ih =>
    rw [plays_concat]
    rcases ih with h | ⟨l, hl, h⟩ | ⟨hmem, h⟩
    · rcases rest?_play h b with h' | ⟨s, rfl, h'⟩ | ⟨rfl, -, h'⟩
      · exact .inl h'
      · rw [orchestra_turn h, h']
        rcases waits_or_ends (e.plays beats).orchestra id silent s with ht | ⟨l, hl, ht⟩
        · exact .inl (congrArg (fun turn => some turn.errand) ht)
        · rw [ht]
          exact .inr (.inl ⟨l, hl, rfl⟩)
      · exact .inr (.inr ⟨by simp, h'⟩)
    · exact .inr (.inl ⟨l, landing?_play (sound_plays hs beats) b hl, done_plays h [b]⟩)
    · exact .inr (.inr ⟨List.mem_append_left _ hmem, done_plays h [b]⟩)

end Ensemble

end LivePanel.Orchestra
