import LivePanel.Proofs.Value.Ordered
import LivePanel.Proofs.Orchestra.Overtaking

/-!
# Flights on record

A flight goes on record under its key when it is launched, and those that ask for the key from then
on wait for it. Its record is struck when it lands, or when something overtakes it. A flight that
breaks off does not get that far: its record stays, and whoever asks for the key next waits for a
flight that is over, until the key is dropped, refreshed, forgotten or given a text.

## What is proved

* `Course.filed`: what a turn does to the records.
* `recorded_plays`: a flight that is on record is under way or has broken off, in every run.
* `flight_off_record_unless_broken_off`: a flight that ends in any other way leaves no record, and
  its key starts over.
* `broken_flight_stays_on_record`: one that breaks off leaves its record.
-/

namespace LivePanel.Orchestra

variable {σ : Type}

/-! ### Operations and the records -/

section

variable (o : Orchestra σ) (key : String)

@[simp] theorem flights_tell (what : Happening) : (o.tell what).flights = o.flights := rfl

@[simp] theorem flights_record (kind : ActivityKind) (k : Option String) (detail : String) :
    (o.record kind k detail).flights = o.flights := rfl

@[simp] theorem flights_announce (a : Build.Artifact) : (o.announce key a).flights = o.flights := by
  unfold announce
  split <;> rfl

@[simp] theorem flights_bind (events : List EventBinding) :
    (o.bind key events).2.flights = o.flights := by
  induction events generalizing o with
  | nil => rfl
  | cons e rest ih =>
    rw [bind]
    exact ih _

@[simp] theorem flights_adopt (fingerprint : Fingerprint) (origin : Origin) (b : Built)
    (t : Option Template) (bound : Bool) :
    (o.adopt key fingerprint origin b t bound).flights = o.flights := by
  unfold adopt
  cases t with
  | some t => exact flights_bind _ key _
  | none => rfl

@[simp] theorem flights_buildText (text : String) (fingerprint : Fingerprint) (origin : Origin)
    (generation : Nat) (bound : Bool) :
    (o.buildText key text fingerprint origin generation bound).2.flights = o.flights := by
  have hd : (o.drafted text).flights = o.flights := by
    simp only [drafted, number]
  rw [buildText_eq]
  dsimp only
  split
  · exact hd
  · split
    · rw [flights_announce, flights_tell, flights_adopt, hd]
    · rw [flights_record, hd]

@[simp] theorem flights_sourceFailed (cause : SourceError) :
    (o.sourceFailed key cause).2.flights = o.flights := by
  unfold sourceFailed
  split <;> rfl

@[simp] theorem flights_rebuild (l : Loaded) : (o.rebuild key l).flights = o.flights := by
  unfold rebuild
  dsimp only
  rw [flights_announce]
  rfl

@[simp] theorem flights_invalidate :
    (o.invalidate key).2.flights = Table.erase o.flights key := by
  unfold invalidate
  dsimp only
  split <;> rfl

@[simp] theorem flights_evict : (o.evict key).flights = Table.erase o.flights key := by
  unfold evict
  dsimp only
  split <;> rfl

@[simp] theorem flights_letGo (t : Errand) : (t.letGo o).flights = o.flights := by
  unfold Errand.letGo
  split
  · rename_i d
    cases d.performance.letGo.closing? <;> rfl
  · rfl

theorem flights_loadText (text : String) (bound : Bool) :
    (o.loadText key text bound).2.flights.Sublist o.flights := by
  unfold loadText
  split
  · exact List.Sublist.refl _
  · dsimp only
    rw [flights_buildText]
    exact List.filter_sublist

end

/-! ### Turns and the records -/

/-- What a turn means for the flights on record. -/
inductive Filed (o : Orchestra σ) (t : Errand) (s : Signal) (turn : Turn σ) : Prop where
  /-- No flight is launched, and none ends. -/
  | thins (hr : turn.orchestra.flights.Sublist o.flights)
      (hf : turn.errand.flight? = t.flight?) (hn : turn.launched = [])
      (hl : turn.orchestra.landed = o.landed)
  /-- A flight lands, and its record is struck. -/
  | strikes {f : Flight} {l : Landing} (hf : t.flight? = some f)
      (he : turn.errand = .done .nothing) (hn : turn.launched = [])
      (hl : turn.orchestra.landed = (f.id, l) :: o.landed)
      (hne : ∀ key, l ≠ .error (.buildAborted key))
      (hr : turn.orchestra.flights =
        if o.flights.get? f.key = some f.id then Table.erase o.flights f.key else o.flights)
  /-- A flight breaks off, and the records stay as they are. -/
  | breaksOff {f : Flight} (hf : t.flight? = some f) (hs : s = .collapse)
      (he : turn.errand = .done .nothing) (hn : turn.launched = [])
      (hl : turn.orchestra.landed = (f.id, .error (.buildAborted f.key)) :: o.landed)
      (hr : turn.orchestra.flights = o.flights)
  /-- A flight is launched, and goes on record. -/
  | launches {f : Flight} (rest : Table Nat) (hf : t.flight? = none)
      (he : turn.errand.flight? = none) (hn : turn.launched = [.build f])
      (hl : turn.orchestra.landed = o.landed) (hrest : rest.Sublist o.flights)
      (hr : turn.orchestra.flights = rest.put f.key f.id)

theorem Filed.of_strikes {o o' : Orchestra σ} {t : Errand} {s : Signal} {f : Flight} {l : Landing}
    (hf : t.flight? = some f) (hr : o'.flights = o.flights) (hl : o'.landed = o.landed)
    (hne : ∀ key, l ≠ .error (.buildAborted key)) : Filed o t s (o'.land f l) := by
  refine .strikes hf rfl rfl (congrArg ((f.id, l) :: ·) hl) hne ?_
  unfold land Turn.over
  rw [hr]

/-- A source that fails does not break off the flight. -/
theorem sourceFailed_ne_aborted (o : Orchestra σ) (key : String) (cause : SourceError)
    (k : String) : (o.sourceFailed key cause).1 ≠ .error (.buildAborted k) := by
  unfold sourceFailed
  split <;> simp

/-- **A turn strikes the record of a flight that lands, and leaves that of one that breaks off.** -/
theorem Course.filed [Hosted σ] {o : Orchestra σ} {t : Errand} {s : Signal} {turn : Turn σ}
    (h : Course o t s turn) : Filed o t s turn := by
  have same := List.Sublist.refl o.flights
  cases h with
  | unmoved | compares | serves | setsOut | comparesIn | turnsBack | marks | shutsDown =>
    exact .thins same rfl rfl rfl
  | returns ht => exact .thins same ht.symm rfl rfl
  | joins ht => exact .thins same ht.flight?.symm rfl rfl
  | embarks ht => exact .launches o.flights ht.flight? rfl rfl rfl same rfl
  | servesIn => exact .of_strikes rfl rfl rfl (by simp)
  | fails ht =>
    exact .of_strikes ht (flights_sourceFailed ..)
      (congrArg Ledger.landed (ledger_sourceFailed ..)) (sourceFailed_ne_aborted o _ _)
  | builds =>
    exact .of_strikes rfl (flights_buildText ..) (congrArg Ledger.landed (ledger_buildText ..))
      (by simp)
  | crashes ht => exact .breaksOff ht rfl rfl rfl rfl rfl
  | @drops _ _ key o' _ _ hq =>
    refine .thins ?_ rfl rfl ((congrArg Ledger.landed (o'.ledger_invalidate key)).trans
      (congrArg Ledger.landed hq.ledger))
    simp only [Turn.over, flights_invalidate, hq.flights]
    exact List.filter_sublist
  | @renews _ _ key o' _ _ hq =>
    refine .launches (Table.erase o.flights key) rfl rfl rfl
      ((congrArg Ledger.landed (o'.ledger_invalidate key)).trans (congrArg Ledger.landed hq.ledger))
      List.filter_sublist ?_
    simp only [embark, nextOf, flights_invalidate, hq.flights]
  | @evicts _ key _ =>
    refine .thins ?_ rfl rfl (congrArg Ledger.landed (o.ledger_evict key))
    exact (o.flights_evict key) ▸ List.filter_sublist
  | notes ht ht' hq =>
    exact .thins (hq.flights ▸ same) (ht'.flight?.trans ht.symm) rfl
      (congrArg Ledger.landed hq.ledger)
  | plays ht _ hq | finishes ht hq =>
    exact .thins (hq.flights ▸ same) (flight?_of_run? ht).symm rfl
      (congrArg Ledger.landed hq.ledger)
  | @rebuilds _ _ key l _ o' ht _ hq =>
    refine .thins ?_ (flight?_of_run? ht).symm rfl
      ((congrArg Ledger.landed (o'.ledger_rebuild key l)).trans (congrArg Ledger.landed hq.ledger))
    simp only [Turn.over, flights_rebuild, hq.flights]
    exact same
  | closes => exact .thins (List.nil_sublist _) rfl rfl rfl

namespace Ensemble

/-! ### Records in a run -/

/-- A flight of a key and a number is under way. -/
def Aloft (e : Ensemble σ) (key : String) (id : Nat) : Prop :=
  ∃ i f, e.flightAt i = some f ∧ f.key = key ∧ f.id = id

/-- A flight of a key and a number has broken off. -/
def BrokenOff (e : Ensemble σ) (key : String) (id : Nat) : Prop :=
  e.orchestra.landing? id = some (.error (.buildAborted key))

/-- The flights on record are under way or have broken off, and there is one for a key. -/
structure Recorded (e : Ensemble σ) : Prop where
  ordered : e.orchestra.flights.Ordered
  flight : ∀ p ∈ e.orchestra.flights, e.Aloft p.1 p.2 ∨ e.BrokenOff p.1 p.2

namespace Recorded

variable {e e' : Ensemble σ}

theorem thins (h : Recorded e) (hf : e'.flightAt = e.flightAt)
    (hl : e'.orchestra.landed = e.orchestra.landed)
    (hr : e'.orchestra.flights.Sublist e.orchestra.flights) : Recorded e' where
  ordered := List.Pairwise.sublist hr h.ordered
  flight p hp := by
    unfold Aloft BrokenOff
    rw [hf, landing?_eq_of_landed hl]
    exact h.flight p (hr.subset hp)

/-- A flight that has landed otherwise than by breaking off is not on record. -/
theorem ne_of_landed (h : Recorded e) (hs : Sound e) {id : Nat} {l : Landing}
    (hl : e.orchestra.landing? id = some l) (hne : ∀ key, l ≠ .error (.buildAborted key)) :
    ∀ p ∈ e.orchestra.flights, p.2 ≠ id := by
  rintro p hp rfl
  rcases h.flight p hp with ⟨i, f, hi, -, hid⟩ | hb
  · cases (hid ▸ hs.aloft hi).symm.trans hl
  · exact hne p.1 (Option.some.inj (hl.symm.trans hb))

variable [Hosted σ]

theorem turn (h : Recorded e) (hs : Sound e) {i : Nat} {t : Errand} (hi : e.rest? i = some t)
    (s : Signal) : Recorded (e.play (.turn i s)) := by
  have ho := orchestra_turn hi s
  have kept : ∀ p : String × Nat, e.BrokenOff p.1 p.2 → (e.play (.turn i s)).BrokenOff p.1 p.2 :=
    fun p hb => landing?_play hs _ hb
  cases (course e.orchestra t s).filed with
  | thins hr hf hn hl =>
    refine h.thins (funext fun j => ?_) (ho ▸ hl) (ho ▸ hr)
    rw [flightAt_turn hi s hn]
    split
    · rename_i hj
      rw [hj, hf, flightAt_of_rest? hi]
    · rfl
  | @strikes f l hf he hn hl hne hr =>
    have hold : (e.play (.turn i s)).orchestra.flights.Sublist e.orchestra.flights := by
      rw [ho, hr]
      split
      · exact List.filter_sublist
      · exact List.Sublist.refl _
    refine ⟨List.Pairwise.sublist hold h.ordered, fun p hp => ?_⟩
    have hmem := hold.subset hp
    refine (h.flight p hmem).imp ?_ (kept p)
    rintro ⟨j, g, hj, hk, hid⟩
    refine ⟨j, g, ?_, hk, hid⟩
    rw [flightAt_turn hi s hn]
    split
    · rename_i hji
      subst hji
      obtain rfl : f = g := by
        rw [flightAt_of_rest? hi, hf] at hj
        exact Option.some.inj hj
      have hget := Table.get?_of_mem h.ordered hmem
      rw [← hk, ← hid] at hget
      rw [ho, hr, if_pos hget] at hp
      have := (List.mem_filter.1 hp).2
      simp [hk] at this
    · exact hj
  | @breaksOff f hf _ he hn hl hr =>
    have hold : (e.play (.turn i s)).orchestra.flights = e.orchestra.flights := ho ▸ hr
    refine ⟨hold ▸ h.ordered, fun p hp => ?_⟩
    rcases h.flight p (hold ▸ hp) with ⟨j, g, hj, hk, hid⟩ | hb
    · by_cases hji : j = i
      · subst hji
        obtain rfl : f = g := by
          rw [flightAt_of_rest? hi, hf] at hj
          exact Option.some.inj hj
        right
        unfold BrokenOff
        rw [ho, landing?_of_landed hl, if_pos hid.symm, hk]
      · left
        refine ⟨j, g, ?_, hk, hid⟩
        rw [flightAt_turn hi s hn, if_neg hji]
        exact hj
    · exact .inr (kept p hb)
  | @launches f rest hf he hn hl hrest hr =>
    have hrec : (e.play (.turn i s)).orchestra.flights = rest.put f.key f.id := ho ▸ hr
    refine ⟨hrec ▸ Table.ordered_put (List.Pairwise.sublist hrest h.ordered) .., fun p hp => ?_⟩
    rcases Table.mem_put (hrec ▸ hp) with rfl | hp
    · refine .inl ⟨e.tasks.length, f, ?_, rfl, rfl⟩
      rw [flightAt_turn_of_launched hi s hn, if_pos rfl]
      rfl
    · refine (h.flight p (hrest.subset hp)).imp ?_ (kept p)
      rintro ⟨j, g, hj, hk, hid⟩
      refine ⟨j, g, ?_, hk, hid⟩
      have hjn : j ≠ e.tasks.length := by
        rintro rfl
        simp [flightAt, rest?_of_le] at hj
      have hji : j ≠ i := by
        rintro rfl
        rw [flightAt_of_rest? hi, hf] at hj
        cases hj
      rw [flightAt_turn_of_launched hi s hn, if_neg hjn, if_neg hji]
      exact hj

end Recorded

variable [Hosted σ]

/-- **A flight on record is under way or has broken off after every beat.** -/
theorem recorded_play {e : Ensemble σ} (hs : Sound e) (h : Recorded e) (b : Beat σ) :
    Recorded (e.play b) := by
  have same := List.Sublist.refl e.orchestra.flights
  cases b with
  | call c =>
    refine h.thins (flightAt_begin e ?_) rfl same
    intro t ht
    rw [List.mem_singleton.1 ht]
    cases c <;> rfl
  | fire event =>
    refine h.thins (flightAt_begin e ?_) rfl same
    intro t ht
    obtain ⟨b, -, rfl⟩ := List.mem_map.1 ht
    rfl
  | turn i s =>
    cases hi : e.rest? i with
    | none =>
      rw [play_turn_of_none hi]
      exact h
    | some t => exact h.turn hs hi s
  | letGo i =>
    refine h.thins (e.flightAt_letGo i) (congrArg Ledger.landed (e.ledger_play_letGo i)) ?_
    simp only [play]
    split
    · exact same
    · split
      · exact same
      · simp only [orchestra_setRest, withOrchestra, flights_letGo]
        exact same
  | loadText key text bound =>
    obtain ⟨n, hn⟩ := e.orchestra.ledger_loadText key text bound
    exact h.thins rfl (congrArg Ledger.landed hn) (e.orchestra.flights_loadText key text bound)
  | invalidate key =>
    refine h.thins rfl (congrArg Ledger.landed (e.orchestra.ledger_invalidate key)) ?_
    simp only [play, withOrchestra, flights_invalidate]
    exact List.filter_sublist
  | clearCache | cancel | outside => exact h.thins rfl rfl same

/-- **A flight on record is under way or has broken off, in every run.** -/
theorem recorded_plays {e : Ensemble σ} (hs : Sound e) (h : Recorded e) (beats : List (Beat σ)) :
    Recorded (e.plays beats) := by
  induction beats generalizing e with
  | nil => exact h
  | cons b beats ih => exact ih (sound_play hs b) (recorded_play hs h b)

theorem Reached.recorded {e : Ensemble σ} (h : e.Reached) : Recorded e := by
  obtain ⟨setup, scene, log, beats, rfl⟩ := h
  exact recorded_plays (sound_opening setup scene log) ⟨List.Pairwise.nil, by simp [opening]⟩ beats

/-! ### Waiting for a flight -/

/-- A task that waits for a flight has done so before, or the flight is on record or the next. -/
theorem joining_of_play {e : Ensemble σ} {b : Beat σ} {j id : Nat} {silent : Bool}
    (h : (e.play b).rest? j = some (.joining id silent)) :
    e.rest? j = some (.joining id silent) ∨ (∃ key, (key, id) ∈ e.orchestra.flights) ∨
      id = e.orchestra.nextFlight := by
  cases hrest : e.rest? j with
  | none =>
    rcases begun_of_play hrest h with ⟨c, hc⟩ | ⟨f, hf⟩
    · cases c <;> cases hc
    · cases hf
  | some t =>
    rcases rest?_play hrest b with h' | ⟨s, -, h'⟩ | ⟨-, -, h'⟩
    · exact .inl (h'.symm.trans h)
    · have hj := Option.some.inj (h'.symm.trans h)
      have hc := course e.orchestra t s
      generalize t.turn s e.orchestra = turn at hj hc
      cases hc with
      | unmoved => exact .inl (congrArg some hj)
      | @joins _ _ key _ _ _ hf =>
        cases hj
        exact .inr (.inl ⟨key, Table.mem_of_get? hf⟩)
      | embarks =>
        cases hj
        exact .inr (.inr rfl)
      | @renews _ _ key o' _ _ hq =>
        cases hj
        exact .inr (.inr ((congrArg Ledger.nextFlight (o'.ledger_invalidate key)).trans
          (congrArg Ledger.nextFlight hq.ledger)))
      | notes _ hr =>
        subst hj
        exact hr.elim
      | _ => cases hj
    · cases h'.symm.trans h

/-- **Nobody comes to wait for a flight that has landed otherwise than by breaking off.** -/
theorem joining_of_plays {e : Ensemble σ} (hs : Sound e) (h : Recorded e) {id : Nat} {l : Landing}
    (hl : e.orchestra.landing? id = some l) (hne : ∀ key, l ≠ .error (.buildAborted key))
    {beats : List (Beat σ)} {j : Nat} {silent : Bool}
    (hj : (e.plays beats).rest? j = some (.joining id silent)) :
    e.rest? j = some (.joining id silent) := by
  induction beats generalizing e with
  | nil => exact hj
  | cons b beats ih =>
    have hj := ih (sound_play hs b) (recorded_play hs h b) (landing?_play hs b hl) hj
    rcases joining_of_play hj with hj | ⟨key, hmem⟩ | rfl
    · exact hj
    · exact absurd rfl (h.ne_of_landed hs hl hne _ hmem)
    · exact absurd (hs.landed hl) (Nat.lt_irrefl _)

/-! ### How a flight ends -/

/-- A flight that ends otherwise than by breaking off has landed. -/
theorem landed_of_ended {e : Ensemble σ} {b : Beat σ} {i : Nat} {f : Flight}
    (hf : e.flightAt i = some f) (hend : (e.play b).flightAt i = none)
    (hb : b ≠ .turn i .collapse) :
    ∃ l, (e.play b).orchestra.landing? f.id = some l ∧
      ∀ key, l ≠ .error (.buildAborted key) := by
  obtain ⟨t, ht, htf⟩ := Option.bind_eq_some_iff.1 hf
  rcases rest?_play ht b with h | ⟨s, rfl, h⟩ | ⟨-, hk, -⟩
  · rw [flightAt_of_rest? h, htf] at hend
    cases hend
  · cases (course e.orchestra t s).filed with
    | thins _ hf' =>
      rw [flightAt_of_rest? h, hf', htf] at hend
      cases hend
    | @strikes g l hg _ _ hl hne =>
      obtain rfl : f = g := Option.some.inj (htf.symm.trans hg)
      exact ⟨l, by rw [orchestra_turn ht, landing?_of_landed hl, if_pos rfl], hne⟩
    | breaksOff _ hs => exact absurd (hs ▸ rfl) hb
    | launches _ hn => cases htf.symm.trans hn
  · rw [Errand.isKept_of_flight? htf] at hk
    cases hk

/-- A task waits for a flight that has been launched as the task `j`. -/
def Awaits (e : Ensemble σ) (i j : Nat) (f : Flight) : Prop :=
  e.rest? i = some (.joining f.id false) ∧ e.rest? j = some (.build f)

/-- A call asks the source for a key. Where a load finds an artifact it asks whether that is fresh,
and launches a flight unless it is; any other call launches a flight, which asks for the
fingerprint of what it is to build. -/
def StartsOver (e : Ensemble σ) (key : String) (c : Call) : Prop :=
  let n := e.tasks.length
  let called := (e.play (.call c)).play (.turn n .go)
  (c = .load key ∧ ∃ entry, called.rest? n = some (.comparing key entry) ∧
    ∀ answer, entry.isFresh answer = false →
      (called.play (.turn n (.fingerprint answer))).Awaits n (n + 1)
        (e.orchestra.nextOf key false)) ∨
  ∃ forced, called.Awaits n (n + 1) (e.orchestra.nextOf key forced) ∧
    (called.play (.turn (n + 1) .go)).rest? (n + 1) =
      some (.marking (e.orchestra.nextOf key forced))

/-- A flight that does not look into the cache, or finds nothing there, asks for the fingerprint. -/
theorem turn_build_of_missing {o : Orchestra σ} {f : Flight}
    (h : f.forced = true ∨ o.cache.get? f.key = none) :
    (Errand.build f).turn .go o = ⟨o, .marking f, []⟩ := by
  unfold Errand.turn
  rcases h with h | h
  · simp [h]
  · cases hf : f.forced <;> simp [h, hf]

/-- A task that has to join and finds no flight on record launches one. -/
theorem awaits_of_join {e : Ensemble σ} {i : Nat} {t : Errand} (hi : e.rest? i = some t)
    {s : Signal} {key : String} (forced : Bool) (hr : e.orchestra.flights.get? key = none)
    (ht : t.turn s e.orchestra = e.orchestra.join key forced false) :
    (e.play (.turn i s)).Awaits i e.tasks.length (e.orchestra.nextOf key forced) := by
  have hturn := ht.trans (join_of_none e.orchestra key hr forced false)
  constructor
  · rw [rest?_turn hi, if_pos (lt_of_rest? hi), if_pos rfl, hturn]
    rfl
  · rw [rest?_turn hi, if_neg (Nat.lt_irrefl _), hturn, Nat.sub_self]
    rfl

theorem length_call (e : Ensemble σ) (c : Call) :
    (e.play (.call c)).tasks.length = e.tasks.length + 1 := by
  simp [play, begin]

/-- A turn begins as many tasks as it launches. -/
theorem length_turn {e : Ensemble σ} {i : Nat} {t : Errand} (hi : e.rest? i = some t)
    (s : Signal) :
    (e.play (.turn i s)).tasks.length =
      e.tasks.length + (t.turn s e.orchestra).launched.length := by
  simp [play_turn hi, begin, withOrchestra]

/-- A call that has to join and finds no flight on record starts over. -/
theorem startsOver_of_join {e : Ensemble σ} {key : String} {c : Call} (forced : Bool)
    (hr : e.orchestra.flights.get? key = none)
    (hc : forced = true ∨ e.orchestra.cache.get? key = none)
    (ht : c.errand.turn .go e.orchestra = e.orchestra.join key forced false) :
    e.StartsOver key c := by
  have hcall : (e.play (.call c)).rest? e.tasks.length = some c.errand := e.rest?_call c
  have hawaits : ((e.play (.call c)).play (.turn e.tasks.length .go)).Awaits e.tasks.length
      (e.play (.call c)).tasks.length (e.orchestra.nextOf key forced) :=
    awaits_of_join hcall forced hr ht
  rw [length_call] at hawaits
  have ho : ((e.play (.call c)).play (.turn e.tasks.length .go)).orchestra =
      e.orchestra.embark key := by
    rw [orchestra_turn hcall]
    exact congrArg Turn.orchestra (ht.trans (join_of_none e.orchestra key hr forced false))
  refine .inr ⟨forced, hawaits, ?_⟩
  rw [rest?_turn hawaits.2, if_pos (lt_of_rest? hawaits.2), if_pos rfl, turn_build_of_missing]
  rw [ho]
  exact hc

/-- A load that finds an artifact asks whether it is fresh, and starts over unless it is. -/
theorem startsOver_of_cached {e : Ensemble σ} {key : String} {entry : CacheEntry}
    (hs : e.orchestra.shutDown = false) (hr : e.orchestra.flights.get? key = none)
    (he : e.orchestra.cache.get? key = some entry) : e.StartsOver key (.load key) := by
  have hcall := e.rest?_call (.load key)
  have hturn : (Call.load key).errand.turn .go (e.play (.call (.load key))).orchestra =
      ⟨e.orchestra, .comparing key entry, []⟩ := by
    simp [Call.errand, Errand.turn, play, begin, hs, he]
  have hcomparing : ((e.play (.call (.load key))).play (.turn e.tasks.length .go)).rest?
      e.tasks.length = some (.comparing key entry) := by
    rw [rest?_turn hcall, if_pos (lt_of_rest? hcall), if_pos rfl, hturn]
  have ho : ((e.play (.call (.load key))).play (.turn e.tasks.length .go)).orchestra =
      e.orchestra := by
    rw [orchestra_turn hcall, hturn]
  have hlen : ((e.play (.call (.load key))).play (.turn e.tasks.length .go)).tasks.length =
      e.tasks.length + 1 := by
    rw [length_turn hcall, hturn, length_call]
    rfl
  refine .inl ⟨rfl, entry, hcomparing, fun answer hstale => ?_⟩
  have hawaits := awaits_of_join hcomparing (s := .fingerprint answer) false (ho ▸ hr)
    (by simp [Errand.turn, hstale])
  rwa [hlen, ho] at hawaits

/-- **A key without a flight on record starts over at the next load or reload.** -/
theorem startsOver {e : Ensemble σ} {key : String} {c : Call}
    (hc : c = .load key ∨ c = .reload key) (hs : e.orchestra.shutDown = false)
    (hr : e.orchestra.flights.get? key = none) : e.StartsOver key c := by
  rcases hc with rfl | rfl
  · cases he : e.orchestra.cache.get? key with
    | none =>
      refine startsOver_of_join false hr (.inr he) ?_
      simp [Call.errand, Errand.turn, hs, he]
    | some entry => exact startsOver_of_cached hs hr he
  · refine startsOver_of_join true hr (.inl rfl) ?_
    simp [Call.errand, Errand.turn, hs]

/-! ### Flights that break off -/

/-- **A flight that breaks off stays on record, and the next reload ends as it did.** Nothing is
launched and the source is not asked. -/
theorem dead_of_collapse {e : Ensemble σ} {i : Nat} {t : Errand} {f : Flight}
    (hi : e.rest? i = some t) (hf : t.flight? = some f) (ht : t ≠ .build f)
    (hs : e.orchestra.shutDown = false)
    (hr : e.orchestra.flights.get? f.key = some f.id) :
    let e₁ := e.play (.turn i .collapse)
    let n := e₁.tasks.length
    let e₂ := e₁.plays [.call (.reload f.key), .turn n .go, .turn n .go]
    e₁.flightAt i = none ∧ e₁.orchestra.flights = e.orchestra.flights ∧
      e₂.rest? n = some (.done (.landed (.error (.buildAborted f.key)))) ∧
      ∀ j, n < j → e₂.rest? j = none := by
  intro e₁ n e₂
  have hturn : t.turn .collapse e.orchestra = e.orchestra.crash f :=
    turn_collapse e.orchestra hf ht
  have ho : e₁.orchestra = (e.orchestra.crash f).orchestra :=
    (orchestra_turn hi .collapse).trans (congrArg Turn.orchestra hturn)
  have hl : e₁.orchestra.landing? f.id = some (.error (.buildAborted f.key)) := by
    rw [ho, landing?_of_landed (congrArg Ledger.landed (ledger_crash ..)), if_pos rfl]
  have hend : e₁.rest? i = some (.done .nothing) := by
    rw [rest?_turn_self hi, hturn]
    rfl
  have hcall : (e₁.play (.call (.reload f.key))).rest? n = some (.reload f.key) :=
    e₁.rest?_call (.reload f.key)
  have hjoin : (Errand.reload f.key).turn .go (e₁.play (.call (.reload f.key))).orchestra =
      ⟨e₁.orchestra, .joining f.id false, []⟩ := by
    have hr' : e₁.orchestra.flights.get? f.key = some f.id := ho ▸ hr
    have hs' : e₁.orchestra.shutDown = false := ho ▸ hs
    rw [← join_of_flight e₁.orchestra f.key hr' true false]
    simp [Errand.turn, play, begin, hs']
  have hwait : ((e₁.play (.call (.reload f.key))).play (.turn n .go)).rest? n =
      some (.joining f.id false) := by
    rw [rest?_turn hcall, if_pos (lt_of_rest? hcall), if_pos rfl, hjoin]
  have hwait' : ((e₁.play (.call (.reload f.key))).play (.turn n .go)).orchestra =
      e₁.orchestra := by
    rw [orchestra_turn hcall, hjoin]
  refine ⟨(flightAt_of_rest? hend).trans rfl, ho ▸ rfl, ?_, ?_⟩
  · change (((e₁.play (.call (.reload f.key))).play (.turn n .go)).play (.turn n .go)).rest? n = _
    rw [rest?_turn hwait, if_pos (lt_of_rest? hwait), if_pos rfl, hwait', turn_joining hl]
    rfl
  · intro j hj
    have hlen : e₂.tasks.length = n + 1 := by
      change (((e₁.play (.call (.reload f.key))).play (.turn n .go)).play (.turn n .go)).tasks.length
        = _
      rw [length_turn hwait, length_turn hcall, hjoin, hwait', turn_joining hl, length_call]
      rfl
    exact e₂.rest?_of_le (Nat.le_trans (Nat.le_of_eq hlen) hj)

/-- **A flight is off record once it is over, unless it broke off.** Take any run up to a flight,
the beat that ends it in any way but by breaking it off, and any run from there on. The records are
what the status counts; each is of a flight that is under way or has broken off, and none is of this
one. Nobody waits for it that did not wait already. While its key has no flight on record, a load or
a reload of the key launches a new one that asks the source, except that a load which finds an
artifact asks the source first whether that is fresh. -/
theorem flight_off_record_unless_broken_off {e : Ensemble σ} (he : e.Reached) {i : Nat} {f : Flight}
    (hf : e.flightAt i = some f) {b : Beat σ} (hend : (e.play b).flightAt i = none)
    (hb : b ≠ .turn i .collapse) (after : List (Beat σ)) :
    let e' := (e.play b).plays after
    e'.orchestra.status.inFlight = e'.orchestra.flights.length ∧
    (∀ p ∈ e'.orchestra.flights, p.2 ≠ f.id ∧ (e'.Aloft p.1 p.2 ∨ e'.BrokenOff p.1 p.2)) ∧
    (∀ j silent, e'.rest? j = some (.joining f.id silent) →
      (e.play b).rest? j = some (.joining f.id silent)) ∧
    ∀ c, c = .load f.key ∨ c = .reload f.key → e'.orchestra.shutDown = false →
      e'.orchestra.flights.get? f.key = none → e'.StartsOver f.key c := by
  intro e'
  obtain ⟨l, hl, hne⟩ := landed_of_ended hf hend hb
  have hs : Sound (e.play b) := sound_play he.sound b
  have hrec : Recorded (e.play b) := recorded_play he.sound he.recorded b
  have hrec' : Recorded e' := recorded_plays hs hrec after
  have hl' : e'.orchestra.landing? f.id = some l := landing?_plays hs after hl
  have hne' : ∀ p ∈ e'.orchestra.flights, p.2 ≠ f.id :=
    hrec'.ne_of_landed (sound_plays hs after) hl' hne
  exact ⟨rfl, fun p hp => ⟨hne' p hp, hrec'.flight p hp⟩,
    fun j silent hj => joining_of_plays hs hrec hl hne hj,
    fun c hc hshut hget => startsOver hc hshut hget⟩

/-- A flight whose source fails, and the reload after it. -/
theorem flight_off_record_bare :
    let e := bare.plays [.call (.load "k"), .turn 0 .go, .turn 1 .go,
      .turn 1 (.fingerprint (.ok ⟨"1"⟩))]
    let b := Beat.turn 1 (.text (.error (.notFound "k")))
    e.Reached ∧ e.flightAt 1 = some ⟨0, "k", false, 0⟩ ∧ (e.play b).flightAt 1 = none ∧
      (e.play b).orchestra.status.inFlight = 0 ∧ (e.play b).StartsOver "k" (.reload "k") := by
  intro e b
  have he : e.Reached := ⟨_, _, _, _, rfl⟩
  have hf : e.flightAt 1 = some ⟨0, "k", false, 0⟩ := rfl
  have hend : (e.play b).flightAt 1 = none := rfl
  have hb : b ≠ .turn 1 .collapse := by simp [b]
  obtain ⟨-, -, -, hstart⟩ := flight_off_record_unless_broken_off he hf hend hb []
  exact ⟨he, hf, hend, rfl, hstart (.reload "k") (.inr rfl) rfl rfl⟩

/-- A flight that breaks off stays on record: the status counts it, and the reload after it ends
with its error, without a new flight. -/
theorem broken_flight_stays_on_record :
    let e := bare.plays [.call (.load "k"), .turn 0 .go, .turn 1 .go,
      .turn 1 (.fingerprint (.ok ⟨"1"⟩)), .turn 1 .collapse]
    let e' := e.plays [.call (.reload "k"), .turn 2 .go, .turn 2 .go]
    e.rest? 1 = some (.done .nothing) ∧ e.orchestra.status.inFlight = 1 ∧
      e'.rest? 2 = some (.done (.landed (.error (.buildAborted "k")))) ∧
      ∀ j, 2 < j → e'.rest? j = none := by
  intro e e'
  have hi : (bare.plays [.call (.load "k"), .turn 0 .go, .turn 1 .go,
      .turn 1 (.fingerprint (.ok ⟨"1"⟩))]).rest? 1 = some (.reading ⟨0, "k", false, 0⟩ ⟨"1"⟩) := rfl
  obtain ⟨-, -, hlanded, hnone⟩ := dead_of_collapse hi rfl nofun rfl rfl
  exact ⟨rfl, rfl, hlanded, hnone⟩

end Ensemble

end LivePanel.Orchestra
