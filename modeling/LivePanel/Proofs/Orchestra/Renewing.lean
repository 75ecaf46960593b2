import LivePanel.Proofs.Orchestra.Reads
import LivePanel.Proofs.Orchestra.Recording
import LivePanel.Proofs.Orchestra.Sparing

/-!
# Templates that are renewed

A notice of a change drops the artifact of its key and begins a new generation of it, so whatever
flights of the key are under way can neither be joined any more nor leave anything behind. What
comes into the cache from then on is of a flight of the new generation, and no such flight has read
anything yet. If the key was known, the notice launches the first of these flights itself; it does
not look into the cache, and where the source does not fail it, it leaves an artifact when it ends.

## The model

* `Refreshed`: a change was told of, an artifact dropped and a generation begun.
* `Beat.Fails`: a flight ends without an artifact of its own.
* `Detached`: a flight that is left to itself.
* `Renews`: a notice waits for a flight of its own.

## What is proved

* `detached_of_overtaken`: a flight of an earlier generation that is not on record stays detached.
* `read_since`: what is in the cache after a new generation was begun has been read since.
* `promises_plays`: a forced flight of the current generation leaves an artifact.
* `changed_template_renewed`: what a notice of a change does, in every run.
-/

namespace LivePanel.Orchestra

variable {σ : Type}

/-! ### What a notice of a change does -/

/-- A change was told of, and then the artifact of a key dropped and a generation of it begun; of
the flights of the key, only the next one is on record. -/
structure Refreshed (what : Happening) (key : String) (o o' : Orchestra σ) : Prop where
  tells : o.scene.Tells [⟨what, none⟩] o'.scene
  entry : o'.cache.get? key = none
  generation : o'.generation key = o.generation key + 1
  flight : ∀ id, o'.flights.get? key = some id → id = o.nextFlight
  nextBuilt : o'.nextBuilt = o.nextBuilt
  shutDown : o'.shutDown = o.shutDown

section

variable (o : Orchestra σ) (what : Happening) (key : String)

theorem refreshed_invalidate : Refreshed what key o ((o.tell what).invalidate key).2 where
  tells := by
    have hscene : ((o.tell what).invalidate key).2.scene = (o.tell what).scene := by
      unfold invalidate
      dsimp only
      split <;> rfl
    rw [hscene]
    exact .emitted _ .still
  entry := by
    have hh := (o.tell what).holding_invalidate key key
    rw [if_pos rfl] at hh
    exact congrArg Holding.entry hh
  generation := generation_invalidate (o.tell what) key
  flight id hid := by cases ((o.tell what).flight_invalidate key).symm.trans hid
  nextBuilt := congrArg Ledger.nextBuilt ((o.tell what).ledger_invalidate key)
  shutDown := congrArg Ledger.shutDown ((o.tell what).ledger_invalidate key)

theorem refreshed_embark :
    Refreshed what key o (((o.tell what).invalidate key).2.embark key) := by
  have h := refreshed_invalidate o what key
  have hnext : ((o.tell what).invalidate key).2.nextFlight = o.nextFlight :=
    congrArg Ledger.nextFlight (ledger_invalidate ..)
  refine ⟨h.tells, h.entry, h.generation, fun id hid => ?_, h.nextBuilt, h.shutDown⟩
  have hh := ((o.tell what).invalidate key).2.holding_embark key key
  rw [if_pos rfl] at hh
  have hflight := congrArg Holding.flight hh
  rw [flight_holding, hid, hnext] at hflight
  exact Option.some.inj hflight

end

/-- A notice of a change tells of the change and refreshes the key of the path. -/
theorem turn_change [Hosted σ] {o : Orchestra σ} (hs : o.shutDown = false) {n : Watch.Notice}
    {path : String} {what : Happening}
    (hn : n = .added path ∧ what = .fileAdded path ∨ n = .changed path ∧ what = .fileChanged path) :
    (Errand.notice n).turn .go o = (o.tell what).refresh path := by
  unfold Errand.turn
  simp only [hs, Bool.false_eq_true, if_false]
  rcases hn with ⟨rfl, rfl⟩ | ⟨rfl, rfl⟩ <;> rfl

/-- A flight ends without an artifact of its own: the source fails it, or it breaks off. -/
inductive Beat.Fails (i : Nat) (e : Ensemble σ) : Beat σ → Prop where
  | unmarked {f : Flight} {cause : SourceError} (hi : e.rest? i = some (.marking f)) :
      Fails i e (.turn i (.fingerprint (.error cause)))
  | unread {f : Flight} {mark : Fingerprint} {cause : SourceError}
      (hi : e.rest? i = some (.reading f mark)) : Fails i e (.turn i (.text (.error cause)))
  | breaksOff {f : Flight} (hf : e.flightAt i = some f) : Fails i e (.turn i .collapse)

namespace Ensemble

variable [Hosted σ]

/-! ### Flights that are detached -/

/-- A flight that is left to itself: from now on it is not on record, so that nobody comes to wait
for it, and its turns leave alone what is kept and the bus. -/
def Detached (e : Ensemble σ) (i : Nat) (f : Flight) : Prop :=
  ∀ beats, (f.key, f.id) ∉ (e.plays beats).orchestra.flights ∧
    ∀ s, Untouched (e.plays beats).orchestra ((e.plays beats).play (.turn i s)).orchestra

/-- A flight that comes on record is the next one. -/
theorem flights_play {e : Ensemble σ} {b : Beat σ} {p : String × Nat}
    (hp : p ∈ (e.play b).orchestra.flights) :
    p ∈ e.orchestra.flights ∨ p.2 = e.orchestra.nextFlight := by
  cases b with
  | call | fire | cancel | outside | clearCache => exact .inl hp
  | turn i s =>
    cases hi : e.rest? i with
    | none =>
      rw [play_turn_of_none hi] at hp
      exact .inl hp
    | some t =>
      rw [orchestra_turn hi] at hp
      have hc := course e.orchestra t s
      cases hc.filed with
      | thins hr => exact .inl (hr.subset hp)
      | strikes _ _ _ _ _ hr =>
        rw [hr] at hp
        split at hp
        · exact .inl (List.mem_filter.1 hp).1
        · exact .inl hp
      | breaksOff _ _ _ _ _ hr => exact .inl (hr ▸ hp)
      | @launches f rest _ _ hn _ hrest hr =>
        rcases Table.mem_put (hr ▸ hp) with rfl | hp
        · right
          cases hc.flown with
          | goesOn _ hn' | lands _ _ hn' => cases hn.symm.trans hn'
          | launches _ _ hn' hi =>
            obtain rfl : f = _ := by simpa using hn.symm.trans hn'
            exact hi
        · exact .inl (hrest.subset hp)
  | letGo i =>
    simp only [play] at hp
    split at hp
    · exact .inl hp
    · split at hp
      · exact .inl hp
      · exact .inl (by simpa [withOrchestra] using hp)
  | loadText k text bound => exact .inl ((flights_loadText ..).subset hp)
  | invalidate k =>
    simp only [play, withOrchestra, flights_invalidate] at hp
    exact .inl (List.mem_filter.1 hp).1

/-- **A flight of an earlier generation that is not on record is left to itself for good.** -/
theorem detached_of_overtaken {e : Ensemble σ} (hs : Sound e) {i : Nat} {f : Flight}
    (hf : e.flightAt i = some f) (ho : f.Overtaken e.orchestra)
    (hr : (f.key, f.id) ∉ e.orchestra.flights) : e.Detached i f := by
  intro beats
  constructor
  · induction beats using List.reverseRecOn with
    | nil => exact hr
    | append_singleton beats b ih =>
      rw [plays_concat]
      intro hp
      rcases flights_play hp with hp | hid
      · exact ih hp
      · have hlt := hs.below hf
        have hle := (e.grows_plays beats).nextFlight
        omega
  · intro s
    rcases flightAt_plays (.inl hf) beats with h | h
    · obtain ⟨t, ht, htf⟩ := Option.bind_eq_some_iff.1 h
      rw [orchestra_turn ht]
      exact untouched_of_overtaken htf (ho.grows (e.grows_plays beats)) s
    · rw [orchestra_turn h]
      exact .refl

/-! ### What is read since a generation has begun -/

/-- **What is in the cache after a key was dropped and a generation of it was begun has been read
since.** All flights of the key that read by then are of earlier generations. -/
theorem read_since {setup : Setup σ} {scene : Scene σ} {log : ActivityLog}
    {start after : List (Beat σ)} {key : String}
    (hnone : ((opening setup scene log).plays start).orchestra.cache.get? key = none)
    (hold : ∀ i f mark, ((opening setup scene log).plays start).rest? i = some (.reading f mark) →
      f.key = key →
        f.generation < ((opening setup scene log).plays start).orchestra.generation key)
    (hafter : Along (fun e b => ¬ b.Disturbs key e) ((opening setup scene log).plays start) after)
    {entry : CacheEntry}
    (he : ((opening setup scene log).plays (start ++ after)).orchestra.cache.get? key =
      some entry) :
    ∃ m, start.length ≤ m ∧
      ReadAt (opening setup scene log) (start ++ after) key entry.built m := by
  induction after using List.reverseRecOn generalizing entry with
  | nil =>
    rw [List.append_nil] at he
    cases hnone.symm.trans he
  | append_singleton after b ih =>
    obtain ⟨hafter, hb, -⟩ := (along_append _ _ after [b]).1 hafter
    rw [← plays_append] at hb
    rw [← List.append_assoc, plays_concat] at he
    rw [← List.append_assoc]
    cases Ensemble.keeps ((opening setup scene log).plays (start ++ after)) key b with
    | lessens hle =>
      cases hle with
      | same hsame =>
        obtain ⟨m, hm, hread⟩ := ih hafter (hsame ▸ he)
        exact ⟨m, hm, hread.append [b]⟩
      | dropped hdropped => cases hdropped.symm.trans he
    | @built i f mark text hi hturn hk _ hg hst =>
      subst hturn
      obtain rfl := Option.some.inj (hst.entry.symm.trans he)
      obtain ⟨m, hread, hiff⟩ := readAt_of_reading hi text
      refine ⟨m, Nat.not_lt.1 fun hlt => ?_, hk ▸ hread⟩
      obtain ⟨mark', hi'⟩ := (hiff start.length (by simp)).1 hlt
      rw [atBeat_append_length] at hi'
      have hlater := hold i f mark' hi' hk
      have hgrows := (((opening setup scene log).plays start).grows_plays after).generation key
      rw [← plays_append] at hgrows
      omega
    | given hgiven => exact absurd (.inl (hgiven ▸ rfl)) hb
    | rebuilt hi hturn hrun => exact absurd (.inr (.inr (.inl ⟨_, _, _, _, hturn, hi, hrun⟩))) hb

/-! ### What a forced flight leaves -/

/-- A flight of the current generation of its key is under way, or there is an artifact. -/
structure Promises (i : Nat) (f : Flight) (e : Ensemble σ) : Prop where
  running : e.orchestra.shutDown = false
  generation : e.orchestra.generation f.key = f.generation
  flight : e.flightAt i = some f ∨ e.orchestra.cache.has f.key = true

/-- A forced flight of the current generation leaves an artifact, unless the source fails it. -/
theorem has_of_ended {e : Ensemble σ} (he : e.Reached) {i : Nat} {f : Flight}
    (hf : e.flightAt i = some f) (hforced : f.forced = true) (hs : e.orchestra.shutDown = false)
    (hg : e.orchestra.generation f.key = f.generation) {b : Beat σ} (hb : ¬ b.Fails i e) :
    (e.play b).flightAt i = some f ∨ (e.play b).orchestra.cache.has f.key = true := by
  obtain ⟨t, ht, htf⟩ := Option.bind_eq_some_iff.1 hf
  rcases rest?_play ht b with h | ⟨s, rfl, h⟩ | ⟨-, hk, -⟩
  · exact .inl ((flightAt_of_rest? h).trans htf)
  · rcases ends_of_turn e.orchestra htf s with hgo | ⟨-, l, hend, -⟩
    · exact .inl ((flightAt_of_rest? h).trans hgo)
    · cases hend with
      | serves => cases hforced.symm.trans (he.unforced ht)
      | unmarked => exact absurd (.unmarked ht) hb
      | unread => exact absurd (.unread ht) hb
      | @builds mark text =>
        right
        rw [orchestra_turn ht, turn_reading]
        exact has_buildText_of_current e.orchestra text mark hs hg
      | breaksOff => exact absurd (.breaksOff hf) hb
  · cases (Errand.isKept_of_flight? htf).symm.trans hk

theorem promises_play {e : Ensemble σ} (he : e.Reached) {i : Nat} {f : Flight}
    (hforced : f.forced = true) (h : Promises i f e) {b : Beat σ} (hb : ¬ b.Disturbs f.key e)
    (hfails : ¬ b.Fails i e) : Promises i f (e.play b) := by
  have hr := retained_play he.refusing h.running hb
  refine ⟨hr.shutDown.trans h.running, hr.generation.trans h.generation, ?_⟩
  rcases h.flight with hf | hc
  · exact has_of_ended he hf hforced h.running h.generation hfails
  · exact .inr (hr.entry hc)

/-- **A forced flight of the current generation leaves an artifact when it ends**, unless its key is
disturbed or the source fails it. -/
theorem promises_plays {e : Ensemble σ} (he : e.Reached) {i : Nat} {f : Flight}
    (hforced : f.forced = true) (h : Promises i f e) {beats : List (Beat σ)}
    (hb : Along (fun e b => ¬ b.Disturbs f.key e ∧ ¬ b.Fails i e) e beats) :
    Promises i f (e.plays beats) := by
  induction beats generalizing e with
  | nil => exact h
  | cons b beats ih => exact ih (he.plays [b]) (promises_play he hforced h hb.1.1 hb.1.2) hb.2

/-! ### How the flight of a notice ends -/

/-- The answers of a source that has the text of a flight, and the turn of the task that waits for
the flight. -/
def answers (i own : Nat) (mark : Fingerprint) (text : String) : List (Beat σ) :=
  [.turn own .go, .turn own (.fingerprint (.ok mark)), .turn own (.text (.ok text)), .turn i .go]

/-- A forced flight that is set out asks for the fingerprint, or has done so. -/
theorem marking_of_go {e : Ensemble σ} (he : e.Reached) {i : Nat} {f : Flight}
    (hf : e.flightAt i = some f) (hforced : f.forced = true) :
    (e.play (.turn i .go)).rest? i = some (.marking f) ∨
      ∃ mark, (e.play (.turn i .go)).rest? i = some (.reading f mark) := by
  obtain ⟨t, ht, htf⟩ := Option.bind_eq_some_iff.1 hf
  have hnext := rest?_turn_self ht .go
  cases t with
  | build g =>
    obtain rfl := Option.some.inj htf
    rw [turn_build_of_missing (.inl hforced)] at hnext
    exact .inl hnext
  | comparingIn g entry =>
    obtain rfl := Option.some.inj htf
    cases hforced.symm.trans (he.unforced ht)
  | marking g =>
    obtain rfl := Option.some.inj htf
    exact .inl hnext
  | reading g mark =>
    obtain rfl := Option.some.inj htf
    exact .inr ⟨mark, hnext⟩
  | _ => cases htf

/-- **A forced flight ends when the source answers it.** -/
theorem done_of_answers {e : Ensemble σ} (he : e.Reached) {i : Nat} {f : Flight}
    (hf : e.flightAt i = some f ∨ e.rest? i = some (.done .nothing)) (hforced : f.forced = true)
    (mark : Fingerprint) (text : String) :
    (e.plays [.turn i .go, .turn i (.fingerprint (.ok mark)), .turn i (.text (.ok text))]).rest? i =
      some (.done .nothing) := by
  rcases hf with hf | hdone
  · have hreading : ∃ mark', ((e.play (.turn i .go)).play
        (.turn i (.fingerprint (.ok mark)))).rest? i = some (.reading f mark') := by
      rcases marking_of_go he hf hforced with h | ⟨mark', h⟩
      · exact ⟨mark, rest?_turn_self h _⟩
      · exact ⟨mark', rest?_turn_self h _⟩
    obtain ⟨mark', h⟩ := hreading
    simp only [plays_cons, plays_nil]
    rw [rest?_turn_self h, turn_reading]
    rfl
  · exact done_plays hdone _

/-- A flight and the task that waits for it are mute to the end. -/
theorem along_answers {e : Ensemble σ} {i own : Nat} {f : Flight}
    (hf : e.flightAt own = some f ∨ e.rest? own = some (.done .nothing))
    (hi : ∀ beats, ∃ t, (e.plays beats).rest? i = some t ∧ t.Mute) (key : String)
    (mark : Fingerprint) (text : String) :
    Along (fun e b => ¬ b.Disturbs key e ∧ ¬ b.Fails own e) e (answers i own mark text) := by
  have hown : ∀ beats s, ¬ (Beat.turn own s).Disturbs key (e.plays beats) := by
    intro beats s
    rcases flightAt_plays hf beats with h | h
    · obtain ⟨t, ht, htf⟩ := Option.bind_eq_some_iff.1 h
      exact not_disturbs_of_mute ht (Errand.mute_of_flight? htf) s key
    · exact not_disturbs_of_mute h trivial s key
  refine ⟨⟨hown [] _, by rintro ⟨⟩⟩, ⟨hown [.turn own .go] _, by rintro ⟨⟩⟩,
    ⟨hown [.turn own .go, .turn own (.fingerprint (.ok mark))] _, by rintro ⟨⟩⟩,
    ⟨?_, by rintro ⟨⟩⟩, trivial⟩
  obtain ⟨t, ht, hm⟩ := hi [.turn own .go, .turn own (.fingerprint (.ok mark)),
    .turn own (.text (.ok text))]
  exact not_disturbs_of_mute ht hm .go key

/-- A task waits for a flight of its own that does not look into the cache and is the one on record.
The task ends no sooner than the flight. When the flight ends, the key has an artifact, unless the
key was disturbed or the source has failed the flight. And if only the source answers the flight
when it is asked, both come to their ends. -/
structure Renews (e : Ensemble σ) (i own : Nat) (f : Flight) : Prop where
  forced : f.forced = true
  flies : e.rest? own = some (.build f)
  record : e.orchestra.flights.get? f.key = some f.id
  waits : e.rest? i = some (.joining f.id true)
  outlasts : ∀ beats, .letGo i ∉ beats → (e.plays beats).rest? i = some (.done .nothing) →
    (e.plays beats).flightAt own = none
  leaves : ∀ beats, Along (fun e b => ¬ b.Disturbs f.key e ∧ ¬ b.Fails own e) e beats →
    (e.plays beats).flightAt own = none → (e.plays beats).orchestra.cache.has f.key = true
  ends : ∀ beats mark text,
    Along (fun e b => ¬ b.Disturbs f.key e ∧ ¬ b.Fails own e) (e.plays beats)
      (answers i own mark text) ∧
    (e.plays (beats ++ answers i own mark text)).rest? own = some (.done .nothing) ∧
    (e.plays (beats ++ answers i own mark text)).rest? i = some (.done .nothing)

/-- A task that has waited for a flight ends with its next turn after the flight. -/
theorem over_of_done {e : Ensemble σ} (hs : Sound e) {i own : Nat} {f : Flight}
    (hown : e.flightAt own = some f) (hi : e.rest? i = some (.joining f.id true))
    {beats : List (Beat σ)} (hdone : (e.plays beats).rest? own = some (.done .nothing)) :
    (e.plays (beats ++ [.turn i .go])).rest? i = some (.done .nothing) := by
  rw [plays_concat]
  rcases aloft_or_landed hs hown beats with hf | ⟨-, l, hl⟩
  · cases (flightAt_of_rest? hdone).symm.trans hf
  · rcases joining_plays hs hi beats with h | ⟨_, -, h⟩ | ⟨-, h⟩
    · rw [rest?_turn_self h, turn_joining_of_landed hl]
      rfl
    · exact done_plays h [.turn i .go]
    · exact done_plays h [.turn i .go]

/-- **A task that has launched a flight for a key waits until the key is renewed.** -/
theorem renews_of_launched {e : Ensemble σ} (he : e.Reached) {i own : Nat} {f : Flight}
    (hs : e.orchestra.shutDown = false) (hforced : f.forced = true)
    (hg : e.orchestra.generation f.key = f.generation) (hown : e.rest? own = some (.build f))
    (hrecord : e.orchestra.flights.get? f.key = some f.id)
    (hi : e.rest? i = some (.joining f.id true)) : e.Renews i own f where
  forced := hforced
  flies := hown
  record := hrecord
  waits := hi
  outlasts beats hk hend := by
    rcases aloft_or_landed he.sound (flightAt_of_rest? hown) beats with hf | ⟨hdone, -⟩
    · rcases joining_plays he.sound hi beats with h | ⟨l, hl, -⟩ | ⟨hmem, -⟩
      · cases h.symm.trans hend
      · cases ((he.plays beats).sound.aloft hf).symm.trans hl
      · exact absurd hmem hk
    · exact flightAt_of_rest? hdone
  leaves beats hb hend := by
    have hp : Promises own f e := ⟨hs, hg, .inl (flightAt_of_rest? hown)⟩
    rcases (promises_plays he hforced hp hb).flight with hf | hc
    · cases hend.symm.trans hf
    · exact hc
  ends beats mark text := by
    have hflight := flightAt_plays (.inl (flightAt_of_rest? hown)) beats
    have hmute : ∀ beats', ∃ t, ((e.plays beats).plays beats').rest? i = some t ∧ t.Mute := by
      intro beats'
      rw [← plays_append]
      rcases joining_plays he.sound hi (beats ++ beats') with h | ⟨_, -, h⟩ | ⟨-, h⟩ <;>
        exact ⟨_, h, trivial⟩
    have hdone := done_of_answers (he.plays beats) hflight hforced mark text
    refine ⟨along_answers hflight hmute f.key mark text, ?_, ?_⟩
    · rw [plays_append]
      exact done_plays hdone [.turn i .go]
    · rw [← plays_append] at hdone
      have hover := over_of_done he.sound (flightAt_of_rest? hown) hi hdone
      rwa [List.append_assoc] at hover

/-! ### Notices of changes -/

section

variable {setup : Setup σ} {scene : Scene σ} {log : ActivityLog} {before : List (Beat σ)}
  {i : Nat} {n : Watch.Notice} {path key : String} {what : Happening}

/-- The flights of a key that is refreshed are detached. -/
theorem detached_of_refreshed {e : Ensemble σ} (he : e.Reached)
    (hi : e.rest? i = some (.notice n))
    (hr : Refreshed what key e.orchestra (e.play (.turn i .go)).orchestra) {j : Nat} {f : Flight}
    (hf : e.flightAt j = some f) (hk : f.key = key) : (e.play (.turn i .go)).Detached j f := by
  obtain ⟨t, ht, htf⟩ := Option.bind_eq_some_iff.1 hf
  have hne : j ≠ i := by
    rintro rfl
    obtain rfl := Option.some.inj (hi.symm.trans ht)
    cases htf
  have hf' : (e.play (.turn i .go)).flightAt j = some f := by
    refine (flightAt_of_rest? ?_).trans htf
    rw [rest?_turn hi, if_pos (lt_of_rest? ht), if_neg hne, ht]
  have he' : (e.play (.turn i .go)).Reached := he.plays [.turn i .go]
  refine detached_of_overtaken he'.sound hf' (.inr ?_) fun hmem => ?_
  · have hle := he.sound.generation hf
    have hg := hr.generation
    rw [hk] at hle ⊢
    omega
  · have hget := Table.get?_of_mem he'.recorded.ordered hmem
    have hid := hr.flight f.id (hk ▸ hget)
    have hlt := he.sound.below hf
    omega

/-- What comes into the cache after a key was refreshed has been read since. -/
theorem read_after_refreshed
    (hi : ((opening setup scene log).plays before).rest? i = some (.notice n))
    (hr : Refreshed what key ((opening setup scene log).plays before).orchestra
      (((opening setup scene log).plays before).play (.turn i .go)).orchestra)
    {after : List (Beat σ)}
    (hafter : Along (fun e b => ¬ b.Disturbs key e)
      (((opening setup scene log).plays before).play (.turn i .go)) after) {entry : CacheEntry}
    (he : ((((opening setup scene log).plays before).play (.turn i .go)).plays
      after).orchestra.cache.get? key = some entry) :
    ∃ m, before.length < m ∧
      ReadAt (opening setup scene log) (before ++ .turn i .go :: after) key entry.built m := by
  have hstart := plays_concat (opening setup scene log) before (.turn i .go)
  have hs : Sound ((opening setup scene log).plays before) :=
    sound_plays (sound_opening setup scene log) before
  -- a flight that reads has done so before the key was refreshed
  have hold : ∀ j f mark,
      (((opening setup scene log).plays before).play (.turn i .go)).rest? j =
        some (.reading f mark) → f.key = key → f.generation <
          (((opening setup scene log).plays before).play (.turn i .go)).orchestra.generation
            key := by
    intro j f mark hj hk
    rcases rest?_of_asks hj trivial with hj | ⟨s, t, hb, ht, hread⟩
    · have hle := hs.generation (flightAt_of_rest? hj)
      rw [hk] at hle
      rw [hr.generation]
      exact Nat.lt_succ_of_le hle
    · obtain ⟨rfl, rfl⟩ := Beat.turn.inj hb
      obtain rfl := Option.some.inj (hi.symm.trans ht)
      rcases reading_of_turn hread.symm with h | ⟨-, h⟩ <;> cases h
  rw [← hstart] at hr hafter he hold
  rw [← plays_append] at he
  obtain ⟨m, hm, hread⟩ := read_since hr.entry hold hafter he
  rw [List.length_append] at hm
  rw [List.append_assoc] at hread
  exact ⟨m, hm, hread⟩

/-- A notice of a change of a key that is known launches a flight, and waits for it. -/
theorem renews_of_known {e : Ensemble σ} (he : e.Reached) (hs : e.orchestra.shutDown = false)
    (hi : e.rest? i = some (.notice n))
    (hturn : (Errand.notice n).turn .go e.orchestra =
      ⟨((e.orchestra.tell what).invalidate key).2.embark key,
        .joining ((e.orchestra.tell what).invalidate key).2.nextFlight true,
        [.build (((e.orchestra.tell what).invalidate key).2.nextOf key true)]⟩) :
    (e.play (.turn i .go)).Renews i e.tasks.length
      (((e.orchestra.tell what).invalidate key).2.nextOf key true) := by
  have ho := orchestra_turn hi .go
  rw [hturn] at ho
  have hr := refreshed_embark e.orchestra what key
  have he' : (e.play (.turn i .go)).Reached := he.plays [.turn i .go]
  refine renews_of_launched he' ?_ rfl ?_ ?_ ?_ ?_
  · rw [ho]
    exact hr.shutDown.trans hs
  · rw [ho]
    rfl
  · rw [rest?_turn hi, if_neg (Nat.lt_irrefl _), hturn, Nat.sub_self]
    rfl
  · have hh := ((e.orchestra.tell what).invalidate key).2.holding_embark key key
    rw [if_pos rfl] at hh
    rw [ho]
    exact congrArg Holding.flight hh
  · rw [rest?_turn_self hi, hturn]
    rfl

/-- **A notice of a change tells of it first, detaches the flights of its key, and has the key
renewed if it was known.** Take any run, and a notice that a file was added or changed whose path
has a key. If the orchestra has been shut down, the notice does nothing. Otherwise it tells of the
file and of nothing else, and the flights of the key that are under way are detached. In any run
from there on that does not disturb the key, every artifact that comes into the cache is of a text
that was begun to be read after the notice. If the orchestra builds templates again and the key had
an artifact or a template, the notice waits until the key is renewed. If not, it is over, has
launched and built nothing, and leaves no artifact of the key. -/
theorem changed_template_renewed
    (hn : n = .added path ∧ what = .fileAdded path ∨ n = .changed path ∧ what = .fileChanged path)
    (hi : ((opening setup scene log).plays before).rest? i = some (.notice n))
    (hk : setup.keyOf? path = some key) :
    let e₀ := opening setup scene log
    let e := e₀.plays before
    let e' := e.play (.turn i .go)
    let known := e.orchestra.cache.has key = true ∨ e.orchestra.loaded.has key = true
    (e.orchestra.shutDown = true → e' = e.setRest i (.done .nothing)) ∧
    (e.orchestra.shutDown = false →
      e.orchestra.scene.Tells [⟨what, none⟩] e'.orchestra.scene ∧
      (∀ j f, e.flightAt j = some f → f.key = key → e'.Detached j f) ∧
      (∀ after, Along (fun e b => ¬ b.Disturbs key e) e' after → ∀ entry,
        (e'.plays after).orchestra.cache.get? key = some entry →
          ∃ m, before.length < m ∧ ReadAt e₀ (before ++ .turn i .go :: after) key entry.built m) ∧
      (setup.hotReload = true ∧ known → ∃ f, f.key = key ∧ e'.Renews i e.tasks.length f) ∧
      (¬ (setup.hotReload = true ∧ known) →
        e' = (e.withOrchestra e'.orchestra).setRest i (.done .nothing) ∧
        e'.orchestra.cache.get? key = none ∧ e'.orchestra.nextBuilt = e.orchestra.nextBuilt)) := by
  intro e₀ e e' known
  have he : e.Reached := ⟨_, _, _, _, rfl⟩
  have hsetup : (e.orchestra.tell what).setup = setup := (grows_plays e₀ before).setup
  constructor
  · intro hs
    have hturn : (Errand.notice n).turn .go e.orchestra = .over e.orchestra .nothing := by
      unfold Errand.turn
      simp only [hs, if_true]
    exact play_turn_of_eq hi hturn rfl
  intro hs
  have hturn := turn_change hs hn
  have ho : e'.orchestra = ((Errand.notice n).turn .go e.orchestra).orchestra :=
    orchestra_turn hi .go
  rw [← hsetup] at hk ⊢
  have hknown : (e.orchestra.tell what).setup.hotReload = true ∧ known → _ := fun h =>
    hturn.trans (refresh_of_known hk h.1 h.2)
  have hunknown : ¬ ((e.orchestra.tell what).setup.hotReload = true ∧ known) → _ := fun h =>
    hturn.trans (refresh_of_unknown hk h)
  have hr : Refreshed what key e.orchestra e'.orchestra := by
    by_cases h : (e.orchestra.tell what).setup.hotReload = true ∧ known
    · rw [ho, hknown h]
      exact refreshed_embark ..
    · rw [ho, hunknown h]
      exact refreshed_invalidate ..
  refine ⟨hr.tells, fun j f hf hfk => detached_of_refreshed he hi hr hf hfk, ?_, ?_, ?_⟩
  · intro after hafter entry hentry
    exact read_after_refreshed hi hr hafter hentry
  · intro h
    exact ⟨_, rfl, renews_of_known he hs hi (hknown h)⟩
  · intro h
    refine ⟨?_, hr.entry, hr.nextBuilt⟩
    rw [ho, hunknown h]
    exact play_turn_of_eq hi (hunknown h) rfl

end

/-- A notice of a change of a key that was loaded: when its flight is answered, the key has an
artifact that was read after the notice. -/
theorem changed_template_renewed_bare :
    let before : List (Beat Bridge) := [.call (.load "k"), .turn 0 .go, .turn 1 .go,
      .turn 1 (.fingerprint (.ok ⟨"1"⟩)), .turn 1 (.text (.ok "")), .call (.notice (.changed "k"))]
    let after : List (Beat Bridge) := answers 2 3 ⟨"2"⟩ ""
    (bare.plays before).rest? 2 = some (.notice (.changed "k")) ∧
      (bare.plays before).orchestra.cache.has "k" = true ∧
      (((bare.plays before).play (.turn 2 .go)).plays after).rest? 2 = some (.done .nothing) ∧
      ∃ entry,
        (((bare.plays before).play (.turn 2 .go)).plays after).orchestra.cache.get? "k" =
          some entry ∧
        ∃ m, before.length < m ∧
          ReadAt bare (before ++ .turn 2 .go :: after) "k" entry.built m := by
  intro before after
  have hi : (bare.plays before).rest? 2 = some (.notice (.changed "k")) := rfl
  have hreading : (bare.plays [.call (.load "k"), .turn 0 .go, .turn 1 .go,
      .turn 1 (.fingerprint (.ok ⟨"1"⟩))]).rest? 1 =
        some (.reading ⟨0, "k", false, 0⟩ ⟨"1"⟩) := rfl
  have hcached : (bare.plays before).orchestra.cache.has "k" = true := by
    have ho : (bare.plays before).orchestra = _ := orchestra_turn hreading (.text (.ok ""))
    rw [ho, turn_reading, cache_land]
    exact has_buildText_of_current _ "" ⟨"1"⟩ rfl rfl
  have hlen : (bare.plays before).tasks.length = 3 := rfl
  have hopening : opening { registry := [], keyOf? := some } ⟨Bus.empty, .detached {}⟩
      (.ofCapacity 50) = bare := rfl
  obtain ⟨-, hrun⟩ := changed_template_renewed (.inr ⟨rfl, rfl⟩) hi rfl
  rw [hopening, hlen] at hrun
  obtain ⟨-, -, hread, hknown, -⟩ := hrun rfl
  obtain ⟨f, hk, hrenews⟩ := hknown ⟨rfl, .inl hcached⟩
  obtain ⟨hafter, hdone, hover⟩ := hrenews.ends [] ⟨"2"⟩ ""
  have hkept := hrenews.leaves after hafter (flightAt_of_rest? hdone)
  rw [hk] at hkept hafter
  obtain ⟨entry, hentry⟩ := Option.isSome_iff_exists.1 hkept
  have hsince := hread after (hafter.imp fun _ _ => And.left) entry hentry
  exact ⟨hi, hcached, hover, entry, hentry, hsince⟩

end Ensemble

end LivePanel.Orchestra
