import LivePanel.Proofs.Orchestra.Sharing

/-!
# Runs of loads

Here the phases of a shared flight are followed through whole runs, and each run is shown to have
an end: whatever has been played, the turns that are due bring all loads home.

## What is proved

* `sharing_plays`: a calm run leads from a phase to a phase.
* `finish`: from each phase on, all loads can be brought to their end.
* `loads_share_one_flight`: what comes of both.
-/

namespace LivePanel.Orchestra

variable {σ : Type}

/-- A task has a turn. -/
def Beat.isTurn : Beat σ → Bool
  | .turn .. => true
  | _ => false

namespace Ensemble

/-- All loads of a key are over. -/
def Over (n : Nat) (key : String) (e : Ensemble σ) : Prop :=
  ∀ i, e.IsCall n key i → ∃ r, e.rest? i = some (.done r)

section

variable {n : Nat} {key : String} {mark : Fingerprint} {text : String} {setup : Setup σ}
  {p : Phase} {e : Ensemble σ} {i : Nat} {t : Errand}

/-- A load has something left to do, or is over. -/
theorem IsCall.rest? (h : e.IsCall n key i) : ∃ t, e.rest? i = some t := by
  obtain ⟨task, htask, -⟩ := Option.map_eq_some_iff.1 h.2
  exact ⟨task.rest, Option.map_eq_some_iff.2 ⟨task, htask, rfl⟩⟩

/-- A load that is over has ended with the artifact of the flight. -/
theorem Sharing.returned (h : Sharing n key mark text setup p e) (hc : e.IsCall n key i)
    {r : Outcome} (hr : e.rest? i = some (.done r)) :
    ∃ id b, p = .home id b ∧ r = .landed (.ok b) := by
  cases h.calls i _ hc hr with
  | returned => exact ⟨_, _, rfl, rfl⟩

/-- An idle key is still. -/
theorem Idle.sharing (h : e.Idle key) (mark : Fingerprint) (text : String) :
    Sharing e.tasks.length key mark text e.orchestra.setup .still e where
  same := rfl
  running := h.running
  fits := Nat.le_refl _
  held := ⟨h.entry, h.flight⟩
  flies := trivial
  built := by
    intro id b hp
    cases hp
  calls := by
    intro i t hc ht
    rw [rest?_of_le e hc.1] at ht
    cases ht
  others := fun i t _ _ ht => h.tasks i t ht

end

variable [Hosted σ]

/-! ### Along a run -/

/-- **A calm run leads from a phase to a phase.** -/
theorem sharing_plays {n : Nat} {key : String} {mark : Fingerprint} {text : String}
    {setup : Setup σ} {p : Phase} {e : Ensemble σ} (h : Sharing n key mark text setup p e)
    (hs : Sound e) {beats : List (Beat σ)} (hb : Calm n key mark text e beats) :
    ∃ p', Sharing n key mark text setup p' (e.plays beats) ∧
      p'.reads = p.reads + e.tally (fun e b => b.reads key e) beats ∧
      p'.builds = p.builds + e.tally (fun e b => b.builds key e) beats ∧
      ∃ es, Telling e beats es ∧
        p'.told key (Template.parse text setup.options.maxDepth) =
          p.told key (Template.parse text setup.options.maxDepth) ++ es.filter (about key) := by
  induction beats generalizing p e with
  | nil => exact ⟨p, h, rfl, rfl, [], .nil, by simp⟩
  | cons b beats ih =>
    obtain ⟨p₁, hon⟩ := sharing_play h hs hb.1
    obtain ⟨es₁, ht₁, hes₁⟩ := hon.told
    obtain ⟨p₂, h₂, hr₂, hb₂, es₂, ht₂, hes₂⟩ := ih hon.sharing (sound_play hs b) hb.2
    rw [hes₁, List.append_assoc, ← List.filter_append] at hes₂
    refine ⟨p₂, h₂, ?_, ?_, es₁ ++ es₂, ht₁.append ht₂, hes₂⟩
    · rw [hr₂, hon.reads, tally, Nat.add_assoc]
    · rw [hb₂, hon.builds, tally, Nat.add_assoc]

/-! ### To the end -/

/-- The loads of a key can be brought to their end, by turns alone. -/
def Finishes (n : Nat) (key : String) (mark : Fingerprint) (text : String) (e : Ensemble σ) :
    Prop :=
  ∃ more, (∀ b ∈ more, b.isTurn) ∧ Calm n key mark text e more ∧ Over n key (e.plays more)

section

variable {n m : Nat} {key : String} {mark : Fingerprint} {text : String} {setup : Setup σ}
  {p : Phase} {e : Ensemble σ} {i : Nat} {t : Errand} {s : Signal}

theorem Finishes.of_over (h : Over n key e) : Finishes n key mark text e :=
  ⟨[], by simp, trivial, h⟩

/-- One more turn on the way to the end. -/
theorem Finishes.turn (s : Signal) (hi : e.rest? i = some t)
    (hcalm : t.Touches e.orchestra.setup.keyOf? key → s.Steady mark text)
    (h : Finishes n key mark text (e.play (.turn i s))) : Finishes n key mark text e := by
  obtain ⟨more, hturn, hmore, hover⟩ := h
  refine ⟨.turn i s :: more, ?_, ⟨?_, hmore⟩, hover⟩
  · simpa [Beat.isTurn] using hturn
  · intro t' ht'
    obtain rfl := Option.some.inj (hi.symm.trans ht')
    exact hcalm

omit [Hosted σ] in
/-- All loads from the `m`-th task on are over. -/
def OverFrom (n m : Nat) (key : String) (e : Ensemble σ) : Prop :=
  ∀ i, m ≤ i → e.IsCall n key i → ∃ r, e.rest? i = some (.done r)

omit [Hosted σ] in
theorem OverFrom.pred (h : OverFrom n (m + 1) key e)
    (hm : e.IsCall n key m → ∃ r, e.rest? m = some (.done r)) : OverFrom n m key e := by
  intro i hmi hc
  rcases Nat.eq_or_lt_of_le hmi with rfl | hlt
  · exact hm hc
  · exact h i hlt hc

/-- Loads that are over stay so while an earlier one has a turn. -/
theorem OverFrom.turn (h : OverFrom n (m + 1) key e) (hm : e.rest? m = some t)
    {turn : Turn σ} (ht : t.turn s e.orchestra = turn) (hn : turn.launched = []) :
    OverFrom n (m + 1) key (e.play (.turn m s)) ∧
      (e.play (.turn m s)).rest? m = some turn.errand ∧
      ((e.play (.turn m s)).IsCall n key m ↔ e.IsCall n key m) := by
  rw [play_turn_of_eq hm ht hn]
  have hm' : (e.withOrchestra turn.orchestra).rest? m = some t := hm
  refine ⟨?_, ?_, isCall_setRest⟩
  · intro i hmi hc
    rw [isCall_setRest] at hc
    rw [rest?_setRest i _ hm', if_neg (Nat.ne_of_gt hmi)]
    exact h i hmi hc
  · rw [rest?_setRest m _ hm', if_pos rfl]

/-- The last turn of a load, when the flight is home. -/
theorem finishes_of_last {id : Nat} {b : Built} {o : Orchestra σ} {r : Outcome}
    (ih : ∀ e : Ensemble σ, Sharing n key mark text setup (.home id b) e → Sound e →
      OverFrom n m key e → Finishes n key mark text e)
    (hs : Sound e) (h : OverFrom n (m + 1) key e) (hm : e.rest? m = some t)
    (ht : t.turn s e.orchestra = .over o r) (hcalm : s.Steady mark text)
    (hon : Sharing n key mark text setup (.home id b) (e.play (.turn m s))) :
    Finishes n key mark text e := by
  obtain ⟨hlater, hdone, -⟩ := h.turn hm ht rfl
  exact .turn s hm (fun _ => hcalm) (ih _ hon (sound_play hs _) (hlater.pred fun _ => ⟨r, hdone⟩))

/-- When the flight is home, the loads can be brought to their end one after the other. -/
theorem finishes_of_home {id : Nat} {b : Built} (h : Sharing n key mark text setup (.home id b) e)
    (hs : Sound e) (hover : OverFrom n m key e) : Finishes n key mark text e := by
  induction m generalizing e with
  | zero => exact .of_over fun i hc => hover i (Nat.zero_le i) hc
  | succ m ih =>
    by_cases hc : e.IsCall n key m
    · obtain ⟨t, hm⟩ := hc.rest?
      have compared : ∀ {e : Ensemble σ}, Sharing n key mark text setup (.home id b) e → Sound e →
          OverFrom n (m + 1) key e → e.IsCall n key m →
          e.rest? m = some (.comparing key ⟨mark, b, .source⟩) → Finishes n key mark text e := by
        intro e h hs hover hc hm
        exact finishes_of_last (fun e => ih) hs hover hm (turn_comparing ..) rfl
          (onward_comparing h hs hm hc).sharing
      cases h.calls m t hc hm with
      | returned => exact ih h hs (hover.pred fun _ => ⟨_, hm⟩)
      | compares => exact compared h hs hover hc hm
      | waits hid =>
        obtain rfl := Option.some.inj hid
        exact finishes_of_last (fun e => ih) hs hover hm (s := .go) (turn_joining h.held.2.2)
          trivial (onward_joining h hs hm hc rfl).sharing
      | loads =>
        have ht := turn_load_of_home h
        obtain ⟨hlater, hm', hc'⟩ := hover.turn hm ht rfl
        exact .turn .go hm (fun _ => trivial) (compared (onward_load_of_home h hs hm hc).sharing
          (sound_play hs _) hlater (hc'.2 hc) hm')
    · exact ih h hs (hover.pred fun hc' => absurd hc' hc)

/-- When the flight is home, all loads can be brought to their end. -/
theorem finish_home {id : Nat} {b : Built} (h : Sharing n key mark text setup (.home id b) e)
    (hs : Sound e) : Finishes n key mark text e := by
  refine finishes_of_home h hs (m := e.tasks.length) fun i hi hc => ?_
  obtain ⟨t, ht⟩ := hc.rest?
  exact absurd (lt_of_rest? ht) (Nat.not_lt.2 hi)

theorem finish_reading {f : Flight} (h : Sharing n key mark text setup (.reading i f) e)
    (hs : Sound e) : Finishes n key mark text e :=
  .turn (.text (.ok text)) h.flies (fun _ => rfl)
    (finish_home (onward_builds h h.flies).sharing (sound_play hs _))

theorem finish_leaving {f : Flight} (h : Sharing n key mark text setup (.leaving i f) e)
    (hs : Sound e) : Finishes n key mark text e := by
  have marking : ∀ {e : Ensemble σ}, Sharing n key mark text setup (.leaving i f) e → Sound e →
      e.rest? i = some (.marking f) → Finishes n key mark text e := by
    intro e h hs hi
    exact .turn (.fingerprint (.ok mark)) hi (fun _ => rfl)
      (finish_reading (onward_marks h hi).sharing (sound_play hs _))
  rcases h.flies with hi | hi
  · refine .turn .go hi (fun _ => trivial)
      (marking (onward_setsOut h hi).sharing (sound_play hs _) ?_)
    rw [rest?_turn hi, if_pos (lt_of_rest? hi), if_pos rfl, turn_build_of_leaving h]
  · exact marking h hs hi

/-- **From each phase on, all loads can be brought to their end.** -/
theorem finish (h : Sharing n key mark text setup p e) (hs : Sound e) :
    Finishes n key mark text e := by
  cases p with
  | home id b => exact finish_home h hs
  | reading i f => exact finish_reading h hs
  | leaving i f => exact finish_leaving h hs
  | still =>
    by_cases hany : ∃ i, e.IsCall n key i
    · obtain ⟨i, hc⟩ := hany
      obtain ⟨t, hi⟩ := hc.rest?
      obtain rfl := eq_load_of_allows (h.calls i t hc hi)
      exact .turn .go hi (fun _ => trivial) (finish_leaving (onward_embark h hi hc).sharing
        (sound_play hs _))
    · exact .of_over fun i hc => absurd ⟨i, hc⟩ hany

end

/-! ### What loads of one key come to -/

/-- **Loads of a key share one flight.** Take any run, a key that nothing is kept of and nothing
under way touches, and any way to go on in which the key is only loaded, its source stands still and
no build of it breaks off. The source is never read more than once, and each load that has returned
has returned one and the same build of the text. The loads can always be brought to their end; and
once all have ended, if there was any, the source was read once and its text built once, exactly two
events of the key were told, and no flight of the key is left. -/
theorem loads_share_one_flight {e : Ensemble σ} (he : e.Reached) {key : String}
    (hk : e.Idle key) {mark : Fingerprint} {text : String} {beats : List (Beat σ)}
    (hb : Calm e.tasks.length key mark text e beats) :
    let n := e.tasks.length
    let e' := e.plays beats
    let reads := e.tally (fun e b => b.reads key e) beats
    let builds := e.tally (fun e b => b.builds key e) beats
    ∃ o : Orchestra σ, o.setup = e.orchestra.setup ∧
      reads ≤ 1 ∧ builds ≤ 1 ∧
      (∀ i r, e'.IsCall n key i → e'.rest? i = some (.done r) →
        r = .landed (.ok (o.builtOf text))) ∧
      (∃ more, (∀ b ∈ more, b.isTurn) ∧ Calm n key mark text e' more ∧
        Over n key (e'.plays more)) ∧
      ((∃ i, e'.IsCall n key i) → Over n key e' →
        reads = 1 ∧ builds = 1 ∧ e'.orchestra.flights.get? key = none ∧
        ∃ told, Telling e beats told ∧
          told.filter (about key) = [loadedEvent key (e.orchestra.outcomeOf text),
            builtEvent key (o.builtOf text).artifact] ∧
          (told.filter (about key)).map (·.what.name) = ["template:loaded",
            if (o.builtOf text).artifact.errors = [] then "template:built"
            else "template:error"]) := by
  intro n e' reads builds
  obtain ⟨p, h, hreads, hbuilds, told, htelling, htold⟩ :=
    sharing_plays (hk.sharing mark text) he.sound hb
  have hreads : reads = p.reads := by simpa [Phase.reads] using hreads.symm
  have hbuilds : builds = p.builds := by simpa [Phase.builds] using hbuilds.symm
  have hfinish := finish h (he.plays beats).sound
  cases p with
  | home id b =>
    obtain ⟨o, ho, rfl⟩ := h.built id b rfl
    refine ⟨o, ho, Nat.le_of_eq hreads, Nat.le_of_eq hbuilds, ?_, hfinish, ?_⟩
    · intro i r hc hr
      obtain ⟨_, _, hp, rfl⟩ := h.returned hc hr
      cases hp
      rfl
    · intro _ _
      have htold : told.filter (about key) = [loadedEvent key (e.orchestra.outcomeOf text),
          builtEvent key (o.builtOf text).artifact] := htold.symm
      refine ⟨hreads, hbuilds, h.held.2.1, told, htelling, htold, ?_⟩
      rw [htold, ← builtEvent_name key]
      rfl
  | still | leaving i f | reading i f =>
    have away : ∀ i r, e'.IsCall n key i → e'.rest? i ≠ some (.done r) := by
      intro i r hc hr
      obtain ⟨_, _, hp, -⟩ := h.returned hc hr
      cases hp
    refine ⟨e.orchestra, rfl, ?_, ?_, fun i r hc hr => absurd hr (away i r hc), hfinish, ?_⟩
    · simp [hreads, Phase.reads]
    · simp [hbuilds, Phase.builds]
    · rintro ⟨i, hc⟩ hover
      obtain ⟨r, hr⟩ := hover i hc
      exact absurd hr (away i r hc)

/-- Two loads, the second of which begins while the flight of the first is under way. -/
theorem loads_share_one_flight_bare :
    let beats : List (Beat Bridge) := [.call (.load "k"), .turn 0 .go, .turn 1 .go,
      .turn 1 (.fingerprint (.ok ⟨"1"⟩)), .call (.load "k"), .turn 2 .go,
      .turn 1 (.text (.ok "")), .turn 2 .go, .turn 0 .go]
    let e := bare.plays beats
    bare.Reached ∧ bare.Idle "k" ∧ Calm 0 "k" ⟨"1"⟩ "" bare beats ∧ Over 0 "k" e ∧
      bare.tally (fun e b => b.reads "k" e) beats = 1 ∧
      bare.tally (fun e b => b.builds "k" e) beats = 1 ∧
      ∃ b, e.rest? 0 = some (.done (.landed (.ok b))) ∧
        e.rest? 2 = some (.done (.landed (.ok b))) := by
  intro beats e
  have he : bare.Reached := ⟨_, _, _, [], rfl⟩
  have hk : bare.Idle "k" := ⟨rfl, rfl, rfl, fun i t ht => by simp [bare, opening, rest?] at ht⟩
  have hb : Calm 0 "k" ⟨"1"⟩ "" bare beats :=
    ⟨.inl rfl, fun _ _ _ => trivial, fun _ _ _ => trivial, fun _ _ _ => rfl, .inl rfl,
      fun _ _ _ => trivial, fun _ _ _ => rfl, fun _ _ _ => trivial, fun _ _ _ => trivial, trivial⟩
  have h₀ : ∃ r, e.rest? 0 = some (.done r) := ⟨_, rfl⟩
  have h₂ : ∃ r, e.rest? 2 = some (.done r) := ⟨_, rfl⟩
  have hover : Over 0 "k" e := by
    rintro (_ | _ | _ | i) hc
    · exact h₀
    · cases hc.2
    · exact h₂
    · cases hc.2
  obtain ⟨o, -, -, -, hret, -, hend⟩ := loads_share_one_flight he hk hb
  obtain ⟨hreads, hbuilds, -⟩ := hend ⟨0, Nat.le_refl 0, rfl⟩ hover
  obtain ⟨r₀, hr₀⟩ := h₀
  obtain ⟨r₂, hr₂⟩ := h₂
  refine ⟨he, hk, hb, hover, hreads, hbuilds, o.builtOf "", ?_, ?_⟩
  · exact hret 0 r₀ ⟨Nat.le_refl 0, rfl⟩ hr₀ ▸ hr₀
  · exact hret 2 r₂ ⟨Nat.zero_le 2, rfl⟩ hr₂ ▸ hr₂

end Ensemble

end LivePanel.Orchestra
