import LivePanel.Proofs.Orchestra.Ensemble

/-!
# Flights that are overtaken

A flight that has gone for a text may come home late: in the meantime its key may have been
dropped, refreshed or forgotten, or given another text. All of these raise the generation of
the key, and generations never go down, so whenever the flight comes home afterwards it finds a
generation other than its own. It then leaves the orchestra as it was, and only hands its
artifact to those that wait for it. A flight that finds its own generation is kept and told of.

## What is proved

* `Beat.Overtakes.overtaken`: the four ways to overtake a flight put the generation of its key
  past its own.
* `untouched_of_overtaken`: a turn of a flight that was overtaken leaves alone what is kept and
  the bus.
* `flight_kept_unless_overtaken`: both together, for every run.
-/

namespace LivePanel.Orchestra

variable {σ : Type}

/-- A flight comes home to a later generation of its key, or after all is over. -/
def Flight.Overtaken (f : Flight) (o : Orchestra σ) : Prop :=
  o.shutDown = true ∨ f.generation < o.generation f.key

/-- Once overtaken, a flight stays so. -/
theorem Flight.Overtaken.grows {f : Flight} {o o' : Orchestra σ} (h : f.Overtaken o)
    (hg : Grows o o') : f.Overtaken o' :=
  h.imp hg.shutDown fun hlt => Nat.lt_of_lt_of_le hlt (hg.generation _)

/-- The artifacts, templates and bindings that are kept, the subscriptions and the bus are as
before. -/
structure Untouched (o o' : Orchestra σ) : Prop where
  cache : o'.cache = o.cache
  loaded : o'.loaded = o.loaded
  bindings : o'.bindings = o.bindings
  subscriptions : o'.subscriptions = o.subscriptions
  bus : o'.scene.bus = o.scene.bus

namespace Untouched

variable {o o' : Orchestra σ}

theorem refl : Untouched o o := ⟨rfl, rfl, rfl, rfl, rfl⟩

/-- Nothing is told where all is untouched. -/
theorem tells (h : Untouched o o') : o.scene.Tells [] o'.scene := Scene.tells_nil_iff.2 h.bus

theorem land (h : Untouched o o') (f : Flight) (l : Landing) :
    Untouched o (o'.land f l).orchestra := ⟨h.cache, h.loaded, h.bindings, h.subscriptions, h.bus⟩

theorem record (h : Untouched o o') (kind : ActivityKind) (key : Option String)
    (detail : String) : Untouched o (o'.record kind key detail) :=
  ⟨h.cache, h.loaded, h.bindings, h.subscriptions, h.bus⟩

theorem sourceFailed (o : Orchestra σ) (key : String) (cause : SourceError) :
    Untouched o (o.sourceFailed key cause).2 := by
  unfold Orchestra.sourceFailed
  split
  · exact refl
  · exact refl.record ..

theorem drafted (o : Orchestra σ) (text : String) : Untouched o (o.drafted text) := by
  constructor <;> simp only [Orchestra.drafted, number]

/-- A build that was overtaken is not kept. -/
theorem buildText {f : Flight} (h : f.Overtaken o) (text : String) (mark : Fingerprint)
    (origin : Origin) :
    Untouched o (o.buildText f.key text mark origin f.generation).2 := by
  have hne : o.shutDown = true ∨ o.generation f.key ≠ f.generation :=
    h.imp id fun hlt => Nat.ne_of_gt hlt
  rcases o.buildText_of_overtaken f.key text mark origin true hne with h | h <;> rw [h]
  · exact drafted o text
  · exact (drafted o text).record ..

end Untouched

variable [Hosted σ]

/-- **A turn of a flight that was overtaken leaves alone what is kept and the bus.** -/
theorem untouched_of_overtaken {o : Orchestra σ} {t : Errand} {f : Flight}
    (hf : t.flight? = some f) (ho : f.Overtaken o) (s : Signal) :
    Untouched o (t.turn s o).orchestra := by
  have hc := course o t s
  generalize t.turn s o = turn at hc
  cases hc with
  | unmoved | setsOut | comparesIn | turnsBack | marks => exact .refl
  | servesIn => exact (Untouched.refl.record ..).land ..
  | fails => exact (Untouched.sourceFailed ..).land ..
  | builds =>
    obtain rfl := Option.some.inj hf
    exact (Untouched.buildText ho ..).land ..
  | crashes => exact ⟨rfl, rfl, rfl, rfl, rfl⟩
  | returns ht | notes ht => cases ht.symm.trans hf
  | joins ht | embarks ht => cases ht.flight?.symm.trans hf
  | plays ht | finishes ht | rebuilds ht => cases (flight?_of_run? ht).symm.trans hf
  | compares | serves | drops | renews | evicts | shutsDown | closes => cases hf

omit [Hosted σ] in
/-- What has just landed is what is looked up. -/
theorem landing?_land (o : Orchestra σ) (f : Flight) (l : Landing) :
    (o.land f l).orchestra.landing? f.id = some l := by
  rw [Ensemble.landing?_of_landed (congrArg Ledger.landed (o.ledger_land f l)), if_pos rfl]

/-- A flight that has its text comes home with the build of it. -/
theorem turn_reading (o : Orchestra σ) (f : Flight) (mark : Fingerprint) (text : String) :
    (Errand.reading f mark).turn (.text (.ok text)) o =
      (o.buildText f.key text mark .source f.generation).2.land f (.ok (o.builtOf text)) := by
  unfold Errand.turn
  simp only [buildText_fst]

/-- An errand that waits for a flight ends with what the flight has brought home. -/
theorem turn_joining {o : Orchestra σ} {id : Nat} {l : Landing} (h : o.landing? id = some l) :
    (Errand.joining id false).turn .go o = .over o (.landed l) := by
  unfold Errand.turn
  simp only [h, Bool.false_eq_true, if_false]

/-- An artifact whose fingerprint is still that of its source is served. -/
theorem turn_comparing (o : Orchestra σ) (key : String) (mark : Fingerprint) (b : Built)
    (origin : Origin) :
    (Errand.comparing key ⟨mark, b, origin⟩).turn (.fingerprint (.ok mark)) o =
      .over (o.serve key) (.landed (.ok b)) := by
  unfold Errand.turn
  simp [CacheEntry.isFresh]

/-! ### What overtakes -/

/-- A beat drops, refreshes or forgets a key, or gives it a text. -/
def Beat.Overtakes (e : Ensemble σ) (key : String) : Beat σ → Prop
  | .turn i s =>
    s = .go ∧ ∃ n path, e.rest? i = some (.notice n) ∧
      (n = .added path ∨ n = .changed path ∨ n = .removed path) ∧
      e.orchestra.setup.keyOf? path = some key
  | .loadText k _ _ => k = key
  | .invalidate k => k = key
  | _ => False

section

omit [Hosted σ]

variable (o : Orchestra σ)

theorem generation_invalidate (key : String) :
    (o.invalidate key).2.generation key = o.generation key + 1 := by
  have h := o.holding_invalidate key key
  rw [if_pos rfl] at h
  exact congrArg Holding.generation h

theorem generation_evict (key : String) :
    (o.evict key).generation key = o.generation key + 1 := by
  have h := o.holding_evict key key
  rw [if_pos rfl] at h
  exact congrArg Holding.generation h

theorem generation_supersede (key : String) :
    (o.supersede key).generation key = o.generation key + 1 := by
  have h := o.holding_supersede key key
  rw [if_pos rfl] at h
  exact congrArg Holding.generation h

theorem generation_join (key k : String) (forced silent : Bool) :
    (o.join key forced silent).orchestra.generation k = o.generation k := by
  unfold join
  split <;> rfl

theorem generation_refresh {path key : String} (h : o.setup.keyOf? path = some key) :
    (o.refresh path).orchestra.generation key = o.generation key + 1 := by
  unfold refresh
  rw [h]
  dsimp only
  split
  · rw [generation_join, generation_invalidate]
  · exact generation_invalidate o key

theorem generation_takeNotice {n : Watch.Notice} {path key : String}
    (hn : n = .added path ∨ n = .changed path ∨ n = .removed path)
    (h : o.setup.keyOf? path = some key) :
    (o.takeNotice n).orchestra.generation key = o.generation key + 1 := by
  rcases hn with rfl | rfl | rfl
  · exact generation_refresh (o.tell (.fileAdded path)) h
  · exact generation_refresh (o.tell (.fileChanged path)) h
  · simp only [takeNotice, h]
    exact generation_evict o key

/-- A text that is given begins a new generation, unless all is over. -/
theorem generation_loadText {key text : String} {bound : Bool} (hs : o.shutDown = false) :
    o.generation key < (o.loadText key text bound).2.generation key := by
  have hb := Grows.buildText (o.supersede key) key text (.ofText text) .text
    ((o.supersede key).generation key) bound
  have hg := hb.generation key
  rw [generation_supersede] at hg
  simp only [loadText, hs, Bool.false_eq_true, if_false, generation_supersede]
  exact hg

end

/-- **What overtakes a flight puts the generation of its key past its own.** -/
theorem Beat.Overtakes.overtaken {e : Ensemble σ} {b : Beat σ} {f : Flight}
    (h : b.Overtakes e f.key) (hf : f.generation ≤ e.orchestra.generation f.key) :
    f.Overtaken (e.play b).orchestra := by
  have hlt : f.generation < e.orchestra.generation f.key + 1 := Nat.lt_succ_of_le hf
  cases b with
  | turn i s =>
    obtain ⟨rfl, n, path, hi, hn, hk⟩ := h
    rw [Ensemble.orchestra_turn hi]
    unfold Errand.turn
    dsimp only
    by_cases hs : e.orchestra.shutDown = true
    · rw [if_pos hs]
      exact .inl hs
    · rw [if_neg hs]
      exact .inr (generation_takeNotice _ hn hk ▸ hlt)
  | loadText k text bound =>
    obtain rfl : k = f.key := h
    cases hs : e.orchestra.shutDown with
    | true => exact .inl ((e.grows_play (.loadText f.key text bound)).shutDown hs)
    | false => exact .inr (Nat.lt_of_le_of_lt hf (generation_loadText e.orchestra hs))
  | invalidate k =>
    obtain rfl : k = f.key := h
    exact .inr (generation_invalidate _ _ ▸ hlt)
  | _ => exact h.elim

namespace Ensemble

/-- **A flight is kept and told of unless it was overtaken, and its artifact reaches those that
wait for it either way.** Take any run, and a flight under way in it. If its key is dropped,
refreshed, forgotten or given a text, no later turn of the flight changes an artifact, a template
or a binding, or emits an event; and what it builds still lands for good, and is what every
errand that waits for it ends with. If it has its text while its generation is still that of its
key, its entry is stored and exactly two events are told. -/
theorem flight_kept_unless_overtaken {e : Ensemble σ} (he : e.Reached) {i : Nat} {f : Flight}
    (hf : e.flightAt i = some f) :
    (∀ b, b.Overtakes e f.key → ∀ after,
      let e₁ := e.plays (b :: after)
      (∀ s, Untouched e₁.orchestra (e₁.play (.turn i s)).orchestra) ∧
      ∀ mark, e₁.rest? i = some (.reading f mark) → ∀ text later,
        let built := e₁.orchestra.builtOf text
        let e₂ := (e₁.play (.turn i (.text (.ok text)))).plays later
        e₂.orchestra.landing? f.id = some (.ok built) ∧
        ∀ j, e₂.rest? j = some (.joining f.id false) →
          (e₂.play (.turn j .go)).rest? j = some (.done (.landed (.ok built)))) ∧
    ∀ mark, e.rest? i = some (.reading f mark) → e.orchestra.shutDown = false →
      f.generation = e.orchestra.generation f.key → ∀ text,
        let built := e.orchestra.builtOf text
        let parsed := e.orchestra.outcomeOf text
        let o' := (e.play (.turn i (.text (.ok text)))).orchestra
        o'.cache.get? f.key = some ⟨mark, built, .source⟩ ∧
        o'.loaded.get? f.key = parsed.template.map (⟨·, mark, .source⟩) ∧
        e.orchestra.scene.Tells [loadedEvent f.key parsed, builtEvent f.key built.artifact]
          o'.scene ∧
        (loadedEvent f.key parsed).what.name = "template:loaded" ∧
        (builtEvent f.key built.artifact).what.name =
          if built.artifact.errors = [] then "template:built" else "template:error" := by
  constructor
  · intro b hb after e₁
    have ho : f.Overtaken e₁.orchestra :=
      (hb.overtaken (he.sound.generation hf)).grows ((e.play b).grows_plays after)
    constructor
    · intro s
      rcases flightAt_plays (.inl hf) (b :: after) with h | h
      · obtain ⟨t, ht, hf'⟩ := Option.bind_eq_some_iff.1 h
        rw [orchestra_turn ht]
        exact untouched_of_overtaken hf' ho s
      · rw [orchestra_turn h]
        exact .refl
    · intro mark hi text later built e₂
      have hs : Sound e₁ := (he.plays (b :: after)).sound
      have hl : e₂.orchestra.landing? f.id = some (.ok built) := by
        refine landing?_plays (sound_play hs _) later ?_
        rw [orchestra_turn hi, turn_reading]
        exact landing?_land ..
      refine ⟨hl, fun j hj => ?_⟩
      rw [rest?_turn hj, if_pos (lt_of_rest? hj), if_pos rfl, turn_joining hl]
      rfl
  · intro mark hi hs hg text built parsed o'
    have ho : o' = ((e.orchestra.buildText f.key text mark .source f.generation).2.land f
        (.ok built)).orchestra := by
      rw [← turn_reading, ← orchestra_turn hi]
    have ha : built.artifact = e.orchestra.artifactOf text := artifact_builtOf ..
    rw [ho, cache_land, loaded_land, scene_land, ha]
    exact ⟨entry_buildText_of_current _ _ _ _ _ _ hs hg.symm,
      record_buildText_of_current _ _ _ _ _ _ hs hg.symm,
      tells_buildText_of_current _ _ _ _ _ _ hs hg.symm, rfl, builtEvent_name ..⟩

/-- A flight that has its fingerprint: dropped, it changes nothing; left alone, it is kept. -/
theorem flight_kept_unless_overtaken_bare :
    let e := bare.plays [.call (.load "k"), .turn 0 .go, .turn 1 .go,
      .turn 1 (.fingerprint (.ok ⟨"1"⟩))]
    let home : Beat Bridge := .turn 1 (.text (.ok ""))
    let dropped := e.play (.invalidate "k")
    e.Reached ∧ e.flightAt 1 = some ⟨0, "k", false, 0⟩ ∧
      Untouched dropped.orchestra (dropped.play home).orchestra ∧
      (e.play home).orchestra.cache.get? "k" = some ⟨⟨"1"⟩, e.orchestra.builtOf "", .source⟩ := by
  intro e home dropped
  have he : e.Reached := ⟨_, _, _, _, rfl⟩
  have hf : e.flightAt 1 = some ⟨0, "k", false, 0⟩ := rfl
  have h := flight_kept_unless_overtaken he hf
  exact ⟨he, hf, (h.1 (.invalidate "k") rfl []).1 _, (h.2 ⟨"1"⟩ rfl rfl rfl "").1⟩

end Ensemble

end LivePanel.Orchestra
