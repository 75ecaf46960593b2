import LivePanel.Proofs.Orchestra.Binding
import LivePanel.Proofs.Orchestra.Elsewhere
import LivePanel.Proofs.Orchestra.Freshness

/-!
# What is left of a key

Most operations of an orchestra spare a key: those on other keys, those that only tell or note
something, the builds that were overtaken. A refresh drops its artifact in any case, and launches a
flight if the key was known and templates are to be built again when their files change. Whatever
else begins a new generation of the key, drops its artifact or puts one there that was not read for
it disturbs the key; all other beats retain what it has.

## The model

* `Spared`: the artifact, the template and the generation of a key are as before.
* `Beat.Disturbs`: the beats that disturb a key.
* `Beat.BringsHome`: a flight comes home with an artifact that is kept.

## What is proved

* `refresh_of_known`, `refresh_of_unknown`: the two ways of a refresh.
* `spared_play`: a beat that does not disturb a key spares it, unless it brings an artifact home.
* `retained_play`: a beat that does not disturb a key keeps its artifact or puts another in its
  place.
-/

namespace LivePanel.Orchestra

variable {σ : Type}

/-- The artifact, the template and the generation of a key are as before. -/
structure Spared (key : String) (o o' : Orchestra σ) : Prop where
  entry : o'.cache.get? key = o.cache.get? key
  record : o'.loaded.get? key = o.loaded.get? key
  generation : o'.generation key = o.generation key
  setup : o'.setup = o.setup
  shutDown : o'.shutDown = o.shutDown

namespace Spared

variable {key : String} {o o' o'' : Orchestra σ}

theorem refl : Spared key o o := ⟨rfl, rfl, rfl, rfl, rfl⟩

theorem has_cache (h : Spared key o o') : o'.cache.has key = o.cache.has key := by
  rw [Table.has, Table.has, h.entry]

theorem has_loaded (h : Spared key o o') : o'.loaded.has key = o.loaded.has key := by
  rw [Table.has, Table.has, h.record]

theorem trans (h : Spared key o o') (h' : Spared key o' o'') : Spared key o o'' :=
  ⟨h'.entry.trans h.entry, h'.record.trans h.record, h'.generation.trans h.generation,
    h'.setup.trans h.setup, h'.shutDown.trans h.shutDown⟩

theorem of_elsewhere (h : Elsewhere key o o') : Spared key o o' :=
  ⟨congrArg Holding.entry h.holding, congrArg Holding.record h.holding,
    congrArg Holding.generation h.holding, h.setup, h.shutDown⟩

/-- It is enough to look at the two views of an orchestra. -/
theorem of_views {n : Nat} (hh : o'.holding key = o.holding key)
    (hl : o'.ledger = { o.ledger with nextBuilt := o.nextBuilt + n }) : Spared key o o' :=
  ⟨congrArg Holding.entry hh, congrArg Holding.record hh, congrArg Holding.generation hh,
    congrArg Ledger.setup hl, congrArg Ledger.shutDown hl⟩

theorem of_quiet {about : Option String} (h : Quiet about o o') : Spared key o o' :=
  of_views (n := 0) (congrFun h.holding key) h.ledger

theorem embark (o : Orchestra σ) (k : String) : Spared key o (o.embark k) :=
  ⟨rfl, rfl, rfl, rfl, rfl⟩

theorem land (o : Orchestra σ) (f : Flight) (l : Landing) :
    Spared key o (o.land f l).orchestra := ⟨rfl, rfl, rfl, rfl, rfl⟩

theorem serve (o : Orchestra σ) (k : String) : Spared key o (o.serve k) :=
  ⟨rfl, rfl, rfl, rfl, rfl⟩

theorem sourceFailed (o : Orchestra σ) (k : String) (cause : SourceError) :
    Spared key o (o.sourceFailed k cause).2 := by
  unfold Orchestra.sourceFailed
  split
  · exact refl
  · exact ⟨rfl, rfl, rfl, rfl, rfl⟩

/-- A build of another key, or one that was overtaken, spares a key. -/
theorem buildText (o : Orchestra σ) {k text : String} {mark : Fingerprint} {origin : Origin}
    {generation : Nat} {bound : Bool} (h : ¬ (k = key ∧ generation = o.generation key)) :
    Spared key o (o.buildText k text mark origin generation bound).2 := by
  by_cases hk : k = key
  · subst hk
    have hg : o.shutDown = true ∨ o.generation k ≠ generation :=
      .inr fun hg => h ⟨rfl, hg.symm⟩
    refine of_views ?_ (o.ledger_buildText k text mark origin generation bound)
    rcases o.buildText_of_overtaken k text mark origin bound hg with ho | ho <;> rw [ho] <;> simp
  · exact of_elsewhere (.buildText o hk)

end Spared

/-! ### Refreshing -/

section

variable {o : Orchestra σ} {path key : String}

/-- Whether an artifact is dropped is whether there is one. -/
theorem fst_invalidate (o : Orchestra σ) (key : String) :
    (o.invalidate key).1 = o.cache.has key := by
  unfold invalidate
  dsimp only
  split <;> rename_i h
  · exact h.symm
  · exact (Bool.eq_false_iff.2 h).symm

/-- **A refresh of a key that has an artifact or a template launches a flight** that does not look
into the cache, and waits for it. -/
theorem refresh_of_known (hk : o.setup.keyOf? path = some key) (hhot : o.setup.hotReload = true)
    (hknown : o.cache.has key = true ∨ o.loaded.has key = true) :
    o.refresh path =
      ⟨(o.invalidate key).2.embark key, .joining (o.invalidate key).2.nextFlight true,
        [.build ((o.invalidate key).2.nextOf key true)]⟩ := by
  have hor : (o.loaded.has key || o.cache.has key) = true := Bool.or_eq_true_iff.2 hknown.symm
  unfold refresh
  rw [hk]
  dsimp only
  rw [fst_invalidate, hhot, hor, Bool.and_self, if_pos rfl]
  exact join_of_none _ key (o.flight_invalidate key) true true

/-- **Any other refresh only drops the artifact.** -/
theorem refresh_of_unknown (hk : o.setup.keyOf? path = some key)
    (h : ¬ (o.setup.hotReload = true ∧ (o.cache.has key = true ∨ o.loaded.has key = true))) :
    o.refresh path = .over (o.invalidate key).2 .nothing := by
  have hor : ¬ (o.setup.hotReload && (o.loaded.has key || o.cache.has key)) = true := by
    rw [Bool.and_eq_true, Bool.or_eq_true]
    exact fun h' => h (h'.imp id Or.symm)
  unfold refresh
  rw [hk]
  dsimp only
  rw [fst_invalidate, if_neg hor]

end

/-! ### Beats that disturb a key -/

/-- A beat drops, refreshes or forgets a key or gives it a text, drops all artifacts, goes on with a
run of an action of the key, or shuts the orchestra down. -/
def Beat.Disturbs (key : String) (e : Ensemble σ) (b : Beat σ) : Prop :=
  b.Overtakes e key ∨ b = .clearCache ∨ b.Runs key e ∨
    ∃ i, b = .turn i .go ∧ e.rest? i = some .shutDown

/-- A flight of the current generation of a key has its text. -/
def Beat.BringsHome (key : String) (e : Ensemble σ) (b : Beat σ) : Prop :=
  ∃ i f mark text, b = .turn i (.text (.ok text)) ∧ e.rest? i = some (.reading f mark) ∧
    f.key = key ∧ f.generation = e.orchestra.generation key

/-- An errand is a flight, or waits for one, or is over. -/
def Errand.Mute : Errand → Prop
  | .build _ => True
  | .comparingIn .. => True
  | .marking _ => True
  | .reading .. => True
  | .joining .. => True
  | .done _ => True
  | _ => False

theorem Errand.mute_of_flight? {t : Errand} {f : Flight} (h : t.flight? = some f) : t.Mute := by
  cases t <;> trivial

/-- A turn of such an errand disturbs no key. -/
theorem not_disturbs_of_mute {e : Ensemble σ} {i : Nat} {t : Errand} (hi : e.rest? i = some t)
    (ht : t.Mute) (s : Signal) (key : String) : ¬ (Beat.turn i s).Disturbs key e := by
  rintro (⟨-, n, path, hn, -⟩ | hb | ⟨j, s', t', l, hb, hj, hr⟩ | ⟨j, hb, hj⟩)
  · obtain rfl := Option.some.inj (hi.symm.trans hn)
    exact ht
  · cases hb
  · cases hb
    obtain rfl := Option.some.inj (hi.symm.trans hj)
    cases t <;> first | exact ht | cases hr
  · cases hb
    obtain rfl := Option.some.inj (hi.symm.trans hj)
    exact ht

/-- A notice that does not disturb a key is of another one. -/
theorem ne_of_not_disturbs {e : Ensemble σ} {i : Nat} {n : Watch.Notice} {path k key : String}
    (hi : e.rest? i = some (.notice n))
    (hn : n = .added path ∨ n = .changed path ∨ n = .removed path)
    (hk : e.orchestra.setup.keyOf? path = some k) (hb : ¬ (Beat.turn i .go).Disturbs key e) :
    k ≠ key := by
  rintro rfl
  exact hb (.inl ⟨rfl, n, path, hi, hn, hk⟩)

/-! ### What beats that do not disturb a key retain -/

/-- If there was an artifact of a key there is one, and the generation of the key is as before. -/
structure Retained (key : String) (o o' : Orchestra σ) : Prop where
  entry : o.cache.has key = true → o'.cache.has key = true
  generation : o'.generation key = o.generation key
  shutDown : o'.shutDown = o.shutDown

theorem Spared.retained {key : String} {o o' : Orchestra σ} (h : Spared key o o') :
    Retained key o o' :=
  ⟨fun he => h.has_cache.trans he, h.generation, h.shutDown⟩

/-- A flight of the current generation leaves an artifact. -/
theorem has_buildText_of_current (o : Orchestra σ) {f : Flight} (text : String) (mark : Fingerprint)
    (hs : o.shutDown = false) (hg : o.generation f.key = f.generation) :
    (o.buildText f.key text mark .source f.generation).2.cache.has f.key = true := by
  rw [Table.has, entry_buildText_of_current o f.key text mark .source true hs hg]
  rfl

namespace Ensemble

variable [Hosted σ]

/-- What a beat is in any ensemble, all beats of a run are. -/
theorem Along.imp {kind kind' : Ensemble σ → Beat σ → Prop} {e : Ensemble σ}
    {beats : List (Beat σ)} (h : Along kind e beats) (hk : ∀ e b, kind e b → kind' e b) :
    Along kind' e beats := by
  induction beats generalizing e with
  | nil => trivial
  | cons b beats ih => exact ⟨hk e b h.1, ih h.2⟩

theorem Reached.refusing {e : Ensemble σ} (h : e.Reached) : Refusing e := by
  obtain ⟨setup, scene, log, beats, rfl⟩ := h
  refine refusing_plays (fun i hi => ?_) beats
  simp [opening, rest?] at hi

/-- A turn that does not disturb a key spares it, unless it brings an artifact home. -/
theorem spared_turn {e : Ensemble σ} (he : Refusing e) (hs : e.orchestra.shutDown = false)
    {i : Nat} {t : Errand} (hi : e.rest? i = some t) {s : Signal} {key : String}
    (hb : ¬ (Beat.turn i s).Disturbs key e) (hh : ¬ (Beat.turn i s).BringsHome key e) :
    Spared key e.orchestra (e.play (.turn i s)).orchestra := by
  rw [orchestra_turn hi]
  have hc := course e.orchestra t s
  generalize t.turn s e.orchestra = turn at hc
  cases hc with
  | unmoved | returns | compares | joins | setsOut | comparesIn | turnsBack | marks => exact .refl
  | serves => exact .serve ..
  | embarks => exact .embark ..
  | servesIn => exact (Spared.serve ..).trans (.land ..)
  | fails => exact (Spared.sourceFailed ..).trans (.land ..)
  | @builds f mark text =>
    have hcur : ¬ (f.key = key ∧ f.generation = e.orchestra.generation key) := fun h =>
      hh ⟨i, f, mark, text, rfl, hi, h⟩
    exact (Spared.buildText e.orchestra hcur).trans (.land ..)
  | crashes => exact ⟨rfl, rfl, rfl, rfl, rfl⟩
  | drops hn hk hq =>
    have hne := ne_of_not_disturbs hi (hn.imp_right .inl) hk hb
    exact (Spared.of_quiet hq).trans (.of_elsewhere (.invalidate _ hne))
  | renews hn hk hq =>
    have hne := ne_of_not_disturbs hi (hn.imp_right .inl) hk hb
    exact ((Spared.of_quiet hq).trans (.of_elsewhere (.invalidate _ hne))).trans (.embark ..)
  | @evicts path k hk =>
    have hne := ne_of_not_disturbs hi (.inr (.inr rfl)) hk hb
    have hq : Quiet none (e.orchestra.evict k) ((e.orchestra.evict k).tell (.fileRemoved path)) :=
      .tell rfl
    exact (Spared.of_elsewhere (.evict _ hne)).trans (.of_quiet hq)
  | notes _ _ hq | plays _ _ hq | finishes _ hq => exact .of_quiet hq
  | @rebuilds _ _ k l _ _ ht _ hq =>
    have hne : k ≠ key := by
      rintro rfl
      exact hb (.inr (.inr (.inl ⟨i, s, t, l, rfl, hi, ht⟩)))
    exact (Spared.of_quiet hq).trans (.of_elsewhere (.rebuild _ l hne))
  | shutsDown => exact absurd (.inr (.inr (.inr ⟨i, rfl, hi⟩))) hb
  | closes => cases hs.symm.trans (he i hi)

/-- **A beat that does not disturb a key spares it, unless it brings an artifact home.** -/
theorem spared_play {e : Ensemble σ} (he : Refusing e) (hs : e.orchestra.shutDown = false)
    {key : String} {b : Beat σ} (hb : ¬ b.Disturbs key e) (hh : ¬ b.BringsHome key e) :
    Spared key e.orchestra (e.play b).orchestra := by
  cases b with
  | call | fire | cancel | outside => exact ⟨rfl, rfl, rfl, rfl, rfl⟩
  | turn i s =>
    cases hi : e.rest? i with
    | none =>
      rw [play_turn_of_none hi]
      exact .refl
    | some t => exact spared_turn he hs hi hb hh
  | letGo i =>
    simp only [play]
    split
    · exact .refl
    · split
      · exact .refl
      · exact .of_views (n := 0) (congrFun (holding_letGo ..) key) (ledger_letGo ..)
  | loadText k text bound =>
    have hne : k ≠ key := fun hk => hb (.inl hk)
    exact .of_elsewhere (.loadText _ hne)
  | invalidate k =>
    have hne : k ≠ key := fun hk => hb (.inl hk)
    exact .of_elsewhere (.invalidate _ hne)
  | clearCache => exact absurd (.inr (.inl rfl)) hb

/-- **A beat that does not disturb a key keeps its artifact or puts another in its place.** -/
theorem retained_play {e : Ensemble σ} (he : Refusing e) (hs : e.orchestra.shutDown = false)
    {key : String} {b : Beat σ} (hb : ¬ b.Disturbs key e) :
    Retained key e.orchestra (e.play b).orchestra := by
  by_cases hh : b.BringsHome key e
  · obtain ⟨i, f, mark, text, rfl, hi, rfl, hg⟩ := hh
    rw [orchestra_turn hi, turn_reading]
    have hkept := has_buildText_of_current e.orchestra text mark hs hg.symm
    have hheld := holding_buildText_of_current e.orchestra f.key text mark .source true hs hg.symm
      f.key
    rw [if_pos rfl] at hheld
    exact ⟨fun _ => hkept, congrArg Holding.generation hheld,
      congrArg Ledger.shutDown (ledger_buildText ..)⟩
  · exact (spared_play he hs hb hh).retained

end Ensemble

end LivePanel.Orchestra
