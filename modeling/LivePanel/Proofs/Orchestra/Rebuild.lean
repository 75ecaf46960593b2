import Mathlib.Data.List.Induction
import LivePanel.Proofs.Orchestra.Keeping
import LivePanel.Proofs.Orchestra.Overtaking

/-!
# Artifacts and the templates that are kept

The artifact of a key and the template that is kept for it should belong together: a load or a
text that is given puts both in place at once, and whatever drops the template drops the artifact
first. A run, though, holds on to the template that it started with. When it ends and has changed
the state, that template is built again, and the artifact is put into the cache whatever has
become of the key since the run began; no generation is asked for here.

## What is proved

* `agrees_play`, `brings_of_entry`: as long as no run of a key does that to a template that has been
  replaced or forgotten, artifact and template agree, and a key that was forgotten has no artifact
  until a later flight or text brings one.
* `artifact_agrees_unless_overwritten`: both for whole runs, with what such a run leaves behind.
* `run_overwrites_newer_artifact`: runs do that.
-/

namespace LivePanel.Orchestra

variable {σ : Type}

/-- An artifact in the cache was built from a template that is kept, and carries its marks. -/
structure MadeFrom (setup : Setup σ) (l : Loaded) (entry : CacheEntry) : Prop where
  fingerprint : entry.fingerprint = l.fingerprint
  origin : entry.origin = l.origin
  build : IsBuildOf setup l.template entry.built.artifact

/-- The artifact of a key, if there is one, was built from the template of the key, if there is
one. -/
def Agrees (o : Orchestra σ) (key : String) : Prop :=
  ∀ entry l, o.cache.get? key = some entry → o.loaded.get? key = some l →
    MadeFrom o.setup l entry

/-- What has been stored for a text agrees. -/
theorem Stored.agrees {key text : String} {mark : Fingerprint} {origin : Origin}
    {o o' : Orchestra σ} (h : Stored key text mark origin o o') (hs : o'.setup = o.setup) :
    Agrees o' key := by
  intro entry l he hl
  rw [h.entry] at he
  rw [h.record] at hl
  obtain rfl := Option.some.inj he
  obtain ⟨t, ht, rfl⟩ := Option.map_eq_some_iff.1 hl
  refine ⟨rfl, rfl, ?_⟩
  rw [artifact_builtOf, hs]
  exact isBuildOf_artifactOf o ht

theorem Lessens.agrees {key : String} {o o' : Orchestra σ} (h : Lessens key o o')
    (hs : o'.setup = o.setup) (ha : Agrees o key) : Agrees o' key := by
  intro entry l he hl
  cases h with
  | same he' hl' => exact hs ▸ ha entry l (he' ▸ he) (hl' ▸ hl)
  | dropped he' => cases he'.symm.trans he

/-- The template of a run is the one that is kept, or the run has held on to it. -/
theorem run?_eq_some {o : Orchestra σ} {t : Errand} {key : String} {l : Loaded}
    (h : t.run? o = some (key, l)) :
    o.loaded.get? key = some l ∨
      ∃ d, t = .running d ∧ d.performance.key = key ∧ d.loaded = l := by
  cases t with
  | dispatch k action token =>
    obtain ⟨l', hl, heq⟩ := Option.map_eq_some_iff.1 h
    obtain ⟨rfl, rfl⟩ := Prod.mk.inj heq
    exact .inl hl
  | running d =>
    obtain ⟨rfl, rfl⟩ := Prod.mk.inj (Option.some.inj h)
    exact .inr ⟨d, rfl, rfl, rfl⟩
  | _ => cases h

variable [Hosted σ]

/-- A run puts another artifact into the cache, though the template that it started with is not the
one that is kept. -/
def Beat.Overwrites (e : Ensemble σ) (key : String) : Beat σ → Prop
  | .turn i s =>
    ∃ d, e.rest? i = some (.running d) ∧ d.performance.key = key ∧
      e.orchestra.loaded.get? key ≠ some d.loaded ∧
      (e.play (.turn i s)).orchestra.cache.get? key ≠ e.orchestra.cache.get? key
  | _ => False

/-- A key whose file has gone is forgotten. -/
def Beat.Evicts (e : Ensemble σ) (key : String) (b : Beat σ) : Prop :=
  ∃ i path, b = .turn i .go ∧ e.rest? i = some (.notice (.removed path)) ∧
    e.orchestra.setup.keyOf? path = some key ∧ e.orchestra.shutDown = false

/-- A beat brings an artifact of a key: a text that is given, or a flight that was not under way in
an earlier ensemble. -/
inductive Beat.Brings (e₀ e : Ensemble σ) (key : String) : Beat σ → Prop where
  | text {text : String} {bound : Bool} : Brings e₀ e key (.loadText key text bound)
  | flight {i : Nat} {f : Flight} {mark : Fingerprint} {text : String}
      (hi : e.rest? i = some (.reading f mark)) (hk : f.key = key)
      (hnew : e₀.flightAt i ≠ some f) : Brings e₀ e key (.turn i (.text (.ok text)))

/-- Whether an errand is a run that is under way. -/
def Errand.isRunning : Errand → Bool
  | .running _ => true
  | _ => false

namespace Ensemble

/-- No run overwrites the artifact of a key in the course of the beats. -/
def Undisturbed (key : String) (e : Ensemble σ) (beats : List (Beat σ)) : Prop :=
  Along (fun e b => ¬ b.Overwrites e key) e beats

/-- A run that builds its template again builds the one that is kept, or overwrites, or leaves the
artifact as it is. -/
theorem loaded_or_overwrites {e : Ensemble σ} {key : String} {i : Nat} {t : Errand} {l : Loaded}
    (hi : e.rest? i = some t) (ht : t.run? e.orchestra = some (key, l)) (s : Signal) :
    e.orchestra.loaded.get? key = some l ∨ (Beat.turn i s).Overwrites e key ∨
      (e.play (.turn i s)).orchestra.cache.get? key = e.orchestra.cache.get? key := by
  rcases run?_eq_some ht with hl | ⟨d, rfl, hk, rfl⟩
  · exact .inl hl
  · by_cases hl : e.orchestra.loaded.get? key = some d.loaded
    · exact .inl hl
    · by_cases hc : (e.play (.turn i s)).orchestra.cache.get? key = e.orchestra.cache.get? key
      · exact .inr (.inr hc)
      · exact .inr (.inl ⟨d, hi, hk, hl, hc⟩)

/-- **Artifact and template go on agreeing unless a run overwrites the artifact.** -/
theorem agrees_play {e : Ensemble σ} {key : String} {b : Beat σ} (h : Agrees e.orchestra key)
    (hb : ¬ b.Overwrites e key) : Agrees (e.play b).orchestra key := by
  have hs := (e.grows_play b).setup
  cases e.keeps key b with
  | lessens hle => exact hle.agrees hs h
  | built _ _ _ _ _ hst => exact hst.agrees hs
  | given _ hst => exact hst.agrees hs
  | rebuilt hi hb' ht he ha hl =>
    subst hb'
    rcases loaded_or_overwrites hi ht _ with hl' | hov | hc
    · intro entry l' he' hl''
      rw [he] at he'
      rw [hl, hl'] at hl''
      obtain rfl := Option.some.inj he'
      obtain rfl := Option.some.inj hl''
      exact ⟨rfl, rfl, hs ▸ ha⟩
    · exact absurd hov hb
    · exact (Lessens.same hc hl).agrees hs h

theorem agrees_plays {e : Ensemble σ} {key : String} {beats : List (Beat σ)}
    (h : Agrees e.orchestra key) (hb : Undisturbed key e beats) :
    Agrees (e.plays beats).orchestra key := by
  induction beats generalizing e with
  | nil => exact h
  | cons b beats ih => exact ih (agrees_play h hb.1) hb.2

/-- The turn that forgets a key. -/
theorem turn_removed {o : Orchestra σ} {path key : String} (hk : o.setup.keyOf? path = some key)
    (hs : o.shutDown = false) :
    (Errand.notice (.removed path)).turn .go o =
      .over ((o.evict key).tell (.fileRemoved path)) .nothing := by
  unfold Errand.turn
  simp only [hs, Bool.false_eq_true, if_false, takeNotice, hk]

/-- The flights of a key that are under way have all been overtaken. -/
def AllOvertaken (e : Ensemble σ) (key : String) : Prop :=
  ∀ i f, e.flightAt i = some f → f.key = key → f.Overtaken e.orchestra

/-- A key that is forgotten has neither artifact nor template, and its flights are overtaken. -/
theorem evicted {e : Ensemble σ} {key : String} {b : Beat σ} (he : Sound e)
    (h : b.Evicts e key) :
    (e.play b).orchestra.cache.get? key = none ∧ (e.play b).orchestra.loaded.get? key = none ∧
      AllOvertaken (e.play b) key := by
  obtain ⟨i, path, rfl, hi, hk, hs⟩ := h
  have hh := e.orchestra.holding_evict key key
  rw [if_pos rfl, ← holding_tell _ (.fileRemoved path)] at hh
  have hturn := turn_removed hk hs
  have ho : (e.play (.turn i .go)).orchestra =
      (e.orchestra.evict key).tell (.fileRemoved path) := by
    rw [orchestra_turn hi, hturn]
    rfl
  rw [← ho] at hh
  refine ⟨congrArg Holding.entry hh, congrArg Holding.record hh, ?_⟩
  rintro j f hf rfl
  have hold : e.flightAt j = some f := by
    rw [flightAt_turn hi .go (by rw [hturn]; rfl), hturn] at hf
    split at hf
    · cases hf
    · exact hf
  have hg : (e.play (.turn i .go)).orchestra.generation f.key = _ :=
    congrArg Holding.generation hh
  exact .inr (hg ▸ Nat.lt_succ_of_le (he.generation hold))

/-- Some beat of a run that came after another has brought the artifact of a key. -/
def Brought (e₀ : Ensemble σ) (key : String) (beats : List (Beat σ)) : Prop :=
  ∃ pre b post, beats = pre ++ b :: post ∧ b.Brings e₀ (e₀.plays pre) key ∧
    (e₀.plays (pre ++ [b])).orchestra.cache.get? key ≠ none

theorem Brought.append {e₀ : Ensemble σ} {key : String} {beats : List (Beat σ)}
    (h : Brought e₀ key beats) (beats' : List (Beat σ)) : Brought e₀ key (beats ++ beats') := by
  obtain ⟨pre, b, post, rfl, hb, hc⟩ := h
  exact ⟨pre, b, post ++ beats', by simp, hb, hc⟩

/-- Without artifact, template and current flights, only a new flight or a text brings an artifact,
unless a run overwrites what there is. -/
theorem brings_of_entry {e₀ e : Ensemble σ} {key : String} {b : Beat σ}
    (ho : AllOvertaken e₀ key) (hg : Grows e₀.orchestra e.orchestra)
    (hc : e.orchestra.cache.get? key = none) (hl : e.orchestra.loaded.get? key = none)
    (hb : ¬ b.Overwrites e key) :
    ((e.play b).orchestra.cache.get? key = none ∧ (e.play b).orchestra.loaded.get? key = none) ∨
      (b.Brings e₀ e key ∧ (e.play b).orchestra.cache.get? key ≠ none) := by
  cases e.keeps key b with
  | lessens h =>
    left
    cases h with
    | same hc' hl' => exact ⟨hc'.trans hc, hl'.trans hl⟩
    | dropped hc' hl' => exact ⟨hc', hl'.elim (·.trans hl) id⟩
  | built hi hb' hk hs hgen hst =>
    subst hb' hk
    refine .inr ⟨.flight hi rfl fun hold => ?_, by simp [hst.entry]⟩
    -- a flight from before is past its generation
    rcases (ho _ _ hold rfl).grows hg with hs' | hlt
    · rw [hs] at hs'
      cases hs'
    · omega
  | given hb' hst =>
    subst hb'
    exact .inr ⟨.text, by simp [hst.entry]⟩
  | rebuilt hi hb' ht _ _ hl' =>
    subst hb'
    rcases loaded_or_overwrites hi ht _ with h | h | h
    · cases hl.symm.trans h
    · exact absurd h hb
    · exact .inl ⟨h.trans hc, hl'.trans hl⟩

theorem brought_of_entry {e₀ : Ensemble σ} {key : String} (ho : AllOvertaken e₀ key)
    (hc : e₀.orchestra.cache.get? key = none) (hl : e₀.orchestra.loaded.get? key = none)
    {beats : List (Beat σ)} (hb : Undisturbed key e₀ beats) :
    ((e₀.plays beats).orchestra.cache.get? key = none ∧
        (e₀.plays beats).orchestra.loaded.get? key = none) ∨ Brought e₀ key beats := by
  induction beats using List.reverseRecOn with
  | nil => exact .inl ⟨hc, hl⟩
  | append_singleton beats b ih =>
    obtain ⟨hb, hlast⟩ := (along_append _ e₀ beats [b]).1 hb
    rcases ih hb with ⟨hc', hl'⟩ | h
    · rw [plays_append]
      refine (brings_of_entry ho (e₀.grows_plays beats) hc' hl' hlast.1).imp id fun h => ?_
      exact ⟨beats, b, [], rfl, h.1, plays_append e₀ beats [b] ▸ h.2⟩
    · exact .inr (h.append [b])

/-- What a run that overwrites leaves behind: an artifact of the template that it has held on to,
and the template that is kept as it was. -/
theorem entry_of_overwrites {e : Ensemble σ} {key : String} {b : Beat σ}
    (h : b.Overwrites e key) :
    ∃ l entry, (e.play b).orchestra.cache.get? key = some entry ∧
      MadeFrom e.orchestra.setup l entry ∧ e.orchestra.loaded.get? key ≠ some l ∧
      (e.play b).orchestra.loaded.get? key = e.orchestra.loaded.get? key := by
  cases b with
  | turn i s =>
    obtain ⟨d, hi, hk, hl, hc⟩ := h
    rw [orchestra_turn hi] at hc ⊢
    have hco := course e.orchestra (.running d) s
    generalize (Errand.running d).turn s e.orchestra = turn at hc hco
    cases hco with
    | unmoved | returns => exact absurd rfl hc
    | joins ht | embarks ht => cases ht
    | fails ht | crashes ht => cases ht
    | notes _ _ hq | plays _ _ hq | finishes _ hq =>
      exact absurd (congrArg Holding.entry (congrFun hq.holding key)) hc
    | @rebuilds _ _ _ _ _ o' ht _ hq =>
      obtain ⟨rfl, rfl⟩ := Prod.mk.inj (Option.some.inj ht)
      have hh := o'.holding_rebuild d.performance.key d.loaded key
      rw [if_pos hk, hq.holding] at hh
      have hset : o'.setup = e.orchestra.setup := congrArg Ledger.setup hq.ledger
      exact ⟨d.loaded, _, congrArg Holding.entry hh,
        ⟨rfl, rfl, hset ▸ isBuildOf_rebuiltOf o' d.loaded.template⟩, hl,
        congrArg Holding.record hh⟩
  | _ => exact h.elim

/-- **Artifact and template of a key belong together, and a key that was forgotten has no artifact
until a later flight or text brings one, for as long as no run overwrites the artifact of the key.**
The first run that does so leaves an artifact of a template that is not the one that is kept; if
the kept one has another fingerprint or origin, the two do not agree. -/
theorem artifact_agrees_unless_overwritten {setup : Setup σ} {scene : Scene σ}
    {log : ActivityLog} {key : String} {beats : List (Beat σ)}
    (h : Undisturbed key (opening setup scene log) beats) :
    let e := (opening setup scene log).plays beats
    Agrees e.orchestra key ∧
    (∀ before b after, beats = before ++ b :: after →
      b.Evicts ((opening setup scene log).plays before) key →
      e.orchestra.cache.get? key ≠ none →
      Brought ((opening setup scene log).plays (before ++ [b])) key after) ∧
    ∀ b, b.Overwrites e key →
      ∃ l entry, (e.play b).orchestra.cache.get? key = some entry ∧ MadeFrom setup l entry ∧
        (e.play b).orchestra.loaded.get? key ≠ some l ∧
        ∀ l', (e.play b).orchestra.loaded.get? key = some l' →
          l'.fingerprint ≠ l.fingerprint ∨ l'.origin ≠ l.origin →
          ¬ Agrees (e.play b).orchestra key := by
  intro e
  refine ⟨agrees_plays (fun _ _ he => by cases he) h, ?_, ?_⟩
  · intro before b after hbeats hev hc
    subst hbeats
    have hs : Sound ((opening setup scene log).plays before) :=
      sound_plays (sound_opening ..) before
    obtain ⟨hc₀, hl₀, ho⟩ := evicted hs hev
    have hb := ((along_append _ _ before (b :: after)).1 h).2.2
    have hsplit : (opening setup scene log).plays (before ++ [b]) =
        ((opening setup scene log).plays before).play b := plays_append ..
    rw [← hsplit] at hc₀ hl₀ ho hb
    have he : e = ((opening setup scene log).plays (before ++ [b])).plays after := by
      rw [← plays_append, List.append_assoc]
      rfl
    rw [he] at hc
    rcases brought_of_entry ho hc₀ hl₀ hb with h' | h'
    · exact absurd h'.1 hc
    · exact h'
  · intro b hb
    have hset : e.orchestra.setup = setup := (grows_plays (opening setup scene log) beats).setup
    obtain ⟨l, entry, hc, hm, hl, hl'⟩ := entry_of_overwrites hb
    refine ⟨l, entry, hc, hset ▸ hm, hl' ▸ hl, fun l' hrec hne hag => ?_⟩
    have hm' := hag entry l' hc hrec
    rcases hne with hne | hne
    · exact hne (hm'.fingerprint.symm.trans hm.fingerprint)
    · exact hne (hm'.origin.symm.trans hm.origin)

/-! ### Runs that ask the host -/

/-- An ensemble without blocks whose host takes its time to answer a prompt. -/
def attended : Ensemble Bridge :=
  opening { registry := [], keyOf? := some }
    ⟨Bus.empty, .attached
      { panel := {}, replies := [.ok (.str "yes")], replyDelay := some 1 }⟩
    (.ofCapacity 50)

/-- A notice that waits to be taken, a load of a template, and a run of its action up to the answer
that it asks for. -/
def asking : List (Beat Bridge) :=
  [.call (.notice (.removed "k")), .call (.load "k"), .turn 1 .go, .turn 2 .go,
    .turn 2 (.fingerprint (.ok ⟨"1"⟩)),
    .turn 2 (.text (.ok ("name: a\nbootstrap: p\ncomponents: []\n" ++
      "actions: \x7bgo: \x7btype: ai, prompt: hi, storeAs: x\x7d\x7d"))),
    .call (.dispatch "k" "go" none), .turn 3 .go]

/-- A run that has just started does not overwrite: its template is the one that is kept. -/
theorem not_overwrites_of_started {e : Ensemble σ} {key action : String} {token : Option Nat}
    {i : Nat} (hi : e.rest? i = some (.dispatch key action token)) (s : Signal) :
    ¬ (Beat.turn i s).Overwrites (e.play (.turn i .go)) key := by
  rintro ⟨d, hd, -, hl, -⟩
  rw [rest?_turn_self hi] at hd
  rw [orchestra_turn hi] at hl
  have hc := course e.orchestra (.dispatch key action token) .go
  generalize (Errand.dispatch key action token).turn .go e.orchestra = turn at hd hl hc
  cases hc with
  | plays ht hrun hq =>
    obtain ⟨l, hkept, heq⟩ := Option.map_eq_some_iff.1 ht
    obtain ⟨rfl, rfl⟩ := Prod.mk.inj heq
    obtain rfl := Errand.running.inj (Option.some.inj hd)
    refine hl ((congrArg Holding.record (congrFun hq.holding key)).trans ?_)
    rw [hrun.2]
    exact hkept
  | notes _ hr =>
    obtain rfl := Option.some.inj hd
    exact hr
  | unmoved | returns | finishes | rebuilds => cases hd
  | joins ht | embarks ht => exact ht
  | fails ht => cases ht

/-- What is no run overwrites nothing. -/
theorem not_overwrites_of_rest {e : Ensemble σ} {key : String} {i : Nat}
    (h : (e.rest? i).any Errand.isRunning = false) (s : Signal) :
    ¬ (Beat.turn i s).Overwrites e key := by
  rintro ⟨d, hd, -⟩
  rw [hd] at h
  cases h

/-- The answer comes, and the template is built again. -/
def answering : List (Beat Bridge) := asking ++ [.turn 3 .reply]

theorem undisturbed_answering : Undisturbed "k" attended answering :=
  ⟨id, id, not_overwrites_of_rest rfl _, not_overwrites_of_rest rfl _,
    not_overwrites_of_rest rfl _, not_overwrites_of_rest rfl _, id, not_overwrites_of_rest rfl _,
    not_overwrites_of_started rfl _, trivial⟩

/-- A run whose rebuild is stored under the template that it started with, and a key that is
forgotten after that and given a text. -/
theorem artifact_agrees_rebuilt :
    let e := attended.plays answering
    let given : Beat Bridge := .loadText "k" "name: b\nbootstrap: p\ncomponents: []" false
    Undisturbed "k" attended (answering ++ [.turn 0 .go, given]) ∧
      (∃ entry l, e.orchestra.cache.get? "k" = some entry ∧ entry.built.serial = 1 ∧
        e.orchestra.loaded.get? "k" = some l ∧ MadeFrom attended.orchestra.setup l entry) ∧
      (Beat.turn 0 .go).Evicts e "k" ∧
      Brought (attended.plays (answering ++ [.turn 0 .go])) "k" [given] := by
  intro e given
  have hfacts : (e.orchestra.cache.get? "k").map (·.built.serial) = some 1 ∧
      (e.orchestra.loaded.get? "k").isSome ∧ e.orchestra.shutDown = false ∧
      (e.rest? 0).any Errand.isRunning = false ∧
      ((attended.plays (answering ++ [.turn 0 .go, given])).orchestra.cache.get? "k").isSome := by
    decide +kernel
  obtain ⟨hserial, hkept, hs, hrest, hc⟩ := hfacts
  have hb : Undisturbed "k" attended (answering ++ [.turn 0 .go, given]) :=
    (along_append ..).2 ⟨undisturbed_answering, not_overwrites_of_rest hrest _, id, trivial⟩
  obtain ⟨entry, he, hserial⟩ := Option.map_eq_some_iff.1 hserial
  obtain ⟨l, hl⟩ := Option.isSome_iff_exists.1 hkept
  have hset : e.orchestra.setup = attended.orchestra.setup := (grows_plays attended answering).setup
  have hev : (Beat.turn 0 .go).Evicts e "k" := ⟨0, "k", rfl, rfl, hset ▸ rfl, hs⟩
  have hagrees : Agrees e.orchestra "k" :=
    (artifact_agrees_unless_overwritten undisturbed_answering).1
  exact ⟨hb, ⟨entry, l, he, hserial, hl, hset ▸ hagrees entry l he hl⟩, hev,
    (artifact_agrees_unless_overwritten hb).2.1 answering _ [given] rfl hev
      (Option.isSome_iff_ne_none.1 hc)⟩

/-! ### Runs that overwrite -/

/-- **A run overwrites the artifact of a newer template, and brings back one that was forgotten.**
The answer comes after the template was reloaded with another text, or after it was removed. -/
theorem run_overwrites_newer_artifact :
    let asked := attended.plays asking
    let reloaded := asked.plays [.call (.reload "k"), .turn 4 .go, .turn 5 .go,
      .turn 5 (.fingerprint (.ok ⟨"2"⟩)),
      .turn 5 (.text (.ok "name: b\nbootstrap: p\ncomponents: []")), .turn 3 .reply]
    let removed := asked.play (.turn 0 .go)
    (reloaded.Reached ∧ ¬ Agrees reloaded.orchestra "k") ∧
    asked.Reached ∧ (Beat.turn 0 .go).Evicts asked "k" ∧
      (removed.plays [.turn 3 .reply]).orchestra.cache.get? "k" ≠ none ∧
      ¬ Brought removed "k" [.turn 3 .reply] := by
  intro asked reloaded removed
  have hasked : asked.Reached := ⟨_, _, _, _, rfl⟩
  have hr : (reloaded.orchestra.cache.get? "k").map (·.fingerprint) = some ⟨"1"⟩ ∧
      (reloaded.orchestra.loaded.get? "k").map (·.fingerprint) = some ⟨"2"⟩ := by
    decide +kernel
  have ha : asked.orchestra.shutDown = false ∧
      ((removed.plays [.turn 3 .reply]).orchestra.cache.get? "k").isSome = true := by
    decide +kernel
  have hk : asked.orchestra.setup.keyOf? "k" = some "k" := by
    rw [(grows_plays attended asking).setup]
    rfl
  refine ⟨⟨hasked.plays _, fun h => ?_⟩, hasked, ⟨0, "k", rfl, rfl, hk, ha.1⟩,
    Option.isSome_iff_ne_none.1 ha.2, ?_⟩
  · obtain ⟨entry, he, hf⟩ := Option.map_eq_some_iff.1 hr.1
    obtain ⟨l, hl, hf'⟩ := Option.map_eq_some_iff.1 hr.2
    have hne : (⟨"1"⟩ : Fingerprint) = ⟨"2"⟩ := hf ▸ hf' ▸ (h entry l he hl).fingerprint
    exact absurd hne (by decide)
  · rintro ⟨pre, b, post, hb, hbr, -⟩
    have hpre : pre = [] := by
      cases pre with
      | nil => rfl
      | cons _ _ => simp at hb
    subst hpre
    obtain rfl : Beat.turn 3 .reply = b := (List.cons.inj hb).1
    cases hbr

end Ensemble

end LivePanel.Orchestra
