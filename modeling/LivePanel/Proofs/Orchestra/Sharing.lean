import LivePanel.Proofs.Orchestra.Elsewhere
import LivePanel.Proofs.Orchestra.Overtaking

/-!
# Loads that share a flight

Loads of one key come at any time: before there is a flight of it, while there is one, or when it
has landed and its artifact is in the cache. As long as nothing else is done with the key and
its source stands still, one flight serves them all. A run with such loads goes through four
phases (`Phase`): no flight yet, a flight on its way to the fingerprint, a flight that reads the
text, and the artifact at home. Each beat leaves the phase as it is or goes on to the next one,
and the phase fixes what has been read, built and told so far, and where each load stands.

## What is proved

* `sharing_play`: the step from phase to phase. Whole runs are in `Proofs.Orchestra.Loads`.
-/

namespace LivePanel.Orchestra

variable {σ : Type}

/-! ### Runs in which a key is only loaded -/

/-- What a source that stands still answers; and no build breaks off. -/
def Signal.Steady (mark : Fingerprint) (text : String) : Signal → Prop
  | .fingerprint r => r = .ok mark
  | .text r => r = .ok text
  | .collapse => False
  | _ => True

namespace Ensemble

/-- The errand that a task has begun with. -/
def began? (e : Ensemble σ) (i : Nat) : Option Errand := e.tasks[i]?.map (·.began)

/-- A task is a load of a key that came as the `n`-th task or later. -/
def IsCall (n : Nat) (key : String) (e : Ensemble σ) (i : Nat) : Prop :=
  n ≤ i ∧ e.began? i = some (.load key)

/-- An errand that may change what is held under a key. -/
abbrev Touches (e : Ensemble σ) (key : String) (t : Errand) : Prop :=
  t.Touches e.orchestra.setup.keyOf? key

end Ensemble

/-- A beat loads a key, or leaves it alone; what the source is asked for the key it answers as one
that stands still, and none of the loads is let go. -/
def Beat.Calm (n : Nat) (key : String) (mark : Fingerprint) (text : String) (e : Ensemble σ) :
    Beat σ → Prop
  | .call c => c = .load key ∨ ¬ e.Touches key c.errand
  | .turn i s => ∀ t, e.rest? i = some t → e.Touches key t → s.Steady mark text
  | .letGo i => ¬ e.IsCall n key i
  | .loadText k _ _ => k ≠ key
  | .invalidate k => k ≠ key
  | .clearCache => False
  | .fire event => ∀ b ∈ e.orchestra.fired event, b.key ≠ key
  | .cancel _ => True
  | .outside .. => True

/-- A flight of a key has its fingerprint and starts to read the text. -/
def Errand.reads (key : String) : Errand → Signal → Bool
  | .marking f, .fingerprint (.ok _) => f.key == key
  | _, _ => false

/-- A flight of a key has its text, which is parsed and built. -/
def Errand.builds (key : String) : Errand → Signal → Bool
  | .reading f _, .text (.ok _) => f.key == key
  | _, _ => false

/-- The source is read for a key. -/
def Beat.reads (key : String) (e : Ensemble σ) : Beat σ → Bool
  | .turn i s => (e.rest? i).any (·.reads key s)
  | _ => false

/-- A text of a key is parsed and built. -/
def Beat.builds (key : String) (e : Ensemble σ) : Beat σ → Bool
  | .turn i s => (e.rest? i).any (·.builds key s)
  | .loadText k _ _ => k == key
  | _ => false

section

variable {keyOf? : String → Option String} {key : String} {t : Errand}

theorem reads_of_not_touches (h : ¬ t.Touches keyOf? key) (s : Signal) :
    t.reads key s = false := by
  unfold Errand.reads
  split
  · exact beq_eq_false_iff_ne.2 h
  · rfl

theorem builds_of_not_touches (h : ¬ t.Touches keyOf? key) (s : Signal) :
    t.builds key s = false := by
  unfold Errand.builds
  split
  · exact beq_eq_false_iff_ne.2 h
  · rfl

theorem reads_turn {e : Ensemble σ} {i : Nat} (h : e.rest? i = some t) (s : Signal) :
    (Beat.turn i s).reads key e = t.reads key s := by
  simp [Beat.reads, h]

theorem builds_turn {e : Ensemble σ} {i : Nat} (h : e.rest? i = some t) (s : Signal) :
    (Beat.turn i s).builds key e = t.builds key s := by
  simp [Beat.builds, h]

end

/-- An event concerns a key. -/
def about (key : String) (e : Event) : Bool := e.what.key? == some key

namespace Ensemble

variable [Hosted σ]

/-- All beats of a run are calm. -/
def Calm (n : Nat) (key : String) (mark : Fingerprint) (text : String) (e : Ensemble σ)
    (beats : List (Beat σ)) : Prop :=
  Along (fun e b => b.Calm n key mark text e) e beats

/-- A key that has no artifact and no flight, and that no task touches. -/
structure Idle (key : String) (e : Ensemble σ) : Prop where
  running : e.orchestra.shutDown = false
  entry : e.orchestra.cache.get? key = none
  flight : e.orchestra.flights.get? key = none
  tasks : ∀ i t, e.rest? i = some t → ¬ e.Touches key t

end Ensemble

/-! ### Phases -/

/-- How far the shared flight of a key has come: there is none; task `i` is on its way to the
fingerprint, or reads the text; or the flight has landed with an artifact. -/
inductive Phase where
  | still
  | leaving (i : Nat) (f : Flight)
  | reading (i : Nat) (f : Flight)
  | home (id : Nat) (b : Built)

namespace Phase

/-- The task of the flight. -/
def task? : Phase → Option Nat
  | leaving i _ => some i
  | reading i _ => some i
  | _ => none

/-- The number of the flight. -/
def flight? : Phase → Option Nat
  | still => none
  | leaving _ f => some f.id
  | reading _ f => some f.id
  | home id _ => some id

/-- How often the source was read. -/
def reads : Phase → Nat
  | still => 0
  | leaving .. => 0
  | reading .. => 1
  | home .. => 1

/-- How often the text was built. -/
def builds : Phase → Nat
  | home .. => 1
  | _ => 0

/-- What was told of the key. -/
def told (key : String) (parsed : Template.Outcome) : Phase → List Event
  | home _ b => [loadedEvent key parsed, builtEvent key b.artifact]
  | _ => []

/-- What is held under the key. -/
def Held (key : String) (mark : Fingerprint) (o : Orchestra σ) : Phase → Prop
  | still => o.cache.get? key = none ∧ o.flights.get? key = none
  | leaving _ f | reading _ f =>
    o.cache.get? key = none ∧ o.flights.get? key = some f.id ∧ f.key = key ∧ f.forced = false ∧
      f.generation = o.generation key
  | home id b =>
    o.cache.get? key = some ⟨mark, b, .source⟩ ∧ o.flights.get? key = none ∧
      o.landing? id = some (.ok b)

/-- The flight itself. -/
def Flies (mark : Fingerprint) (e : Ensemble σ) : Phase → Prop
  | leaving i f => e.rest? i = some (.build f) ∨ e.rest? i = some (.marking f)
  | reading i f => e.rest? i = some (.reading f mark)
  | _ => True

/-- Where a load can stand. -/
inductive Allows (key : String) (mark : Fingerprint) : Phase → Errand → Prop where
  | loads {p : Phase} : Allows key mark p (.load key)
  | waits {p : Phase} {id : Nat} (h : p.flight? = some id) : Allows key mark p (.joining id false)
  | compares {id : Nat} {b : Built} :
      Allows key mark (home id b) (.comparing key ⟨mark, b, .source⟩)
  | returned {id : Nat} {b : Built} : Allows key mark (home id b) (.done (.landed (.ok b)))

end Phase

namespace Ensemble

/-- The state of a run in which a key is only loaded, from its `n`-th task on. -/
structure Sharing (n : Nat) (key : String) (mark : Fingerprint) (text : String) (setup : Setup σ)
    (p : Phase) (e : Ensemble σ) : Prop where
  same : e.orchestra.setup = setup
  running : e.orchestra.shutDown = false
  fits : n ≤ e.tasks.length
  held : p.Held key mark e.orchestra
  flies : p.Flies mark e
  /-- The artifact is one of the text. -/
  built : ∀ id b, p = .home id b → ∃ o : Orchestra σ, o.setup = setup ∧ b = o.builtOf text
  calls : ∀ i t, e.IsCall n key i → e.rest? i = some t → p.Allows key mark t
  others : ∀ i t, ¬ e.IsCall n key i → p.task? ≠ some i → e.rest? i = some t →
    ¬ t.Touches setup.keyOf? key

/-! ### Beats that stay in a phase -/

section

variable {n : Nat} {key : String} {mark : Fingerprint} {text : String} {setup : Setup σ}
  {p : Phase} {e : Ensemble σ}

@[simp] theorem began?_withOrchestra (o : Orchestra σ) :
    (e.withOrchestra o).began? = e.began? := rfl

@[simp] theorem began?_setRest (i : Nat) (t : Errand) : (e.setRest i t).began? = e.began? := by
  funext j
  unfold began? setRest
  rw [List.getElem?_modify]
  by_cases hj : i = j
  · subst hj
    cases e.tasks[i]? <;> simp
  · simp [hj]

/-- Tasks that are begun are as yet all that is left of them. -/
theorem began?_begin (e : Ensemble σ) (ts : List Errand) (j : Nat) :
    (e.begin ts).began? j =
      if j < e.tasks.length then e.began? j else ts[j - e.tasks.length]? := by
  unfold begin began?
  rw [List.getElem?_append]
  split
  · rfl
  · rw [List.getElem?_map, Option.map_map]
    exact Option.map_id' ..

theorem isCall_setRest {i j : Nat} {t : Errand} :
    (e.setRest i t).IsCall n key j ↔ e.IsCall n key j := by
  unfold IsCall
  rw [began?_setRest]

theorem isCall_begin_of_lt {ts : List Errand} {j : Nat} (hj : j < e.tasks.length) :
    (e.begin ts).IsCall n key j ↔ e.IsCall n key j := by
  unfold IsCall
  rw [began?_begin, if_pos hj]

namespace Sharing

/-- A flight is none of the loads. -/
theorem not_isCall (h : Sharing n key mark text setup p e) {i : Nat} (hi : p.task? = some i) :
    ¬ e.IsCall n key i := by
  intro hc
  have hf := h.flies
  cases p with
  | still | home => cases hi
  | leaving j f =>
    obtain rfl := Option.some.inj hi
    rcases hf with hf | hf <;> cases h.calls j _ hc hf
  | reading j f =>
    obtain rfl := Option.some.inj hi
    cases h.calls j _ hc hf

/-- The task of the flight is that flight. -/
theorem flightAt_of_task? (h : Sharing n key mark text setup p e) {i : Nat}
    (hp : p.task? = some i) : ∃ f, e.flightAt i = some f ∧ p.flight? = some f.id := by
  have hf := h.flies
  cases p with
  | still | home => cases hp
  | leaving j f =>
    obtain rfl := Option.some.inj hp
    rcases hf with hf | hf <;> exact ⟨f, flightAt_of_rest? hf, rfl⟩
  | reading j f =>
    obtain rfl := Option.some.inj hp
    exact ⟨f, flightAt_of_rest? hf, rfl⟩

/-- The orchestra may be worked on elsewhere. -/
theorem withOrchestra (h : Sharing n key mark text setup p e) {o : Orchestra σ}
    (hh : o.holding key = e.orchestra.holding key) (hs : o.setup = e.orchestra.setup)
    (hd : o.shutDown = e.orchestra.shutDown)
    (hl : ∀ id l, e.orchestra.landing? id = some l → o.landing? id = some l) :
    Sharing n key mark text setup p (e.withOrchestra o) where
  same := hs.trans h.same
  running := hd.trans h.running
  fits := h.fits
  held := by
    have hc : o.cache.get? key = e.orchestra.cache.get? key := congrArg Holding.entry hh
    have hf : o.flights.get? key = e.orchestra.flights.get? key := congrArg Holding.flight hh
    have hg : o.generation key = e.orchestra.generation key := congrArg Holding.generation hh
    have held := h.held
    cases p with
    | still => exact ⟨hc.trans held.1, hf.trans held.2⟩
    | leaving i f | reading i f =>
      obtain ⟨he, hfl, hk, hforced, hgen⟩ := held
      exact ⟨hc.trans he, hf.trans hfl, hk, hforced, hgen.trans hg.symm⟩
    | home id b => exact ⟨hc.trans held.1, hf.trans held.2.1, hl _ _ held.2.2⟩
  flies := h.flies
  built := h.built
  calls := h.calls
  others := h.others

/-- A task that is not the flight may go on within what its phase allows. -/
theorem setRest (h : Sharing n key mark text setup p e) {i : Nat} {t t' : Errand}
    (hi : e.rest? i = some t) (hne : p.task? ≠ some i)
    (hcall : e.IsCall n key i → p.Allows key mark t')
    (hother : ¬ e.IsCall n key i → ¬ t'.Touches setup.keyOf? key) :
    Sharing n key mark text setup p (e.setRest i t') where
  same := h.same
  running := h.running
  fits := (length_setRest e i t').symm ▸ h.fits
  held := h.held
  flies := by
    have keep : ∀ j, p.task? = some j → (e.setRest i t').rest? j = e.rest? j := by
      intro j hj
      rw [rest?_setRest j t' hi, if_neg (by rintro rfl; exact hne hj)]
    have hf := h.flies
    cases p with
    | still | home => trivial
    | leaving j f => exact Or.imp (keep j rfl).trans (keep j rfl).trans hf
    | reading j f => exact (keep j rfl).trans hf
  built := h.built
  calls := by
    intro j t₁ hc ht
    rw [isCall_setRest] at hc
    rw [rest?_setRest j t' hi] at ht
    split at ht
    · rename_i hji
      subst hji
      obtain rfl := Option.some.inj ht
      exact hcall hc
    · exact h.calls j t₁ hc ht
  others := by
    intro j t₁ hc hj ht
    rw [isCall_setRest] at hc
    rw [rest?_setRest j t' hi] at ht
    split at ht
    · rename_i hji
      subst hji
      obtain rfl := Option.some.inj ht
      exact hother hc
    · exact h.others j t₁ hc hj ht

/-- Loads of the key may be begun, and errands that do not touch it. -/
theorem begin (h : Sharing n key mark text setup p e) {ts : List Errand}
    (hts : ∀ t ∈ ts, t = .load key ∨ ¬ t.Touches setup.keyOf? key) :
    Sharing n key mark text setup p (e.begin ts) where
  same := h.same
  running := h.running
  fits := by
    have := h.fits
    simp only [Ensemble.begin, List.length_append]
    omega
  held := h.held
  flies := by
    have keep : ∀ j t, e.rest? j = some t → (e.begin ts).rest? j = some t := by
      intro j t ht
      rw [rest?_begin, if_pos (lt_of_rest? ht), ht]
    have hf := h.flies
    cases p with
    | still | home => trivial
    | leaving j f => exact hf.imp (keep j _) (keep j _)
    | reading j f => exact keep j _ hf
  built := h.built
  calls := by
    intro j t hc ht
    rw [rest?_begin] at ht
    split at ht
    · rename_i hj
      exact h.calls j t ((isCall_begin_of_lt hj).1 hc) ht
    · rename_i hj
      have hb := hc.2
      rw [began?_begin, if_neg hj, ht] at hb
      obtain rfl := Option.some.inj hb
      exact .loads
  others := by
    intro j t hc hj' ht
    rw [rest?_begin] at ht
    split at ht
    · rename_i hj
      exact h.others j t (mt (isCall_begin_of_lt hj).2 hc) hj' ht
    · rename_i hj
      rcases hts t (List.mem_of_getElem? ht) with rfl | hne
      · refine absurd ⟨Nat.le_trans h.fits (Nat.not_lt.1 hj), ?_⟩ hc
        rw [began?_begin, if_neg hj, ht]
      · exact hne

end Sharing

end

/-- A beat leads from a phase to a phase, and reads, builds and tells what lies between them. -/
structure Onward [Hosted σ] (n : Nat) (key : String) (mark : Fingerprint) (text : String)
    (setup : Setup σ) (p p' : Phase) (e : Ensemble σ) (b : Beat σ) : Prop where
  sharing : Sharing n key mark text setup p' (e.play b)
  reads : p'.reads = p.reads + (b.reads key e).toNat
  builds : p'.builds = p.builds + (b.builds key e).toNat
  told : ∃ es, Telling e [b] es ∧
    p'.told key (Template.parse text setup.options.maxDepth) =
      p.told key (Template.parse text setup.options.maxDepth) ++ es.filter (about key)

section

variable [Hosted σ] {n : Nat} {key : String} {mark : Fingerprint} {text : String}
  {setup : Setup σ} {p p' : Phase} {e : Ensemble σ} {b : Beat σ}

/-- Events of other keys are none of the key. -/
theorem filter_about_eq_nil {es : List Event} (h : ∀ e ∈ es, e.what.key? ≠ some key) :
    es.filter (about key) = [] := by
  rw [List.filter_eq_nil_iff]
  intro e he
  simpa [about] using h e he

/-- A beat that stays in a phase and tells nothing of the key. -/
theorem Onward.stay (h : Sharing n key mark text setup p (e.play b))
    (hr : b.reads key e = false) (hb : b.builds key e = false) (ho : b.isOutside = false)
    (ht : ∃ es, e.orchestra.scene.Tells es (e.play b).orchestra.scene ∧
      ∀ e ∈ es, e.what.key? ≠ some key) : Onward n key mark text setup p p e b := by
  obtain ⟨es, hes, hk⟩ := ht
  exact ⟨h, by simp [hr], by simp [hb], es, .single ho hes, by simp [filter_about_eq_nil hk]⟩

/-- A turn of an errand that does not touch the key. -/
theorem Onward.turn_elsewhere (h : Sharing n key mark text setup p e) (hs : Sound e) {i : Nat}
    {t : Errand} (hi : e.rest? i = some t) (hne : p.task? ≠ some i) (hc : ¬ e.IsCall n key i)
    (s : Signal) : Onward n key mark text setup p p e (.turn i s) := by
  have ht : ¬ t.Touches e.orchestra.setup.keyOf? key := h.same ▸ h.others i t hc hne hi
  obtain ⟨ho, haway⟩ := (course e.orchestra t s).elsewhere ht
  rw [h.same] at haway
  have hl : ∀ id l, e.orchestra.landing? id = some l →
      (t.turn s e.orchestra).orchestra.landing? id = some l := by
    intro id l hid
    rw [← orchestra_turn hi]
    exact landing?_play hs _ hid
  refine .stay ?_ ?_ ?_ rfl ?_
  · rw [play_turn hi]
    refine ((h.withOrchestra ho.holding ho.setup ho.shutDown hl).setRest hi hne
      (fun hc' => absurd hc' hc) fun _ => haway.errand).begin fun t' ht' => .inr ?_
    exact haway.launched t' ht'
  · rw [reads_turn hi, reads_of_not_touches ht]
  · rw [builds_turn hi, builds_of_not_touches ht]
  · rw [orchestra_turn hi]
    exact ho.tells

/-- A turn that changes nothing. -/
theorem Onward.unmoved (h : Sharing n key mark text setup p e) {i : Nat} {t : Errand}
    (hi : e.rest? i = some t) {s : Signal}
    (ht : t.turn s e.orchestra = ⟨e.orchestra, t, []⟩) (hr : t.reads key s = false)
    (hb : t.builds key s = false) : Onward n key mark text setup p p e (.turn i s) := by
  have hplay : e.play (.turn i s) = e := by
    rw [play_turn_of_eq hi ht rfl]
    exact setRest_of_rest? hi
  refine .stay (hplay.symm ▸ h) ?_ ?_ rfl ?_
  · rw [reads_turn hi, hr]
  · rw [builds_turn hi, hb]
  · rw [hplay]
    exact ⟨[], .still, by simp⟩

/-- A turn of a load that stays in its phase. -/
theorem Onward.call (h : Sharing n key mark text setup p e) (hs : Sound e) {i : Nat}
    {t t' : Errand} {o : Orchestra σ} {s : Signal} (hi : e.rest? i = some t)
    (hc : e.IsCall n key i) (ht : t.turn s e.orchestra = ⟨o, t', []⟩)
    (ho : Elsewhere key e.orchestra o) (ha : p.Allows key mark t') (hr : t.reads key s = false)
    (hb : t.builds key s = false) : Onward n key mark text setup p p e (.turn i s) := by
  have hl : ∀ id l, e.orchestra.landing? id = some l → o.landing? id = some l := by
    intro id l hid
    have h' := landing?_play hs (.turn i s) hid
    rwa [orchestra_turn hi, ht] at h'
  refine .stay ?_ ?_ ?_ rfl ?_
  · rw [play_turn_of_eq hi ht rfl]
    exact (h.withOrchestra ho.holding ho.setup ho.shutDown hl).setRest hi
      (fun hp => h.not_isCall hp hc) (fun _ => ha) fun hn => absurd hc hn
  · rw [reads_turn hi, hr]
  · rw [builds_turn hi, hb]
  · rw [orchestra_turn hi, ht]
    exact ho.tells

/-! ### The flight begins -/

/-- In a still phase, a load can only be about to begin. -/
theorem eq_load_of_allows {t : Errand} (h : Phase.still.Allows key mark t) : t = .load key := by
  cases h with
  | loads => rfl
  | waits hid => cases hid

omit [Hosted σ] in
/-- A flight is begun. -/
theorem Sharing.launch (h : Sharing n key mark text setup .still e) {f : Flight} {o : Orchestra σ}
    (hs : o.setup = e.orchestra.setup) (hd : o.shutDown = e.orchestra.shutDown)
    (held : Phase.Held key mark o (.leaving e.tasks.length f)) :
    Sharing n key mark text setup (.leaving e.tasks.length f)
      ((e.withOrchestra o).begin [.build f]) where
  same := hs.trans h.same
  running := hd.trans h.running
  fits := by
    have hfits := h.fits
    simp only [Ensemble.begin, tasks_withOrchestra, List.length_append]
    omega
  held := held
  flies := by
    left
    rw [rest?_begin]
    simp
  built := by
    intro id b hp
    cases hp
  calls := by
    intro j t hc ht
    by_cases hj : j < e.tasks.length
    · rw [rest?_begin, tasks_withOrchestra, if_pos hj] at ht
      rw [isCall_begin_of_lt (e := e.withOrchestra o) hj] at hc
      rw [eq_load_of_allows (h.calls j t hc ht)]
      exact .loads
    · have hb := hc.2
      rw [began?_begin, tasks_withOrchestra, if_neg hj, List.getElem?_singleton] at hb
      split at hb <;> cases hb
  others := by
    intro j t hc hne ht
    rw [rest?_begin, tasks_withOrchestra] at ht
    split at ht
    · rename_i hj
      exact h.others j t (mt (isCall_begin_of_lt (e := e.withOrchestra o) hj).2 hc)
        (by simp [Phase.task?]) ht
    · have hj : e.tasks.length ≠ j := fun hj => hne (congrArg some hj)
      rw [List.getElem?_singleton, if_neg (by omega)] at ht
      cases ht

/-- The first load launches the flight. -/
theorem onward_embark (h : Sharing n key mark text setup .still e) {i : Nat}
    (hi : e.rest? i = some (.load key)) (hc : e.IsCall n key i) :
    Onward n key mark text setup .still
      (.leaving e.tasks.length (e.orchestra.nextOf key false)) e (.turn i .go) := by
  obtain ⟨hcache, hflight⟩ := h.held
  have ht : (Errand.load key).turn .go e.orchestra =
      ⟨e.orchestra.embark key, .joining e.orchestra.nextFlight false,
        [.build (e.orchestra.nextOf key false)]⟩ := by
    unfold Errand.turn
    simp only [h.running, Bool.false_eq_true, if_false, hcache]
    exact join_of_none _ key hflight false false
  have hlt : i < (e.withOrchestra (e.orchestra.embark key)).tasks.length := lt_of_rest? hi
  have hh := e.orchestra.holding_embark key key
  rw [if_pos rfl] at hh
  have hlaunch := h.launch (f := e.orchestra.nextOf key false) (o := e.orchestra.embark key) rfl rfl
    ⟨hcache, congrArg Holding.flight hh, rfl, rfl, rfl⟩
  have hi' : ((e.withOrchestra (e.orchestra.embark key)).begin
      [.build (e.orchestra.nextOf key false)]).rest? i = some (.load key) := by
    rw [rest?_begin, if_pos hlt]
    exact hi
  have hc' : ((e.withOrchestra (e.orchestra.embark key)).begin
      [.build (e.orchestra.nextOf key false)]).IsCall n key i := (isCall_begin_of_lt hlt).2 hc
  refine ⟨?_, ?_, ?_, [], .single rfl ?_, rfl⟩
  · rw [play_turn hi, ht, begin_setRest _ _ _ _ hlt]
    exact hlaunch.setRest hi' (fun hp => hlaunch.not_isCall hp hc') (fun _ => .waits rfl)
      fun hn => absurd hc' hn
  · rw [reads_turn hi]
    rfl
  · rw [builds_turn hi]
    rfl
  · rw [orchestra_turn hi, ht]
    exact .still

/-! ### The flight goes on -/

/-- While there is a flight, a load is about to begin or waits for it. -/
theorem allows_of_flight {t : Errand} (h : p.Allows key mark t) (hp : p.task?.isSome)
    (hf : p'.flight? = p.flight?) : p'.Allows key mark t := by
  cases h with
  | loads => exact .loads
  | waits hid => exact .waits (hf.trans hid)
  | compares | returned => cases hp

omit [Hosted σ] in
/-- The task of the flight may go on, and its phase with it. -/
theorem Sharing.advance (h : Sharing n key mark text setup p e) {i : Nat} {t t' : Errand}
    {o : Orchestra σ} (hi : e.rest? i = some t) (hp : p.task? = some i)
    (hs : o.setup = e.orchestra.setup) (hd : o.shutDown = e.orchestra.shutDown)
    (hf : p'.flight? = p.flight?) (held : p'.Held key mark o)
    (flies : ∀ e' : Ensemble σ, e'.rest? i = some t' → p'.Flies mark e')
    (built : ∀ id b, p' = .home id b → ∃ o : Orchestra σ, o.setup = setup ∧ b = o.builtOf text)
    (away : p'.task? = some i ∨ ¬ t'.Touches setup.keyOf? key) :
    Sharing n key mark text setup p' ((e.withOrchestra o).setRest i t') where
  same := hs.trans h.same
  running := hd.trans h.running
  fits := (length_setRest (e.withOrchestra o) i t').symm ▸ h.fits
  held := held
  flies := by
    apply flies
    rw [rest?_setRest i t' (e := e.withOrchestra o) hi, if_pos rfl]
  built := built
  calls := by
    intro j t₁ hc ht
    rw [isCall_setRest] at hc
    have hji : j ≠ i := by
      rintro rfl
      exact h.not_isCall hp hc
    rw [rest?_setRest j t' (e := e.withOrchestra o) hi, if_neg hji] at ht
    exact allows_of_flight (h.calls j t₁ hc ht) (hp ▸ rfl) hf
  others := by
    intro j t₁ hc hj ht
    rw [isCall_setRest] at hc
    rw [rest?_setRest j t' (e := e.withOrchestra o) hi] at ht
    split at ht
    · rename_i hji
      subst hji
      obtain rfl := Option.some.inj ht
      exact away.resolve_left hj
    · rename_i hji
      refine h.others j t₁ hc ?_ ht
      rw [hp]
      exact fun heq => hji (Option.some.inj heq).symm

/-- A flight that finds no artifact goes for the fingerprint. -/
theorem turn_build_of_leaving {i : Nat} {f : Flight}
    (h : Sharing n key mark text setup (.leaving i f) e) :
    (Errand.build f).turn .go e.orchestra = ⟨e.orchestra, .marking f, []⟩ := by
  obtain ⟨hcache, -, hkey, hforced, -⟩ := h.held
  unfold Errand.turn
  simp [hforced, hkey, hcache]

/-- The flight finds no artifact, and goes for the fingerprint. -/
theorem onward_setsOut {i : Nat} {f : Flight} (h : Sharing n key mark text setup (.leaving i f) e)
    (hi : e.rest? i = some (.build f)) :
    Onward n key mark text setup (.leaving i f) (.leaving i f) e (.turn i .go) := by
  have ht := turn_build_of_leaving h
  refine .stay ?_ ?_ ?_ rfl ?_
  · rw [play_turn_of_eq hi ht rfl]
    refine h.advance hi rfl rfl rfl rfl h.held (fun _ => .inr) ?_ (.inl rfl)
    intro id b hp
    cases hp
  · rw [reads_turn hi]
    rfl
  · rw [builds_turn hi]
    rfl
  · rw [orchestra_turn hi, ht]
    exact ⟨[], .still, by simp⟩

/-- The flight has the fingerprint, and goes for the text. -/
theorem onward_marks {i : Nat} {f : Flight} (h : Sharing n key mark text setup (.leaving i f) e)
    (hi : e.rest? i = some (.marking f)) :
    Onward n key mark text setup (.leaving i f) (.reading i f) e
      (.turn i (.fingerprint (.ok mark))) := by
  obtain ⟨hcache, hflight, hkey, hforced, hgen⟩ := h.held
  have ht : (Errand.marking f).turn (.fingerprint (.ok mark)) e.orchestra =
      ⟨e.orchestra, .reading f mark, []⟩ := rfl
  refine ⟨?_, ?_, ?_, [], .single rfl ?_, rfl⟩
  · rw [play_turn_of_eq hi ht rfl]
    refine h.advance hi rfl rfl rfl rfl ⟨hcache, hflight, hkey, hforced, hgen⟩ (fun _ => id) ?_
      (.inl rfl)
    intro id b hp
    cases hp
  · rw [reads_turn hi]
    simp [Phase.reads, Errand.reads, hkey]
  · rw [builds_turn hi]
    rfl
  · rw [orchestra_turn hi, ht]
    exact .still

/-- The flight has the text, and comes home with the artifact. -/
theorem onward_builds {i : Nat} {f : Flight} (h : Sharing n key mark text setup (.reading i f) e)
    (hi : e.rest? i = some (.reading f mark)) :
    Onward n key mark text setup (.reading i f)
      (.home f.id (e.orchestra.builtOf text)) e (.turn i (.text (.ok text))) := by
  obtain ⟨-, hflight, hkey, -, hgen⟩ := h.held
  subst hkey
  have hl := e.orchestra.ledger_buildText f.key text mark .source f.generation true
  have ht := turn_reading e.orchestra f mark text
  have hfl : (e.orchestra.buildText f.key text mark .source f.generation).2.flights.get? f.key =
      some f.id := by
    rw [← flight_holding, holding_buildText_of_current _ _ _ _ _ _ h.running hgen.symm, if_pos rfl]
    exact hflight
  have hscene : (e.play (.turn i (.text (.ok text)))).orchestra.scene =
      (e.orchestra.buildText f.key text mark .source f.generation).2.scene := by
    rw [orchestra_turn hi, ht, scene_land]
  have htells := tells_buildText_of_current e.orchestra f.key text mark .source true h.running
    hgen.symm
  have hparse : e.orchestra.outcomeOf text = Template.parse text setup.options.maxDepth := by
    rw [outcomeOf, h.same]
  rw [← artifact_builtOf, ← hscene, hparse] at htells
  refine ⟨?_, ?_, ?_, _, .single rfl htells, ?_⟩
  · rw [play_turn_of_eq hi ht rfl]
    refine h.advance hi rfl (congrArg Ledger.setup hl) (congrArg Ledger.shutDown hl) rfl
      ⟨?_, ?_, landing?_land ..⟩ (fun _ _ => trivial) ?_ (.inr id)
    · rw [cache_land]
      exact entry_buildText_of_current _ _ _ _ _ _ h.running hgen.symm
    · rw [← flight_holding, holding_land, if_pos ⟨rfl, hfl⟩]
    · intro id b hp
      cases hp
      exact ⟨e.orchestra, h.same, rfl⟩
  · rw [reads_turn hi]
    rfl
  · rw [builds_turn hi]
    simp [Phase.builds, Errand.builds]
  · rw [List.filter_eq_self.2 (by simp [about])]
    rfl

/-! ### The loads go on -/

omit [Hosted σ] in
/-- While the flight is under way, it has not landed. -/
theorem landing?_of_task? (h : Sharing n key mark text setup p e) (hs : Sound e) {i id : Nat}
    (hp : p.task? = some i) (hid : p.flight? = some id) : e.orchestra.landing? id = none := by
  obtain ⟨f, hf, hid'⟩ := h.flightAt_of_task? hp
  obtain rfl := Option.some.inj (hid'.symm.trans hid)
  exact hs.aloft hf

/-- While the flight is under way, a load joins it. -/
theorem turn_load_of_task? (h : Sharing n key mark text setup p e) {i : Nat}
    (hp : p.task? = some i) :
    ∃ id, p.flight? = some id ∧
      (Errand.load key).turn .go e.orchestra = ⟨e.orchestra, .joining id false, []⟩ := by
  have hh := h.held
  cases p with
  | still | home => cases hp
  | leaving j f | reading j f =>
    refine ⟨f.id, rfl, ?_⟩
    unfold Errand.turn
    simp only [h.running, Bool.false_eq_true, if_false, hh.1]
    exact join_of_flight _ key hh.2.1 false false

/-- When the flight is home, a load finds its artifact. -/
theorem turn_load_of_home {id : Nat} {b : Built}
    (h : Sharing n key mark text setup (.home id b) e) :
    (Errand.load key).turn .go e.orchestra =
      ⟨e.orchestra, .comparing key ⟨mark, b, .source⟩, []⟩ := by
  unfold Errand.turn
  simp only [h.running, Bool.false_eq_true, if_false, h.held.1]

theorem onward_load_of_home {id : Nat} {b : Built}
    (h : Sharing n key mark text setup (.home id b) e) (hs : Sound e) {i : Nat}
    (hi : e.rest? i = some (.load key)) (hc : e.IsCall n key i) :
    Onward n key mark text setup (.home id b) (.home id b) e (.turn i .go) :=
  .call h hs hi hc (turn_load_of_home h) .refl .compares rfl rfl

/-- A load begins. -/
theorem onward_load (h : Sharing n key mark text setup p e) (hs : Sound e) {i : Nat}
    (hi : e.rest? i = some (.load key)) (hc : e.IsCall n key i) :
    ∃ p', Onward n key mark text setup p p' e (.turn i .go) := by
  cases p with
  | still => exact ⟨_, onward_embark h hi hc⟩
  | leaving j f | reading j f =>
    obtain ⟨id, hid, ht⟩ := turn_load_of_task? h rfl
    exact ⟨_, .call h hs hi hc ht .refl (.waits hid) rfl rfl⟩
  | home id b => exact ⟨_, onward_load_of_home h hs hi hc⟩

/-- A load that waits looks for what the flight has brought home. -/
theorem onward_joining (h : Sharing n key mark text setup p e) (hs : Sound e) {i id : Nat}
    (hi : e.rest? i = some (.joining id false)) (hc : e.IsCall n key i)
    (hid : p.flight? = some id) :
    Onward n key mark text setup p p e (.turn i .go) := by
  cases p with
  | still => cases hid
  | leaving j f | reading j f =>
    have hl := landing?_of_task? h hs rfl hid
    refine .unmoved h hi ?_ rfl rfl
    unfold Errand.turn
    simp only [hl]
  | home j b =>
    obtain rfl := Option.some.inj hid
    exact .call h hs hi hc (turn_joining h.held.2.2) .refl .returned rfl rfl

/-- A load that has found the artifact is served. -/
theorem onward_comparing {id : Nat} {b : Built}
    (h : Sharing n key mark text setup (.home id b) e) (hs : Sound e) {i : Nat}
    (hi : e.rest? i = some (.comparing key ⟨mark, b, .source⟩)) (hc : e.IsCall n key i) :
    Onward n key mark text setup (.home id b) (.home id b) e
      (.turn i (.fingerprint (.ok mark))) :=
  .call h hs hi hc (turn_comparing ..) (.record ..) .returned rfl rfl

/-- A turn of a load. -/
theorem onward_call (h : Sharing n key mark text setup p e) (hs : Sound e) {i : Nat} {t : Errand}
    (hi : e.rest? i = some t) (hc : e.IsCall n key i) {s : Signal}
    (hcalm : t.Touches e.orchestra.setup.keyOf? key → s.Steady mark text) :
    ∃ p', Onward n key mark text setup p p' e (.turn i s) := by
  have ha := h.calls i t hc hi
  cases ha with
  | loads =>
    cases s with
    | go => exact onward_load h hs hi hc
    | _ => exact ⟨_, .unmoved h hi rfl rfl rfl⟩
  | waits hid =>
    cases s with
    | go => exact ⟨_, onward_joining h hs hi hc hid⟩
    | _ => exact ⟨_, .unmoved h hi rfl rfl rfl⟩
  | compares =>
    cases s with
    | fingerprint r =>
      obtain rfl : r = .ok mark := hcalm rfl
      exact ⟨_, onward_comparing h hs hi hc⟩
    | collapse => exact (hcalm rfl).elim
    | _ => exact ⟨_, .unmoved h hi rfl rfl rfl⟩
  | returned => exact ⟨_, .unmoved h hi rfl rfl rfl⟩

/-- A turn of the flight. -/
theorem onward_flight (h : Sharing n key mark text setup p e) {i : Nat} (hp : p.task? = some i)
    {t : Errand} (hi : e.rest? i = some t) {s : Signal}
    (hcalm : t.Touches e.orchestra.setup.keyOf? key → s.Steady mark text) :
    ∃ p', Onward n key mark text setup p p' e (.turn i s) := by
  have hf := h.flies
  cases p with
  | still | home => cases hp
  | leaving j f =>
    obtain rfl := Option.some.inj hp
    rcases hf with hf | hf
    · obtain rfl := Option.some.inj (hf.symm.trans hi)
      cases s with
      | go => exact ⟨_, onward_setsOut h hi⟩
      | _ => exact ⟨_, .unmoved h hi rfl rfl rfl⟩
    · obtain rfl := Option.some.inj (hf.symm.trans hi)
      cases s with
      | fingerprint r =>
        obtain rfl : r = .ok mark := hcalm h.held.2.2.1
        exact ⟨_, onward_marks h hi⟩
      | collapse => exact (hcalm h.held.2.2.1).elim
      | _ => exact ⟨_, .unmoved h hi rfl rfl rfl⟩
  | reading j f =>
    obtain rfl := Option.some.inj hp
    obtain rfl := Option.some.inj (hf.symm.trans hi)
    cases s with
    | text r =>
      obtain rfl : r = .ok text := hcalm h.held.2.2.1
      exact ⟨_, onward_builds h hi⟩
    | collapse => exact (hcalm h.held.2.2.1).elim
    | _ => exact ⟨_, .unmoved h hi rfl rfl rfl⟩

/-! ### From phase to phase -/

/-- An operation that leaves the key alone. -/
theorem Onward.aside (h : Sharing n key mark text setup p e) (hs : Sound e) {o : Orchestra σ}
    (hplay : e.play b = e.withOrchestra o) (ho : Elsewhere key e.orchestra o)
    (hr : b.reads key e = false) (hb : b.builds key e = false) (hout : b.isOutside = false) :
    Onward n key mark text setup p p e b := by
  have hl : ∀ id l, e.orchestra.landing? id = some l → o.landing? id = some l := by
    intro id l hid
    have h' := landing?_play hs b hid
    rwa [hplay] at h'
  refine .stay ?_ hr hb hout ?_
  · rw [hplay]
    exact h.withOrchestra ho.holding ho.setup ho.shutDown hl
  · rw [hplay]
    exact ho.tells

/-- Something is begun that leaves the key alone, or loads it. -/
theorem Onward.begun (h : Sharing n key mark text setup p e) {ts : List Errand}
    (hplay : e.play b = e.begin ts) (hts : ∀ t ∈ ts, t = .load key ∨ ¬ t.Touches setup.keyOf? key)
    (hr : b.reads key e = false) (hb : b.builds key e = false) (hout : b.isOutside = false) :
    Onward n key mark text setup p p e b := by
  refine .stay ?_ hr hb hout ?_
  · rw [hplay]
    exact h.begin hts
  · rw [hplay]
    exact ⟨[], .still, by simp⟩

/-- A task that is none of the loads is let go. -/
theorem onward_letGo (h : Sharing n key mark text setup p e) {i : Nat}
    (hc : ¬ e.IsCall n key i) : Onward n key mark text setup p p e (.letGo i) := by
  cases hi : e.rest? i with
  | none =>
    have hplay : e.play (.letGo i) = e := by simp only [play, hi]
    exact .stay (hplay.symm ▸ h) rfl rfl rfl (hplay.symm ▸ ⟨[], .still, by simp⟩)
  | some t =>
    cases hk : t.isKept with
    | true =>
      have hplay : e.play (.letGo i) = e := by simp only [play, hi, hk, if_true]
      exact .stay (hplay.symm ▸ h) rfl rfl rfl (hplay.symm ▸ ⟨[], .still, by simp⟩)
    | false =>
      have hplay : e.play (.letGo i) =
          (e.withOrchestra (t.letGo e.orchestra)).setRest i (.done .nothing) := by
        simp only [play, hi, hk, Bool.false_eq_true, if_false]
      have hne : p.task? ≠ some i := by
        intro hp
        obtain ⟨f, hf, -⟩ := h.flightAt_of_task? hp
        rw [flightAt_of_rest? hi] at hf
        rw [Errand.isKept_of_flight? hf] at hk
        cases hk
      have ho := elsewhere_letGo (h.same ▸ h.others i t hc hne hi)
      have hl := landing?_eq_of_landed (congrArg Ledger.landed (e.orchestra.ledger_letGo t))
      refine .stay ?_ rfl rfl rfl ?_
      · rw [hplay]
        exact (h.withOrchestra ho.holding ho.setup ho.shutDown fun id l hid =>
          (hl id).trans hid).setRest hi hne (fun hc' => absurd hc' hc) fun _ => id
      · rw [hplay]
        exact ho.tells

/-- **Each calm beat leads from a phase to a phase.** -/
theorem sharing_play (h : Sharing n key mark text setup p e) (hs : Sound e)
    (hb : b.Calm n key mark text e) :
    ∃ p', Onward n key mark text setup p p' e b := by
  cases b with
  | call c =>
    refine ⟨p, .begun h rfl ?_ rfl rfl rfl⟩
    intro t ht
    rw [List.mem_singleton.1 ht]
    rcases hb with rfl | hb
    · exact .inl rfl
    · exact .inr (h.same ▸ hb)
  | turn i s =>
    cases hi : e.rest? i with
    | none =>
      have hplay := play_turn_of_none hi s
      refine ⟨p, .stay (hplay.symm ▸ h) ?_ ?_ rfl (hplay.symm ▸ ⟨[], .still, by simp⟩)⟩
      · simp [Beat.reads, hi]
      · simp [Beat.builds, hi]
    | some t =>
      by_cases hp : p.task? = some i
      · exact onward_flight h hp hi (hb t hi)
      · by_cases hc : e.IsCall n key i
        · exact onward_call h hs hi hc (hb t hi)
        · exact ⟨p, .turn_elsewhere h hs hi hp hc s⟩
  | letGo i => exact ⟨p, onward_letGo h hb⟩
  | loadText k t bound =>
    exact ⟨p, .aside h hs rfl (.loadText _ hb) rfl (beq_eq_false_iff_ne.2 hb) rfl⟩
  | invalidate k => exact ⟨p, .aside h hs rfl (.invalidate _ hb) rfl rfl rfl⟩
  | clearCache => exact hb.elim
  | fire event =>
    refine ⟨p, .begun h rfl ?_ rfl rfl rfl⟩
    intro t ht
    obtain ⟨b, hb', rfl⟩ := List.mem_map.1 ht
    exact .inr (hb b hb')
  | cancel token =>
    exact ⟨p, .aside h hs rfl (.of_bus (n := 0) rfl rfl rfl) rfl rfl rfl⟩
  | outside scene store left =>
    exact ⟨p, h.withOrchestra rfl rfl rfl fun _ _ => id, rfl, rfl, [], .outside rfl .nil,
      by simp⟩

end

end Ensemble

end LivePanel.Orchestra
