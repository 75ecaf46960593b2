import LivePanel.Proofs.Orchestra.Rebuild
import LivePanel.Proofs.Orchestra.Reloading
import LivePanel.Proofs.Orchestra.Renewing

/-!
# Texts that stand in for a source

A text that is given under a key stands in for a source that does not have the key. It overtakes the
flights of the key that are under way, so whatever these bring home is not kept. From then on the
artifact of the text is found in two places. A load finds it in the cache, and so does a flight that
looks there; a flight that does not, since a reload has launched it, is left it when the source has
failed. Runs of actions of the key build its template again, and their artifacts take its place.

## The model

* `Upheld`: what is kept under a key is of a text that was given.
* `Beat.Upholds`: the beats that leave a text to stand.
* `Abides`: what a task can be while a text stands.
* `Serves`: a flight brings home an artifact of the text.
* `Loads`: where a load or a reload can stand that was called after the text was given.
* `Returns`: a task can still be given an artifact of the text.

## What is proved

* `standing_play`: a beat that upholds a text leaves it standing, and all tasks abide by it.
* `Standing.loads_play`: a load or a reload waits for what brings an artifact of the text, or is
  given one.
* `Standing.returns_of_loads`: it returns once the source has said that it does not have the key.
* `given_text_stands`: all this for every run.
-/

namespace LivePanel.Orchestra

variable {σ : Type}

/-! ### Artifacts of a text -/

/-- An artifact is one of a text: the text was built, or the template that it holds was built
again. -/
def IsOfText (setup : Setup σ) (text : String) (a : Build.Artifact) : Prop :=
  ∃ host world, a = (Build.text setup.options setup.registry text host world).1 ∨
    ∃ t, (Template.parse text setup.options.maxDepth).template = some t ∧
      a = (Build.template setup.options setup.registry t host [] world).1

/-- What is in the cache for a text that was given. -/
structure Given (setup : Setup σ) (text : String) (entry : CacheEntry) : Prop where
  fingerprint : entry.fingerprint = .ofText text
  origin : entry.origin = .text
  artifact : IsOfText setup text entry.built.artifact

/-- The template that is kept for a text that was given. -/
def givenTemplate (setup : Setup σ) (text : String) : Option Loaded :=
  (Template.parse text setup.options.maxDepth).template.map (⟨·, .ofText text, .text⟩)

section

variable (o : Orchestra σ) (text : String)

theorem isOfText_builtOf : IsOfText o.setup text (o.builtOf text).artifact :=
  ⟨o.store.value, o.scene.world, .inl (o.artifact_builtOf text)⟩

variable {text}

theorem isOfText_rebuiltOf {t : Template} (ht : (o.outcomeOf text).template = some t) :
    IsOfText o.setup text (o.rebuiltOf t).artifact :=
  ⟨o.store.value, o.scene.world, .inr ⟨t, ht, rfl⟩⟩

end

/-- The artifact of a text that was given is fresh for a source that does not have the key. -/
theorem Given.isFresh {setup : Setup σ} {text : String} {entry : CacheEntry}
    (h : Given setup text entry) {cause : SourceError} (hc : cause.isNotFound = true) :
    entry.isFresh (.error cause) = true := by
  simp [CacheEntry.isFresh, h.origin, hc]

/-! ### Texts that stand -/

/-- What is kept under a key is of a text, and the key is still of the generation that it was of in
an earlier orchestra. -/
structure Upheld (o₁ : Orchestra σ) (key text : String) (o : Orchestra σ) : Prop where
  setup : o.setup = o₁.setup
  shutDown : o.shutDown = false
  generation : o.generation key = o₁.generation key
  entry : ∃ entry, o.cache.get? key = some entry ∧ Given o₁.setup text entry
  record : o.loaded.get? key = givenTemplate o₁.setup text

namespace Upheld

variable {o₁ o o' : Orchestra σ} {key text : String}

theorem spared (h : Upheld o₁ key text o) (hs : Spared key o o') : Upheld o₁ key text o' where
  setup := hs.setup.trans h.setup
  shutDown := hs.shutDown.trans h.shutDown
  generation := hs.generation.trans h.generation
  entry := hs.entry ▸ h.entry
  record := hs.record.trans h.record

/-- A text that was given stands. -/
theorem loadText {o : Orchestra σ} (hs : o.shutDown = false) (bound : Bool) :
    Upheld (o.loadText key text bound).2 key text (o.loadText key text bound).2 := by
  have hg := Grows.loadText o key text bound
  have hst := stored_loadText o key text bound hs
  obtain ⟨n, hl⟩ := o.ledger_loadText key text bound
  refine ⟨rfl, (congrArg Ledger.shutDown hl).trans hs, rfl, ⟨_, hst.entry, rfl, rfl, ?_⟩, ?_⟩
  · rw [hg.setup]
    exact isOfText_builtOf o text
  · rw [hst.record, givenTemplate, hg.setup]
    rfl

/-- The template that is kept is built again, and its artifact stands for the text. -/
theorem rebuild (h : Upheld o₁ key text o) {l : Loaded} (hl : o.loaded.get? key = some l) :
    Upheld o₁ key text (o.rebuild key l) := by
  obtain ⟨t, ht, rfl⟩ := Option.map_eq_some_iff.1 (h.record.symm.trans hl)
  have hh := o.holding_rebuild key ⟨t, .ofText text, .text⟩ key
  rw [if_pos rfl] at hh
  have hledger := o.ledger_rebuild key ⟨t, .ofText text, .text⟩
  have ht' : (o.outcomeOf text).template = some t := by
    rw [outcomeOf, h.setup]
    exact ht
  refine ⟨(congrArg Ledger.setup hledger).trans h.setup,
    (congrArg Ledger.shutDown hledger).trans h.shutDown,
    (congrArg Holding.generation hh).trans h.generation,
    ⟨_, congrArg Holding.entry hh, rfl, rfl, ?_⟩, (congrArg Holding.record hh).trans h.record⟩
  exact h.setup ▸ isOfText_rebuiltOf o ht'

/-- A flight whose source does not have the key is left an artifact of the text. -/
theorem sourceFailed (h : Upheld o₁ key text o) {cause : SourceError}
    (hc : cause.isNotFound = true) :
    ∃ b, (o.sourceFailed key cause).1 = .ok b ∧ IsOfText o₁.setup text b.artifact := by
  obtain ⟨entry, he, hgiven⟩ := h.entry
  refine ⟨entry.built, ?_, hgiven.artifact⟩
  unfold Orchestra.sourceFailed
  rw [he, Option.filter_some]
  simp [hc, hgiven.origin]

variable [Hosted σ]

/-- A turn of a run of the template that is kept leaves the text to stand. -/
theorem run (h : Upheld o₁ key text o) {t : Errand} {l : Loaded} (ht : t.run? o = some (key, l))
    (hl : o.loaded.get? key = some l) (s : Signal) : Upheld o₁ key text (t.turn s o).orchestra := by
  have hc := course o t s
  generalize t.turn s o = turn at hc
  cases hc with
  | unmoved | returns => exact h
  | joins hw | embarks hw => cases t <;> first | exact hw.elim | cases ht
  | fails hf | crashes hf => cases (flight?_of_run? ht).symm.trans hf
  | notes _ _ hq | plays _ _ hq | finishes _ hq => exact h.spared (.of_quiet hq)
  | rebuilds ht' _ hq =>
    obtain ⟨rfl, rfl⟩ := Prod.mk.inj (Option.some.inj (ht.symm.trans ht'))
    have hs : Spared key o _ := .of_quiet hq
    exact (h.spared hs).rebuild (hs.record.trans hl)
  | _ => cases ht

end Upheld

/-! ### Beats that leave a text to stand -/

/-- What a source answers that does not have a key. -/
def Signal.Denies : Signal → Prop
  | .fingerprint r => ∃ cause, r = .error cause ∧ cause.isNotFound = true
  | .text r => ∃ cause, r = .error cause ∧ cause.isNotFound = true
  | .collapse => False
  | _ => True

/-- A beat leaves a text to stand that has just been given under a key in an earlier ensemble. It
does not drop, refresh or forget the key or give it another text, drop all artifacts, or shut the
orchestra down, and it is no turn of a run of the key that was under way then. What a task that has
begun since asks the source for the key, the source does not have; what the source answers the tasks
that were there before is left open. -/
structure Beat.Upholds (e₁ : Ensemble σ) (key : String) (e : Ensemble σ) (b : Beat σ) : Prop where
  overtakes : ¬ b.Overtakes e key
  clearCache : b ≠ .clearCache
  shutDown : ∀ i, b = .turn i .go → e.rest? i ≠ some .shutDown
  runs : ∀ i s d d₁, b = .turn i s → e.rest? i = some (.running d) → d.performance.key = key →
    e₁.rest? i ≠ some (.running d₁)
  denies : ∀ i s t, b = .turn i s → e₁.tasks.length ≤ i → e.rest? i = some t →
    t.Touches e.orchestra.setup.keyOf? key → s.Denies

namespace Ensemble

/-! ### Tasks while a text stands -/

/-- A flight has been launched since an ensemble was left. -/
def Since (e₁ : Ensemble σ) (i : Nat) (f : Flight) : Prop :=
  e₁.tasks.length ≤ i ∧ e₁.orchestra.nextFlight ≤ f.id

/-- What a task can be while a text stands under a key. A flight of the key was under way when the
text was given, or has been launched since and does not read. What asks about an artifact of the key
asks about one of the text, or was there before. A run of the key was under way, or has the template
of the text. -/
def Abides (e₁ : Ensemble σ) (key text : String) (i : Nat) : Errand → Prop
  | .build f => f.key = key → e₁.flightAt i = some f ∨ e₁.Since i f
  | .marking f => f.key = key → e₁.flightAt i = some f ∨ e₁.Since i f
  | .comparingIn f entry =>
    f.key = key → e₁.flightAt i = some f ∨ e₁.Since i f ∧ Given e₁.orchestra.setup text entry
  | .reading f _ => f.key = key → e₁.flightAt i = some f
  | .comparing k entry =>
    k = key → i < e₁.tasks.length ∨ Given e₁.orchestra.setup text entry
  | .running d =>
    d.performance.key = key → (∃ d₁, e₁.rest? i = some (.running d₁)) ∨
      givenTemplate e₁.orchestra.setup text = some d.loaded
  | _ => True

theorem Abides.flight {e₁ : Ensemble σ} {key text : String} {i : Nat} {t : Errand} {f : Flight}
    (h : e₁.Abides key text i t) (hf : t.flight? = some f) (hk : f.key = key) :
    e₁.flightAt i = some f ∨ e₁.Since i f := by
  cases t with
  | build | marking =>
    obtain rfl := Option.some.inj hf
    exact h hk
  | comparingIn =>
    obtain rfl := Option.some.inj hf
    exact (h hk).imp_right And.left
  | reading =>
    obtain rfl := Option.some.inj hf
    exact .inl (h hk)
  | _ => cases hf

/-- A task that was begun since is no earlier flight. -/
theorem flightAt_of_le {e₁ : Ensemble σ} {i : Nat} (hi : e₁.tasks.length ≤ i) :
    e₁.flightAt i = none := by
  rw [flightAt, rest?_of_le e₁ hi]
  rfl

/-- A flight was launched after a text was given under its key, and is under way or has brought home
an artifact of the text. -/
structure Serves (e₁ : Ensemble σ) (key text : String) (e : Ensemble σ) (id : Nat) : Prop where
  since : e₁.orchestra.nextFlight ≤ id
  brings : (∃ i f, e.flightAt i = some f ∧ f.key = key ∧ f.id = id ∧ e₁.Since i f) ∨
    ∃ b, e.orchestra.landing? id = some (.ok b) ∧ IsOfText e₁.orchestra.setup text b.artifact

variable [Hosted σ] {e₁ e : Ensemble σ} {key text : String} {b : Beat σ}

/-- A text that was given stands under its key, and all that is under way abides by it. -/
structure Standing (e₁ : Ensemble σ) (key text : String) (e : Ensemble σ) : Prop where
  sound : Sound e₁
  /-- The text has overtaken the flights that were under way. -/
  overtaken : e₁.AllOvertaken key
  reached : e.Reached
  grows : Grows e₁.orchestra e.orchestra
  fits : e₁.tasks.length ≤ e.tasks.length
  upheld : Upheld e₁.orchestra key text e.orchestra
  tasks : ∀ i t, e.rest? i = some t → e₁.Abides key text i t
  /-- The flight of the key that is on record, if there is one. -/
  flight : ∀ id, e.orchestra.flights.get? key = some id → e₁.Serves key text e id

namespace Standing

theorem abides_turn (h : Standing e₁ key text e) {i : Nat} {t : Errand} {s : Signal}
    (hi : e.rest? i = some t) (hb : (Beat.turn i s).Upholds e₁ key e) :
    e₁.Abides key text i (t.turn s e.orchestra).errand := by
  have ht := h.tasks i t hi
  obtain ⟨entry, he, hgiven⟩ := h.upheld.entry
  have hc := course e.orchestra t s
  generalize t.turn s e.orchestra = turn at hc
  cases hc with
  | unmoved => exact ht
  | compares hfound =>
    rintro rfl
    obtain rfl := Option.some.inj (he.symm.trans hfound)
    exact .inr hgiven
  | setsOut => exact ht
  | comparesIn _ hfound =>
    intro hk
    obtain rfl := Option.some.inj (he.symm.trans (hk ▸ hfound))
    exact (ht hk).imp_right (⟨·, hgiven⟩)
  | turnsBack => exact fun hk => (ht hk).imp_right And.left
  | marks =>
    intro hk
    rcases ht hk with hold | ⟨hn, -⟩
    · exact hold
    · obtain ⟨_, heq, -⟩ := hb.denies i _ _ rfl hn hi hk
      cases heq
  | plays hrun hd =>
    rintro rfl
    obtain ⟨rfl, rfl⟩ := hd
    rcases run?_eq_some hrun with hl | ⟨d, rfl, hk, hl⟩
    · exact .inr (h.upheld.record.symm.trans hl)
    · exact hl ▸ ht hk
  | @notes _ t' _ _ _ hr => cases t' <;> trivial
  | _ => trivial

theorem abides_play (h : Standing e₁ key text e) (hb : b.Upholds e₁ key e) {i : Nat} {t : Errand}
    (hi : (e.play b).rest? i = some t) : e₁.Abides key text i t := by
  cases hold : e.rest? i with
  | none =>
    rcases begun_of_play hold hi with ⟨c, rfl⟩ | ⟨f, rfl⟩
    · cases c <;> trivial
    · have hn : e.tasks.length ≤ i := by
        by_contra hlt
        have hsome := List.getElem?_eq_getElem (Nat.not_le.1 hlt)
        simp [rest?, hsome] at hold
      have hf := flightAt_of_rest? hi
      have hnone : e.flightAt i = none := flightAt_of_le hn
      refine fun _ => .inr ⟨Nat.le_trans h.fits hn, ?_⟩
      cases e.flown b with
      | goesOn hsame => cases hnone.symm.trans ((congrFun hsame i).symm.trans hf)
      | lands _ hflights =>
        rw [hflights, hnone, ite_self] at hf
        cases hf
      | launches _ hflights hid =>
        rw [hflights, hnone] at hf
        split at hf
        · obtain rfl := Option.some.inj hf
          exact hid ▸ h.grows.nextFlight
        · cases hf
  | some t₀ =>
    rcases rest?_play hold b with h' | ⟨s, rfl, h'⟩ | ⟨-, -, h'⟩ <;>
      obtain rfl := Option.some.inj (h'.symm.trans hi)
    · exact h.tasks i _ hold
    · exact h.abides_turn hold hb
    · trivial

/-- What a flight ends with that was launched since is of the text. -/
theorem serves_of_ends (h : Standing e₁ key text e) {i : Nat} {t : Errand} {f : Flight}
    {s : Signal} {l : Landing} (hi : e.rest? i = some t) (hf : t.flight? = some f)
    (hk : f.key = key) (hn : e₁.tasks.length ≤ i) (hb : (Beat.turn i s).Upholds e₁ key e)
    (hl : t.Ends e.orchestra f s l) :
    ∃ b, l = .ok b ∧ IsOfText e₁.orchestra.setup text b.artifact := by
  have ht := h.tasks i t hi
  have hnone : e₁.flightAt i ≠ some f := by simp [flightAt_of_le hn]
  cases hl with
  | @serves entry => exact ⟨entry.built, rfl, ((ht hk).resolve_left hnone).2.artifact⟩
  | unmarked =>
    obtain ⟨_, heq, hc⟩ := hb.denies i _ _ rfl hn hi hk
    obtain rfl := Except.error.inj heq
    exact hk ▸ h.upheld.sourceFailed hc
  | unread | builds => exact absurd (ht hk) hnone
  | breaksOff => exact (hb.denies i _ _ rfl hn hi ((touches_iff_of_flight? hf).2 hk)).elim

theorem serves_play (h : Standing e₁ key text e) (hb : b.Upholds e₁ key e) {id : Nat}
    (hid : e₁.Serves key text e id) : e₁.Serves key text (e.play b) id := by
  refine ⟨hid.since, ?_⟩
  rcases hid.brings with ⟨i, f, hf, hk, rfl, hn⟩ | ⟨built, hl, ha⟩
  · obtain ⟨t, ht, htf⟩ := Option.bind_eq_some_iff.1 hf
    rcases rest?_play ht b with h' | ⟨s, rfl, h'⟩ | ⟨-, hkept, -⟩
    · exact .inl ⟨i, f, (flightAt_of_rest? h').trans htf, hk, rfl, hn⟩
    · rcases ends_of_turn e.orchestra htf s with hgo | ⟨-, l, hend, hl⟩
      · exact .inl ⟨i, f, (flightAt_of_rest? h').trans hgo, hk, rfl, hn⟩
      · obtain ⟨built, rfl, ha⟩ := h.serves_of_ends ht htf hk hn.1 hb hend
        exact .inr ⟨built, (orchestra_turn ht s).symm ▸ hl, ha⟩
    · cases (Errand.isKept_of_flight? htf).symm.trans hkept
  · exact .inr ⟨built, landing?_play h.reached.sound b hl, ha⟩

/-- A flight that has been overtaken brings nothing home. -/
theorem not_bringsHome (h : Standing e₁ key text e) : ¬ b.BringsHome key e := by
  rintro ⟨i, f, mark, _, -, hi, hk, hg⟩
  rcases (h.overtaken i f (h.tasks i _ hi hk) hk).grows h.grows with hs | hlt
  · cases h.upheld.shutDown.symm.trans hs
  · rw [hk] at hlt
    omega

theorem upheld_play (h : Standing e₁ key text e) (hb : b.Upholds e₁ key e) :
    Upheld e₁.orchestra key text (e.play b).orchestra := by
  by_cases hruns : b.Runs key e
  · obtain ⟨i, s, t, l, rfl, hi, hrun⟩ := hruns
    rw [orchestra_turn hi]
    refine h.upheld.run hrun ?_ s
    rcases run?_eq_some hrun with hl | ⟨d, rfl, hk, rfl⟩
    · exact hl
    · rcases h.tasks i _ hi hk with ⟨d₁, hold⟩ | hgiven
      · exact absurd hold (hb.runs i s d d₁ rfl hi hk)
      · exact h.upheld.record.trans hgiven
  · refine h.upheld.spared (spared_play h.reached.refusing h.upheld.shutDown ?_
      h.not_bringsHome)
    rintro (hover | hclear | hruns' | ⟨i, hturn, hshut⟩)
    · exact hb.overtakes hover
    · exact hb.clearCache hclear
    · exact hruns hruns'
    · exact hb.shutDown i hturn hshut

end Standing

/-- A flight that comes on record is under way. -/
theorem aloft_of_filed (he : e.Reached) {p : String × Nat}
    (hp : p ∈ (e.play b).orchestra.flights) (hid : p.2 = e.orchestra.nextFlight) :
    (e.play b).Aloft p.1 p.2 := by
  have hnone : e.orchestra.landing? p.2 = none := he.sound.landing?_of_le (Nat.le_of_eq hid.symm)
  refine ((he.plays [b]).recorded.flight p hp).resolve_right fun hbroken => ?_
  have hl : (e.play b).orchestra.landing? p.2 = some _ := hbroken
  cases e.flown b with
  | goesOn _ hsame | launches _ _ _ _ hsame =>
    cases hnone.symm.trans ((landing?_eq_of_landed hsame p.2).symm.trans hl)
  | @lands _ f _ hf _ hlanded =>
    have hlt := he.sound.below hf
    rw [landing?_of_landed hlanded, if_neg (by omega), hnone] at hl
    cases hl

theorem length_le_play (e : Ensemble σ) (b : Beat σ) :
    e.tasks.length ≤ (e.play b).tasks.length := by
  cases b with
  | call | fire => simp [play, begin]
  | turn i s =>
    cases hi : e.rest? i with
    | none => simp [play_turn_of_none hi]
    | some t =>
      rw [length_turn hi]
      exact Nat.le_add_right ..
  | letGo i =>
    simp only [play]
    split
    · exact Nat.le_refl _
    · split <;> simp
  | loadText | invalidate | clearCache | cancel | outside => exact Nat.le_refl _

/-- **A beat that upholds a text leaves it standing.** -/
theorem standing_play (h : Standing e₁ key text e) (hb : b.Upholds e₁ key e) :
    Standing e₁ key text (e.play b) where
  sound := h.sound
  overtaken := h.overtaken
  reached := h.reached.plays [b]
  grows := h.grows.trans (e.grows_play b)
  fits := Nat.le_trans h.fits (e.length_le_play b)
  upheld := h.upheld_play hb
  tasks _ _ hi := h.abides_play hb hi
  flight id hid := by
    have hp := Table.mem_of_get? hid
    rcases flights_play hp with hold | hnew
    · exact h.serves_play hb (h.flight id (Table.get?_of_mem h.reached.recorded.ordered hold))
    · obtain ⟨i, f, hf, hk, rfl⟩ := aloft_of_filed h.reached hp hnew
      obtain ⟨t, ht, htf⟩ := Option.bind_eq_some_iff.1 hf
      rcases (h.abides_play hb ht).flight htf hk with hold | hsince
      · have hlt := h.sound.below hold
        have hle := h.grows.nextFlight
        have hnext : f.id = e.orchestra.nextFlight := hnew
        omega
      · exact ⟨hsince.2, .inl ⟨i, f, hf, hk, rfl, hsince⟩⟩

theorem standing_plays (h : Standing e₁ key text e) {beats : List (Beat σ)}
    (hb : Along (fun e b => b.Upholds e₁ key e) e beats) :
    Standing e₁ key text (e.plays beats) := by
  induction beats generalizing e with
  | nil => exact h
  | cons b beats ih => exact ih (standing_play h hb.1) hb.2

/-! ### Where a text begins to stand -/

section

variable {e₀ : Ensemble σ} {bound : Bool}

omit [Hosted σ] in
/-- A text that is given lets go of the flight of its key. -/
theorem flight_loadText {o : Orchestra σ} (hs : o.shutDown = false) :
    (o.loadText key text bound).2.flights.get? key = none := by
  simp only [Orchestra.loadText, hs, Bool.false_eq_true, if_false, flights_buildText]
  exact congrArg Holding.flight ((o.holding_supersede key key).trans (if_pos rfl))

/-- A text that is given overtakes the flights of its key. -/
theorem allOvertaken_loadText (he : e₀.Reached) :
    (e₀.play (.loadText key text bound)).AllOvertaken key := by
  rintro i f hf rfl
  have hf : e₀.flightAt i = some f := hf
  have hover : (Beat.loadText f.key text bound).Overtakes e₀ f.key := rfl
  exact hover.overtaken (he.sound.generation hf)

/-- **A text stands as soon as it is given.** -/
theorem standing_loadText (he : e₀.Reached) (hs : e₀.orchestra.shutDown = false) :
    Standing (e₀.play (.loadText key text bound)) key text
      (e₀.play (.loadText key text bound)) where
  sound := (he.plays [.loadText key text bound]).sound
  overtaken := allOvertaken_loadText he
  reached := he.plays [.loadText key text bound]
  grows := .refl
  fits := Nat.le_refl _
  upheld := .loadText hs bound
  tasks i t hi := by
    cases t with
    | build | marking | comparingIn => exact fun _ => Or.inl (flightAt_of_rest? hi)
    | reading => exact fun _ => flightAt_of_rest? hi
    | comparing => exact fun _ => Or.inl (lt_of_rest? hi)
    | running d => exact fun _ => Or.inl ⟨d, hi⟩
    | _ => trivial
  flight id hid := by cases (flight_loadText hs).symm.trans hid

/-- The flights that a text has overtaken are left to themselves. -/
theorem detached_of_standing (h : Standing e₁ key text e₁)
    (hnone : e₁.orchestra.flights.get? key = none) {i : Nat} {f : Flight}
    (hf : e₁.flightAt i = some f) (hk : f.key = key) : e₁.Detached i f := by
  refine detached_of_overtaken h.sound hf (h.overtaken i f hf hk) fun hmem => ?_
  cases hnone.symm.trans (hk ▸ Table.get?_of_mem h.reached.recorded.ordered hmem)

end

/-! ### Loads and reloads while a text stands -/

omit [Hosted σ] in
/-- Where a load or a reload can stand that was called after a text was given under its key: it has
not begun, asks about the artifact, waits for a later flight, or has an artifact of the text. -/
def Loads (e₁ : Ensemble σ) (key text : String) (e : Ensemble σ) : Errand → Prop
  | .load k => k = key
  | .reload k => k = key
  | .comparing k _ => k = key
  | .joining id silent => silent = false ∧ e₁.Serves key text e id
  | .done r => ∃ b, r = .landed (.ok b) ∧ IsOfText e₁.orchestra.setup text b.artifact
  | _ => False

namespace Standing

variable {i : Nat} {t : Errand}

/-- A load asks about the artifact of the text. -/
theorem turn_load (h : Standing e₁ key text e) :
    ∃ entry, (Errand.load key).turn .go e.orchestra = ⟨e.orchestra, .comparing key entry, []⟩ := by
  obtain ⟨entry, he, -⟩ := h.upheld.entry
  refine ⟨entry, ?_⟩
  simp [Errand.turn, h.upheld.shutDown, he]

/-- A reload waits for a flight that brings an artifact of the text. -/
theorem joins_of_reload (h : Standing e₁ key text e) (hi : e.rest? i = some (.reload key))
    (hb : (Beat.turn i .go).Upholds e₁ key e) :
    ∃ id, (e.play (.turn i .go)).rest? i = some (.joining id false) ∧
      e₁.Serves key text (e.play (.turn i .go)) id := by
  have hturn : (Errand.reload key).turn .go e.orchestra = e.orchestra.join key true false :=
    turn_reload h.upheld.shutDown
  have horchestra := orchestra_turn hi .go
  have hrest := rest?_turn_self hi .go
  rw [hturn] at horchestra hrest
  cases hflight : e.orchestra.flights.get? key with
  | some id =>
    rw [join_of_flight _ key hflight] at horchestra hrest
    exact ⟨id, hrest, (standing_play h hb).flight id (horchestra ▸ hflight)⟩
  | none =>
    rw [join_of_none _ key hflight] at horchestra hrest
    refine ⟨_, hrest, (standing_play h hb).flight _ ?_⟩
    rw [horchestra]
    simp [embark]

/-- A load that asks a source about the artifact of the text is given it. -/
theorem turn_comparing (h : Standing e₁ key text e) {entry : CacheEntry}
    (hi : e.rest? i = some (.comparing key entry)) (hn : e₁.tasks.length ≤ i) {cause : SourceError}
    (hc : cause.isNotFound = true) :
    (Errand.comparing key entry).turn (.fingerprint (.error cause)) e.orchestra =
        .over (e.orchestra.serve key) (.landed (.ok entry.built)) ∧
      IsOfText e₁.orchestra.setup text entry.built.artifact := by
  have hgiven := (h.tasks i _ hi rfl).resolve_left (Nat.not_lt.2 hn)
  refine ⟨?_, hgiven.artifact⟩
  unfold Errand.turn
  simp only [hgiven.isFresh hc, if_true]

theorem loads_turn (h : Standing e₁ key text e) (hn : e₁.tasks.length ≤ i)
    (hi : e.rest? i = some t) (ht : e₁.Loads key text e t) {s : Signal}
    (hb : (Beat.turn i s).Upholds e₁ key e) :
    e₁.Loads key text (e.play (.turn i s)) (t.turn s e.orchestra).errand := by
  cases t with
  | load k =>
    obtain rfl : k = key := ht
    cases s with
    | go =>
      obtain ⟨entry, hturn⟩ := h.turn_load
      rw [hturn]
      rfl
    | _ => rfl
  | reload k =>
    obtain rfl : k = key := ht
    cases s with
    | go =>
      obtain ⟨id, hwaits, hserves⟩ := h.joins_of_reload hi hb
      obtain hrest := Option.some.inj ((rest?_turn_self hi .go).symm.trans hwaits)
      rw [hrest]
      exact ⟨rfl, hserves⟩
    | _ => rfl
  | comparing k entry =>
    obtain rfl : k = key := ht
    cases s with
    | fingerprint r =>
      obtain ⟨cause, rfl, hc⟩ := hb.denies i _ _ rfl hn hi rfl
      obtain ⟨hturn, ha⟩ := h.turn_comparing hi hn hc
      rw [hturn]
      exact ⟨entry.built, rfl, ha⟩
    | collapse => exact (hb.denies i _ _ rfl hn hi rfl).elim
    | _ => rfl
  | joining id silent =>
    obtain ⟨rfl, hserves⟩ := ht
    rcases waits_or_ends e.orchestra id false s with hturn | ⟨l, hl, hturn⟩
    · rw [hturn]
      exact ⟨rfl, h.serves_play hb hserves⟩
    · rw [hturn]
      rcases hserves.brings with ⟨j, f, hf, -, rfl, -⟩ | ⟨built, hl', ha⟩
      · cases (h.reached.sound.aloft hf).symm.trans hl
      · obtain rfl := Option.some.inj (hl.symm.trans hl')
        exact ⟨built, rfl, ha⟩
  | done r => cases s <;> exact ht
  | _ => exact ht.elim

/-- **A load or a reload waits for what brings an artifact of the text, or is given one**, unless it
is let go. -/
theorem loads_play (h : Standing e₁ key text e) (hb : b.Upholds e₁ key e)
    (hn : e₁.tasks.length ≤ i) (hi : e.rest? i = some t) (ht : e₁.Loads key text e t) :
    ∃ t', (e.play b).rest? i = some t' ∧
      (e₁.Loads key text (e.play b) t' ∨ b = .letGo i ∧ t' = .done .nothing) := by
  rcases rest?_play hi b with h' | ⟨s, rfl, h'⟩ | ⟨rfl, -, h'⟩
  · refine ⟨t, h', .inl ?_⟩
    cases t with
    | joining => exact ⟨ht.1, h.serves_play hb ht.2⟩
    | _ => exact ht
  · exact ⟨_, h', .inl (h.loads_turn hn hi ht hb)⟩
  · exact ⟨_, h', .inr ⟨rfl, rfl⟩⟩

theorem loads_plays (h : Standing e₁ key text e) {beats : List (Beat σ)}
    (hb : Along (fun e b => b.Upholds e₁ key e) e beats) (hn : e₁.tasks.length ≤ i)
    (hi : e.rest? i = some t) (ht : e₁.Loads key text e t) :
    ∃ t', (e.plays beats).rest? i = some t' ∧
      (e₁.Loads key text (e.plays beats) t' ∨ .letGo i ∈ beats ∧ t' = .done .nothing) := by
  induction beats generalizing e t with
  | nil => exact ⟨t, hi, .inl ht⟩
  | cons b beats ih =>
    obtain ⟨t', hi', hload | ⟨rfl, rfl⟩⟩ := h.loads_play hb.1 hn hi ht
    · obtain ⟨t'', hi'', hend⟩ := ih (standing_play h hb.1) hb.2 hi' hload
      exact ⟨t'', hi'', hend.imp_right (And.imp_left (List.mem_cons_of_mem b))⟩
    · exact ⟨_, done_plays hi' beats, .inr ⟨List.mem_cons_self, rfl⟩⟩

end Standing

/-! ### That loads and reloads end -/

omit [Hosted σ] in
/-- A turn of a flight, or of a load or a reload, upholds a text if the source does not have the
key. -/
theorem upholds_turn {i : Nat} {t : Errand} {s : Signal} (hi : e.rest? i = some t)
    (ht : t.Mute ∨ t.Wants key) (hs : e₁.tasks.length ≤ i → s.Denies) :
    (Beat.turn i s).Upholds e₁ key e where
  overtakes := by
    rintro ⟨-, n, _, hn, -⟩
    obtain rfl := Option.some.inj (hi.symm.trans hn)
    exact ht.elim id id
  clearCache := nofun
  shutDown j hb hj := by
    obtain ⟨rfl, -⟩ := Beat.turn.inj hb
    obtain rfl := Option.some.inj (hi.symm.trans hj)
    exact ht.elim id id
  runs j _ d _ hb hj := by
    obtain ⟨rfl, -⟩ := Beat.turn.inj hb
    obtain rfl := Option.some.inj (hi.symm.trans hj)
    exact (ht.elim id id : False).elim
  denies j _ _ hb hn _ _ := by
    obtain ⟨rfl, rfl⟩ := Beat.turn.inj hb
    exact hs hn

omit [Hosted σ] in
theorem upholds_call (c : Call) : (Beat.call c).Upholds e₁ key e where
  overtakes := id
  clearCache := nofun
  shutDown _ := nofun
  runs _ _ _ _ := nofun
  denies _ _ _ := nofun

/-- The answer of a source that does not have a key. -/
def denial (key : String) : Signal := .fingerprint (.error (Source.absent key))

theorem denies_denial (key : String) : (denial key).Denies := ⟨Source.absent key, rfl, rfl⟩

/-- A task can still be given an artifact of a text while the text stands. -/
def Returns (e₁ : Ensemble σ) (key text : String) (e : Ensemble σ) (i : Nat) : Prop :=
  ∃ more, Along (fun e b => b.Upholds e₁ key e) e more ∧ ∃ b,
    (e.plays more).rest? i = some (.done (.landed (.ok b))) ∧
      IsOfText e₁.orchestra.setup text b.artifact

theorem Returns.cons {i : Nat} (hb : b.Upholds e₁ key e) (h : e₁.Returns key text (e.play b) i) :
    e₁.Returns key text e i := by
  obtain ⟨more, hmore, hend⟩ := h
  exact ⟨b :: more, ⟨hb, hmore⟩, hend⟩

/-- A task that waits for a flight returns what the flight has brought home. -/
theorem returns_of_landed {i id : Nat} {built : Built}
    (hi : e.rest? i = some (.joining id false) ∨ e.rest? i = some (.done (.landed (.ok built))))
    (hl : e.orchestra.landing? id = some (.ok built))
    (ha : IsOfText e₁.orchestra.setup text built.artifact) : e₁.Returns key text e i := by
  rcases hi with hi | hi
  · have hgo : (Beat.turn i .go).Upholds e₁ key e := upholds_turn hi (.inl trivial) fun _ => trivial
    refine ⟨[.turn i .go], ⟨hgo, trivial⟩, built, ?_, ha⟩
    rw [plays_cons, plays_nil, rest?_turn_self hi, turn_joining hl]
    rfl
  · exact ⟨[], trivial, built, hi, ha⟩

namespace Standing

variable {i : Nat} {f : Flight}

/-- A later flight that is set out asks for the fingerprint of its key, or about the artifact. -/
theorem asks_of_go (h : Standing e₁ key text e) (hf : e.flightAt i = some f)
    (hk : f.key = key) (hn : e₁.tasks.length ≤ i) :
    (e.play (.turn i .go)).rest? i = some (.marking f) ∨
      ∃ entry, (e.play (.turn i .go)).rest? i = some (.comparingIn f entry) := by
  obtain ⟨t, ht, htf⟩ := Option.bind_eq_some_iff.1 hf
  have hnext := rest?_turn_self ht .go
  cases t with
  | build g =>
    obtain rfl := Option.some.inj htf
    cases hforced : g.forced with
    | true =>
      rw [turn_build_of_missing (.inl hforced)] at hnext
      exact .inl hnext
    | false =>
      obtain ⟨entry, he, -⟩ := h.upheld.entry
      refine .inr ⟨entry, hnext.trans ?_⟩
      simp [Errand.turn, hforced, hk, he]
  | comparingIn g entry =>
    obtain rfl := Option.some.inj htf
    exact .inr ⟨entry, hnext⟩
  | marking g =>
    obtain rfl := Option.some.inj htf
    exact .inl hnext
  | reading g mark =>
    obtain rfl := Option.some.inj htf
    cases (flightAt_of_le hn).symm.trans (h.tasks i _ ht hk)
  | _ => cases htf

/-- A later flight ends when the source does not have the key. -/
theorem done_of_denial (h : Standing e₁ key text e)
    (hi : e.rest? i = some (.marking f) ∨ ∃ entry, e.rest? i = some (.comparingIn f entry))
    (hk : f.key = key) (hn : e₁.tasks.length ≤ i) :
    (e.play (.turn i (denial key))).rest? i = some (.done .nothing) := by
  rcases hi with hi | ⟨entry, hi⟩
  · exact rest?_turn_self hi _
  · have hnone : e₁.flightAt i ≠ some f := by simp [flightAt_of_le hn]
    have hfresh : entry.isFresh (.error (Source.absent key)) = true :=
      ((h.tasks i _ hi hk).resolve_left hnone).2.isFresh rfl
    rw [rest?_turn_self hi]
    simp only [denial, Errand.turn, hfresh, if_true]
    rfl

/-- A task that waits for a later flight returns once the source has told the flight that it does
not have the key. -/
theorem returns_of_joining (h : Standing e₁ key text e) {id : Nat}
    (hi : e.rest? i = some (.joining id false)) (hid : e₁.Serves key text e id) :
    e₁.Returns key text e i := by
  rcases hid.brings with ⟨j, f, hf, hk, rfl, hn, -⟩ | ⟨built, hl, ha⟩
  · obtain ⟨t, ht, htf⟩ := Option.bind_eq_some_iff.1 hf
    have hgo : (Beat.turn j .go).Upholds e₁ key e :=
      upholds_turn ht (.inl (Errand.mute_of_flight? htf)) fun _ => trivial
    have hasks := h.asks_of_go hf hk hn
    have hdenied : (Beat.turn j (denial key)).Upholds e₁ key (e.play (.turn j .go)) := by
      rcases hasks with hj | ⟨_, hj⟩ <;>
        exact upholds_turn hj (.inl trivial) fun _ => denies_denial key
    have h' := standing_play h hgo
    have hdone := h'.done_of_denial hasks hk hn
    have hserves := h'.serves_play hdenied (h.serves_play hgo hid)
    refine .cons hgo (.cons hdenied ?_)
    -- the flight has landed, and the task waits for it or has returned
    obtain ⟨-, l, hl⟩ : _ ∧ _ :=
      (aloft_or_landed h.reached.sound hf [.turn j .go, .turn j (denial key)]).resolve_left
        fun hflies => by cases (flightAt_of_rest? hdone).symm.trans hflies
    obtain ⟨built, hbuilt, ha⟩ := hserves.brings.resolve_left fun ⟨_, _, haloft, _, heq, _⟩ => by
      have hnone := (standing_play h' hdenied).reached.sound.aloft haloft
      cases (heq ▸ hnone).symm.trans hl
    refine returns_of_landed ?_ hbuilt ha
    rcases joining_plays h.reached.sound hi [.turn j .go, .turn j (denial key)] with
      hwaits | ⟨l', hl', hover⟩ | ⟨hmem, -⟩
    · exact .inl hwaits
    · obtain rfl := Option.some.inj (hl'.symm.trans hbuilt)
      exact .inr hover
    · simp at hmem
  · exact returns_of_landed (.inl hi) hl ha

theorem returns_of_comparing (h : Standing e₁ key text e) {entry : CacheEntry}
    (hi : e.rest? i = some (.comparing key entry)) (hn : e₁.tasks.length ≤ i) :
    e₁.Returns key text e i := by
  have habsent : (Source.absent key).isNotFound = true := rfl
  obtain ⟨hturn, ha⟩ := h.turn_comparing hi hn habsent
  have hdenied : (Beat.turn i (denial key)).Upholds e₁ key e :=
    upholds_turn hi (.inr rfl) fun _ => denies_denial key
  refine ⟨[.turn i (denial key)], ⟨hdenied, trivial⟩, entry.built, ?_, ha⟩
  rw [plays_cons, plays_nil, rest?_turn_self hi, denial, hturn]
  rfl

/-- **A load or a reload returns an artifact of the text once the source has been asked.** -/
theorem returns_of_loads (h : Standing e₁ key text e) {t : Errand} (hn : e₁.tasks.length ≤ i)
    (hi : e.rest? i = some t) (ht : e₁.Loads key text e t) : e₁.Returns key text e i := by
  cases t with
  | load k =>
    obtain rfl : k = key := ht
    have hgo : (Beat.turn i .go).Upholds e₁ k e := upholds_turn hi (.inr rfl) fun _ => trivial
    obtain ⟨entry, hturn⟩ := h.turn_load
    have hcomparing : (e.play (.turn i .go)).rest? i = some (.comparing k entry) := by
      rw [rest?_turn_self hi, hturn]
    exact .cons hgo ((standing_play h hgo).returns_of_comparing hcomparing hn)
  | reload k =>
    obtain rfl : k = key := ht
    have hgo : (Beat.turn i .go).Upholds e₁ k e := upholds_turn hi (.inr rfl) fun _ => trivial
    obtain ⟨id, hwaits, hserves⟩ := h.joins_of_reload hi hgo
    exact .cons hgo ((standing_play h hgo).returns_of_joining hwaits hserves)
  | comparing k entry =>
    obtain rfl : k = key := ht
    exact h.returns_of_comparing hi hn
  | joining id silent =>
    obtain ⟨rfl, hserves⟩ := ht
    exact h.returns_of_joining hi hserves
  | done r =>
    obtain ⟨built, rfl, ha⟩ := ht
    exact ⟨[], trivial, built, hi, ha⟩
  | _ => exact ht.elim

end Standing

/-- **A text that is given stands in for a source that does not have its key.** Take any run up to
a text that is given while the orchestra is not shut down. The text is built at once, and the
flights of its key that are under way are left to themselves, whatever happens from then on. Take
any run from there on that upholds the text. What is kept under the key is of the text, and no
flight of the key reads that was not under way before. A load or a reload of the key that is called
in that run waits for no such flight, and all that it returns is an artifact of the text, unless it
is let go; and wherever it stands, it can still return. -/
theorem given_text_stands {e₀ : Ensemble σ} (he : e₀.Reached) (hs : e₀.orchestra.shutDown = false)
    (key text : String) (bound : Bool) {beats : List (Beat σ)}
    (hb : Along (fun e b => b.Upholds (e₀.play (.loadText key text bound)) key e)
      (e₀.play (.loadText key text bound)) beats) :
    let e₁ := e₀.play (.loadText key text bound)
    let e := e₁.plays beats
    (e₀.orchestra.loadText key text bound).1 = .ok (e₀.orchestra.builtOf text) ∧
    (∀ i f, e₁.flightAt i = some f → f.key = key → e₁.Detached i f) ∧
    Upheld e₁.orchestra key text e.orchestra ∧
    (∀ i f mark, e.rest? i = some (.reading f mark) → f.key = key → e₁.flightAt i = some f) ∧
    ∀ before c after, beats = before ++ .call c :: after → c = .load key ∨ c = .reload key →
      let i := (e₁.plays before).tasks.length
      (∀ id silent, e.rest? i = some (.joining id silent) →
        ∀ j f, e₁.flightAt j = some f → f.id ≠ id) ∧
      (∀ r, e.rest? i = some (.done r) →
        (∃ b, r = .landed (.ok b) ∧ IsOfText e₁.orchestra.setup text b.artifact) ∨
          .letGo i ∈ after ∧ r = .nothing) ∧
      (.letGo i ∉ after → e₁.Returns key text e i) := by
  intro e₁ e
  have hstart : Standing e₁ key text e₁ := standing_loadText he hs
  have hend : Standing e₁ key text e := standing_plays hstart hb
  refine ⟨?_, fun i f hf hk => detached_of_standing hstart (flight_loadText hs) hf hk, hend.upheld,
    fun i f mark hi hk => hend.tasks i _ hi hk, ?_⟩
  · simp only [Orchestra.loadText, hs, Bool.false_eq_true, if_false, buildText_fst,
      builtOf_supersede]
  rintro before c after rfl hc i
  obtain ⟨hbefore, hcall, hafter⟩ := (along_append _ e₁ before _).1 hb
  have hmiddle := standing_plays hstart hbefore
  have hi : ((e₁.plays before).play (.call c)).rest? i = some c.errand := rest?_call ..
  have hloads : e₁.Loads key text ((e₁.plays before).play (.call c)) c.errand := by
    rcases hc with rfl | rfl <;> rfl
  obtain ⟨t, ht, hload⟩ :=
    (standing_play hmiddle hcall).loads_plays hafter hmiddle.fits hi hloads
  have hsplit : e = ((e₁.plays before).play (.call c)).plays after := plays_append ..
  rw [← hsplit] at ht hload
  refine ⟨fun id silent hid j f hf => ?_, fun r hr => ?_, fun hkept => ?_⟩
  · obtain rfl := Option.some.inj (ht.symm.trans hid)
    have hsince := (hload.resolve_right fun hgone => by cases hgone.2).2.since
    have hbelow := hstart.sound.below hf
    omega
  · obtain rfl := Option.some.inj (ht.symm.trans hr)
    exact hload.imp_right (And.imp_right Errand.done.inj)
  · exact hend.returns_of_loads hmiddle.fits ht (hload.resolve_right fun hgone => hkept hgone.1)

/-- A text is given while a flight of its key reads, and the flight comes home after that; a load
and a reload that are called since can return what the text has come to. -/
theorem given_text_stands_bare :
    let e₀ := bare.plays [.call (.load "k"), .turn 0 .go, .turn 1 .go,
      .turn 1 (.fingerprint (.ok ⟨"1"⟩))]
    let e₁ := e₀.play (.loadText "k" "name: a" true)
    let beats : List (Beat Bridge) := [.call (.load "k"), .call (.reload "k"), .turn 3 .go,
      .turn 1 (.text (.ok ""))]
    e₀.Reached ∧ e₀.orchestra.shutDown = false ∧ Along (fun e b => b.Upholds e₁ "k" e) e₁ beats ∧
      e₁.rest? 1 = some (.reading ⟨0, "k", false, 0⟩ ⟨"1"⟩) ∧
      Upheld e₁.orchestra "k" "name: a" (e₁.plays beats).orchestra ∧
      e₁.Returns "k" "name: a" (e₁.plays beats) 2 ∧
      e₁.Returns "k" "name: a" (e₁.plays beats) 3 := by
  intro e₀ e₁ beats
  have he : e₀.Reached := ⟨_, _, _, _, rfl⟩
  have hs : e₀.orchestra.shutDown = false := rfl
  have hreload : (e₁.plays [.call (.load "k"), .call (.reload "k")]).rest? 3 =
      some (.reload "k") := rfl
  have hreading : (e₁.plays [.call (.load "k"), .call (.reload "k"), .turn 3 .go]).rest? 1 =
      some (.reading ⟨0, "k", false, 0⟩ ⟨"1"⟩) := rfl
  have hb : Along (fun e b => b.Upholds e₁ "k" e) e₁ beats :=
    ⟨upholds_call _, upholds_call _, upholds_turn hreload (.inr rfl) fun _ => trivial,
      upholds_turn hreading (.inl trivial) fun hn => absurd hn (by decide), trivial⟩
  obtain ⟨-, -, hupheld, -, hcalled⟩ := given_text_stands he hs "k" "name: a" true hb
  obtain ⟨-, -, hload⟩ := hcalled [] _ _ rfl (.inl rfl)
  obtain ⟨-, -, hreload⟩ := hcalled [.call (.load "k")] _ _ rfl (.inr rfl)
  exact ⟨he, hs, hb, rfl, hupheld, hload (by simp), hreload (by simp)⟩

end Ensemble

end LivePanel.Orchestra
