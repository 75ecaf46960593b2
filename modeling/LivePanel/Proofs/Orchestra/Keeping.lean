import LivePanel.Proofs.Orchestra.Ensemble

/-!
# What a beat does to what is kept

An artifact comes into the cache in three ways only: a flight brings it home, a text is given,
or a run has ended and its template was built again. The first two keep the template of the
artifact with it; the third leaves the template that is kept as it is. Any other beat leaves
the artifact of a key where it is, or drops it.

## What is proved

* `Ensemble.keeps`: every beat does one of these.
-/

namespace LivePanel.Orchestra

variable {σ : Type}

/-! ### Keeping less -/

/-- The artifact and the template of a key are as before, or the artifact is dropped, with the
template or without it. -/
inductive Lessens (key : String) (o o' : Orchestra σ) : Prop where
  | same (he : o'.cache.get? key = o.cache.get? key) (hl : o'.loaded.get? key = o.loaded.get? key)
  | dropped (he : o'.cache.get? key = none)
      (hl : o'.loaded.get? key = o.loaded.get? key ∨ o'.loaded.get? key = none)

namespace Lessens

variable {key : String} {o o' o'' : Orchestra σ}

theorem refl : Lessens key o o := .same rfl rfl

theorem of_holding (h : o'.holding = o.holding) : Lessens key o o' :=
  .same (congrArg Holding.entry (congrFun h key)) (congrArg Holding.record (congrFun h key))

theorem trans (h : Lessens key o o') (h' : Lessens key o' o'') : Lessens key o o'' := by
  cases h' with
  | same he' hl' =>
    cases h with
    | same he hl => exact .same (he'.trans he) (hl'.trans hl)
    | dropped he hl => exact .dropped (he'.trans he) (hl'.symm ▸ hl)
  | dropped he' hl' =>
    cases h with
    | same he hl => exact .dropped he' (hl ▸ hl')
    | dropped he hl =>
      refine .dropped he' ?_
      rcases hl' with hl' | hl'
      · exact hl'.symm ▸ hl
      · exact .inr hl'

theorem embark (o : Orchestra σ) (k : String) : Lessens key o (o.embark k) := .same rfl rfl

theorem land (o : Orchestra σ) (f : Flight) (l : Landing) :
    Lessens key o (o.land f l).orchestra := .same rfl rfl

theorem supersede (o : Orchestra σ) (k : String) : Lessens key o (o.supersede k) := .same rfl rfl

theorem invalidate (o : Orchestra σ) (k : String) : Lessens key o (o.invalidate k).2 := by
  have h := o.holding_invalidate k key
  split at h
  · exact .dropped (congrArg Holding.entry h) (.inl (congrArg Holding.record h))
  · exact .same (congrArg Holding.entry h) (congrArg Holding.record h)

theorem evict (o : Orchestra σ) (k : String) : Lessens key o (o.evict k) := by
  have h := o.holding_evict k key
  split at h
  · exact .dropped (congrArg Holding.entry h) (.inr (congrArg Holding.record h))
  · exact .same (congrArg Holding.entry h) (congrArg Holding.record h)

theorem clearCache (o : Orchestra σ) : Lessens key o o.clearCache.2 := .dropped rfl (.inl rfl)

theorem close (o : Orchestra σ) : Lessens key o o.close := .dropped rfl (.inr rfl)

/-- A build that was overtaken, or is of another key, keeps nothing under a key. -/
theorem buildText (o : Orchestra σ) {k text : String} {mark : Fingerprint} {origin : Origin}
    {generation : Nat} {bound : Bool}
    (h : k ≠ key ∨ o.shutDown = true ∨ o.generation k ≠ generation) :
    Lessens key o (o.buildText k text mark origin generation bound).2 := by
  by_cases ho : o.shutDown = true ∨ o.generation k ≠ generation
  · rcases o.buildText_of_overtaken k text mark origin bound ho with ho | ho <;>
      exact of_holding (by rw [ho]; simp)
  · obtain ⟨hs, hg⟩ := not_or.1 ho
    have hh := holding_buildText_of_current o k text mark origin bound (Bool.eq_false_iff.2 hs)
      (Decidable.not_not.1 hg) key
    rw [if_neg (h.resolve_right ho)] at hh
    exact .same (congrArg Holding.entry hh) (congrArg Holding.record hh)

/-- A template of another key that is built again is not kept under a key. -/
theorem rebuild (o : Orchestra σ) {k : String} (l : Loaded) (h : k ≠ key) :
    Lessens key o (o.rebuild k l) := by
  have hh := o.holding_rebuild k l key
  rw [if_neg h] at hh
  exact .same (congrArg Holding.entry hh) (congrArg Holding.record hh)

end Lessens

/-! ### Keeping something new -/

theorem builtOf_supersede (o : Orchestra σ) (key text : String) :
    (o.supersede key).builtOf text = o.builtOf text := by
  simp only [builtOf, artifactOf, supersede]

theorem outcomeOf_supersede (o : Orchestra σ) (key text : String) :
    (o.supersede key).outcomeOf text = o.outcomeOf text := by
  simp only [outcomeOf, supersede]

/-- The artifact of a text, and its template if it holds one, have come to be kept under a key. -/
structure Stored (key text : String) (mark : Fingerprint) (origin : Origin) (o o' : Orchestra σ) :
    Prop where
  entry : o'.cache.get? key = some ⟨mark, o.builtOf text, origin⟩
  record : o'.loaded.get? key = (o.outcomeOf text).template.map (⟨·, mark, origin⟩)

theorem stored_buildText (o : Orchestra σ) (key text : String) (mark : Fingerprint)
    (origin : Origin) {generation : Nat} (bound : Bool) (hs : o.shutDown = false)
    (hg : o.generation key = generation) :
    Stored key text mark origin o (o.buildText key text mark origin generation bound).2 :=
  ⟨entry_buildText_of_current _ _ _ _ _ _ hs hg, record_buildText_of_current _ _ _ _ _ _ hs hg⟩

theorem stored_loadText (o : Orchestra σ) (key text : String) (bound : Bool)
    (hs : o.shutDown = false) :
    Stored key text (.ofText text) .text o (o.loadText key text bound).2 := by
  have h := stored_buildText (o.supersede key) key text (.ofText text) .text bound hs rfl
  rw [show (o.loadText key text bound).2 = ((o.supersede key).buildText key text (.ofText text)
    .text ((o.supersede key).generation key) bound).2 by
      simp only [loadText, hs, Bool.false_eq_true, if_false]]
  exact ⟨builtOf_supersede o key text ▸ h.entry, outcomeOf_supersede o key text ▸ h.record⟩

namespace Ensemble

/-- What a beat does to what is kept under a key. -/
inductive Keeps [Hosted σ] (e : Ensemble σ) (key : String) (b : Beat σ) : Prop where
  /-- Nothing new is kept. -/
  | lessens (h : Lessens key e.orchestra (e.play b).orchestra)
  /-- A flight of the current generation has brought an artifact home. -/
  | built {i : Nat} {f : Flight} {mark : Fingerprint} {text : String}
      (hi : e.rest? i = some (.reading f mark)) (hb : b = .turn i (.text (.ok text)))
      (hk : f.key = key) (hs : e.orchestra.shutDown = false)
      (hg : e.orchestra.generation key = f.generation)
      (h : Stored key text mark .source e.orchestra (e.play b).orchestra)
  /-- A text was given. -/
  | given {text : String} {bound : Bool} (hb : b = .loadText key text bound)
      (h : Stored key text (.ofText text) .text e.orchestra (e.play b).orchestra)
  /-- A run has ended, and its template was built again. -/
  | rebuilt {i : Nat} {s : Signal} {t : Errand} {l : Loaded} {a : Built}
      (hi : e.rest? i = some t) (hb : b = .turn i s) (ht : t.run? e.orchestra = some (key, l))
      (he : (e.play b).orchestra.cache.get? key = some ⟨l.fingerprint, a, l.origin⟩)
      (ha : IsBuildOf e.orchestra.setup l.template a.artifact)
      (hl : (e.play b).orchestra.loaded.get? key = e.orchestra.loaded.get? key)

variable [Hosted σ]

theorem keeps_turn {e : Ensemble σ} {i : Nat} {t : Errand} (hi : e.rest? i = some t) (s : Signal)
    (key : String) : Keeps e key (.turn i s) := by
  have ho := orchestra_turn hi s
  have hc := course e.orchestra t s
  generalize t.turn s e.orchestra = turn at ho hc
  cases hc with
  | unmoved | returns | compares | serves | joins | setsOut | comparesIn | turnsBack | marks =>
    exact .lessens (ho ▸ .same rfl rfl)
  | embarks => exact .lessens (ho ▸ .embark ..)
  | servesIn => exact .lessens (ho ▸ (Lessens.of_holding (holding_serve ..)).trans (.land ..))
  | fails =>
    exact .lessens (ho ▸ (Lessens.of_holding (holding_sourceFailed ..)).trans (.land ..))
  | @builds f mark text =>
    by_cases h : f.key ≠ key ∨ e.orchestra.shutDown = true ∨
        e.orchestra.generation f.key ≠ f.generation
    · exact .lessens (ho ▸ (Lessens.buildText _ h).trans (.land ..))
    · obtain ⟨hk, h⟩ := not_or.1 h
      obtain ⟨hs, hg⟩ := not_or.1 h
      obtain rfl := Decidable.not_not.1 hk
      have hs := Bool.eq_false_iff.2 hs
      have hg := Decidable.not_not.1 hg
      have hst := stored_buildText e.orchestra f.key text mark .source true hs hg
      exact .built hi rfl rfl hs hg (ho ▸ ⟨hst.entry, hst.record⟩)
  | crashes => exact .lessens (ho ▸ .same rfl rfl)
  | drops _ _ hq =>
    exact .lessens (ho ▸ (Lessens.of_holding hq.holding).trans (.invalidate ..))
  | renews _ _ hq =>
    exact .lessens (ho ▸ ((Lessens.of_holding hq.holding).trans (.invalidate ..)).trans
      (.embark ..))
  | evicts => exact .lessens (ho ▸ (Lessens.evict ..).trans (.of_holding (holding_tell ..)))
  | notes _ _ hq | plays _ _ hq | finishes _ hq => exact .lessens (ho ▸ .of_holding hq.holding)
  | @rebuilds _ _ k l _ o' ht _ hq =>
    have hq' : Lessens key e.orchestra o' := .of_holding hq.holding
    by_cases hk : k = key
    · subst hk
      have hh := o'.holding_rebuild k l k
      rw [if_pos rfl, hq.holding] at hh
      have hset : o'.setup = e.orchestra.setup := congrArg Ledger.setup hq.ledger
      exact .rebuilt hi rfl ht (ho ▸ congrArg Holding.entry hh)
        (hset ▸ isBuildOf_rebuiltOf o' l.template) (ho ▸ congrArg Holding.record hh)
    · exact .lessens (ho ▸ hq'.trans (.rebuild o' l hk))
  | shutsDown => exact .lessens (ho ▸ .same rfl rfl)
  | closes => exact .lessens (ho ▸ .close ..)

/-- **An artifact is kept that a flight has brought home, that a text has come to, or that a run has
ended with; nothing else puts one into the cache.** -/
theorem keeps (e : Ensemble σ) (key : String) (b : Beat σ) : Keeps e key b := by
  cases b with
  | call | fire | cancel | outside => exact .lessens (.same rfl rfl)
  | turn i s =>
    cases h : e.rest? i with
    | none =>
      refine .lessens ?_
      rw [play_turn_of_none h]
      exact .refl
    | some t => exact keeps_turn h s key
  | letGo i =>
    refine .lessens ?_
    simp only [play]
    split
    · exact .refl
    · split
      · exact .refl
      · exact .of_holding (holding_letGo ..)
  | loadText k text bound =>
    cases hs : e.orchestra.shutDown with
    | true =>
      refine .lessens ?_
      simp only [play, loadText, hs, if_true]
      exact .refl
    | false =>
      by_cases hk : k = key
      · subst hk
        exact .given rfl (stored_loadText e.orchestra k text bound hs)
      · refine .lessens ?_
        simp only [play, loadText, hs, Bool.false_eq_true, if_false]
        exact (Lessens.supersede e.orchestra k).trans (.buildText _ (.inl hk))
  | invalidate k => exact .lessens (.invalidate ..)
  | clearCache => exact .lessens (.clearCache ..)

end Ensemble

end LivePanel.Orchestra
