import LivePanel.Proofs.Orchestra.Ensemble

/-!
# Errands of other keys

Errands meet only where they touch the same key. One that does not touch a key leaves alone what
is held under it, tells nothing of it, and neither turns into an errand that touches it nor
launches one; only the shutdown touches all keys.

## What is proved

* `Course.elsewhere`: this frame, for every turn.
-/

namespace LivePanel.Orchestra

variable {σ : Type}

/-- What is held under a key is as before, and nothing was told of the key. -/
structure Elsewhere (key : String) (o o' : Orchestra σ) : Prop where
  holding : o'.holding key = o.holding key
  setup : o'.setup = o.setup
  shutDown : o'.shutDown = o.shutDown
  tells : ∃ es, o.scene.Tells es o'.scene ∧ ∀ e ∈ es, e.what.key? ≠ some key

namespace Elsewhere

variable {key : String} {o o' o'' : Orchestra σ}

theorem refl : Elsewhere key o o := ⟨rfl, rfl, rfl, [], .still, by simp⟩

theorem trans (h : Elsewhere key o o') (h' : Elsewhere key o' o'') : Elsewhere key o o'' := by
  obtain ⟨es, hes, hk⟩ := h.tells
  obtain ⟨es', hes', hk'⟩ := h'.tells
  refine ⟨h'.holding.trans h.holding, h'.setup.trans h.setup, h'.shutDown.trans h.shutDown,
    es ++ es', hes.trans hes', ?_⟩
  intro e he
  rcases List.mem_append.1 he with he | he
  · exact hk e he
  · exact hk' e he

/-- Where the bus is as before, it is enough to look at the two views. -/
theorem of_bus {n : Nat} (hh : o'.holding key = o.holding key)
    (hl : o'.ledger = { o.ledger with nextBuilt := o.nextBuilt + n })
    (hb : o'.scene.bus = o.scene.bus) : Elsewhere key o o' :=
  ⟨hh, congrArg Ledger.setup hl, congrArg Ledger.shutDown hl, [], Scene.tells_nil_iff.2 hb,
    by simp⟩

theorem of_quiet {about : Option String} (h : Quiet about o o') (ha : about ≠ some key) :
    Elsewhere key o o' := by
  obtain ⟨es, hes, hk⟩ := h.tells
  exact ⟨congrFun h.holding key, congrArg Ledger.setup h.ledger,
    congrArg Ledger.shutDown h.ledger, es, hes, fun e he => hk e he ▸ ha⟩

section

variable (o : Orchestra σ) {k : String}

theorem record (kind : ActivityKind) (k : Option String) (detail : String) :
    Elsewhere key o (o.record kind k detail) := of_bus (n := 0) rfl rfl rfl

theorem embark (h : k ≠ key) : Elsewhere key o (o.embark k) :=
  ⟨by rw [holding_embark, if_neg h], rfl, rfl, [], .still, by simp⟩

theorem land {f : Flight} (h : f.key ≠ key) (l : Landing) :
    Elsewhere key o (o.land f l).orchestra :=
  ⟨by rw [holding_land, if_neg fun hf => h hf.1], rfl, rfl, [], .still, by simp⟩

theorem sourceFailed (k : String) (cause : SourceError) :
    Elsewhere key o (o.sourceFailed k cause).2 :=
  of_bus (n := 0) (by rw [holding_sourceFailed]) (ledger_sourceFailed ..)
    (by rw [scene_sourceFailed])

theorem supersede (h : k ≠ key) : Elsewhere key o (o.supersede k) :=
  of_bus (n := 0) (by rw [holding_supersede, if_neg h]) rfl rfl

theorem invalidate (h : k ≠ key) : Elsewhere key o (o.invalidate k).2 := by
  refine of_bus (n := 0) (by rw [holding_invalidate, if_neg h]) (ledger_invalidate ..) ?_
  unfold Orchestra.invalidate
  dsimp only
  split <;> rfl

theorem evict (h : k ≠ key) : Elsewhere key o (o.evict k) := by
  refine of_bus (n := 0) (by rw [holding_evict, if_neg h]) (ledger_evict ..) ?_
  unfold Orchestra.evict
  dsimp only
  split <;> rfl

theorem buildText {text : String} {mark : Fingerprint} {origin : Origin} {generation : Nat}
    {bound : Bool} (h : k ≠ key) :
    Elsewhere key o (o.buildText k text mark origin generation bound).2 := by
  have hl := o.ledger_buildText k text mark origin generation bound
  by_cases ho : o.shutDown = true ∨ o.generation k ≠ generation
  · have hd : Elsewhere key o (o.drafted text) :=
      of_bus (by rw [holding_drafted]) (ledger_drafted ..) (bus_drafted ..)
    rcases o.buildText_of_overtaken k text mark origin bound ho with ho | ho
    · rw [ho]
      exact hd
    · rw [ho]
      exact hd.trans (.record ..)
  · obtain ⟨hs, hg⟩ := not_or.1 ho
    have hs := Bool.eq_false_iff.2 hs
    have hg := Decidable.not_not.1 hg
    refine ⟨?_, congrArg Ledger.setup hl, congrArg Ledger.shutDown hl, _,
      tells_buildText_of_current o k text mark origin bound hs hg, ?_⟩
    · rw [holding_buildText_of_current o k text mark origin bound hs hg, if_neg h]
    · simp [key?_loadedEvent, key?_builtEvent, h]

theorem loadText {text : String} {bound : Bool} (h : k ≠ key) :
    Elsewhere key o (o.loadText k text bound).2 := by
  unfold Orchestra.loadText
  split
  · exact refl
  · exact (supersede o h).trans (buildText _ h)

theorem rebuild (l : Loaded) (h : k ≠ key) : Elsewhere key o (o.rebuild k l) := by
  have hl := o.ledger_rebuild k l
  refine ⟨by rw [holding_rebuild, if_neg h], congrArg Ledger.setup hl,
    congrArg Ledger.shutDown hl, _, tells_rebuild o k l, ?_⟩
  simp [key?_builtEvent, h]

end

end Elsewhere

/-! ### Errands that do not touch a key -/

section

variable {keyOf? : String → Option String} {key k : String} {t : Errand}

theorem Errand.Wants.touches_iff (h : t.Wants k) : t.Touches keyOf? key ↔ k = key := by
  cases t <;> first | exact h.elim | exact h ▸ Iff.rfl

theorem touches_iff_of_run? {o : Orchestra σ} {l : Loaded} (h : t.run? o = some (k, l)) :
    t.Touches keyOf? key ↔ k = key := by
  cases t with
  | dispatch =>
    obtain ⟨_, -, heq⟩ := Option.map_eq_some_iff.1 h
    obtain ⟨rfl, -⟩ := Prod.mk.inj heq
    rfl
  | running d =>
    obtain ⟨rfl, -⟩ := Prod.mk.inj (Option.some.inj h)
    rfl
  | _ => cases h

theorem touches_iff_of_flight? {f : Flight} (h : t.flight? = some f) :
    t.Touches keyOf? key ↔ f.key = key := by
  cases t <;> cases h <;> exact Iff.rfl

theorem Errand.Rests.not_touches (h : t.Rests) : ¬ t.Touches keyOf? key := by
  cases t <;> first | exact id | exact h.elim

theorem touches_iff_of_changed {n : Watch.Notice} {path : String}
    (hn : n = .added path ∨ n = .changed path) :
    (Errand.notice n).Touches keyOf? key ↔ keyOf? path = some key := by
  rcases hn with rfl | rfl <;> exact Iff.rfl

end

/-- What an errand becomes and what it launches touches a key only if it does so itself. -/
structure StaysAway (keyOf? : String → Option String) (key : String) (turn : Turn σ) : Prop where
  errand : ¬ turn.errand.Touches keyOf? key
  launched : ∀ t ∈ turn.launched, ¬ t.Touches keyOf? key

/-- **An errand that does not touch a key leaves it alone, and goes on to do so.** -/
theorem Course.elsewhere [Hosted σ] {o : Orchestra σ} {t : Errand} {s : Signal} {turn : Turn σ}
    {key : String} (h : Course o t s turn) (ht : ¬ t.Touches o.setup.keyOf? key) :
    Elsewhere key o turn.orchestra ∧ StaysAway o.setup.keyOf? key turn := by
  cases h with
  | unmoved => exact ⟨.refl, ht, by simp⟩
  | returns => exact ⟨.refl, id, by simp [Turn.over]⟩
  | compares | setsOut | comparesIn | turnsBack | marks => exact ⟨.refl, ht, by simp⟩
  | serves => exact ⟨.record .., id, by simp [Turn.over]⟩
  | joins => exact ⟨.refl, id, by simp⟩
  | embarks hw =>
    have hk := mt hw.touches_iff.2 ht
    exact ⟨.embark o hk, id, by simpa [Errand.Touches, nextOf] using hk⟩
  | servesIn =>
    exact ⟨(Elsewhere.record ..).trans (.land _ ht _), id, by simp [land, Turn.over]⟩
  | fails hf =>
    have hk := mt (touches_iff_of_flight? hf).2 ht
    exact ⟨(Elsewhere.sourceFailed ..).trans (.land _ hk _), id, by simp [land, Turn.over]⟩
  | builds =>
    exact ⟨(Elsewhere.buildText o ht).trans (.land _ ht _), id, by simp [land, Turn.over]⟩
  | crashes => exact ⟨⟨rfl, rfl, rfl, [], .still, by simp⟩, id, by simp [crash, Turn.over]⟩
  | @drops _ _ k _ hn hk hq =>
    have hne : k ≠ key := fun h => ht ((touches_iff_of_changed hn).2 (h ▸ hk))
    exact ⟨(Elsewhere.of_quiet hq (by simp)).trans (.invalidate _ hne), id, by simp [Turn.over]⟩
  | @renews _ _ k _ hn hk hq =>
    have hne : k ≠ key := fun h => ht ((touches_iff_of_changed hn).2 (h ▸ hk))
    exact ⟨((Elsewhere.of_quiet hq (by simp)).trans (.invalidate _ hne)).trans (.embark _ hne), id,
      by simpa [Errand.Touches, nextOf] using hne⟩
  | @evicts path k hk =>
    have hne : k ≠ key := fun h => ht (h ▸ hk)
    have hq : Quiet none (o.evict k) ((o.evict k).tell (.fileRemoved path)) := .tell rfl
    exact ⟨(Elsewhere.evict _ hne).trans (.of_quiet hq (by simp)), id, by simp [Turn.over]⟩
  | notes _ hr hq => exact ⟨.of_quiet hq (by simp), hr.not_touches, by simp⟩
  | plays hr hd hq =>
    have hk := mt (touches_iff_of_run? hr).2 ht
    exact ⟨.of_quiet hq (by simpa using hk), by simpa [Errand.Touches, hd.1] using hk, by simp⟩
  | finishes hr hq =>
    have hk := mt (touches_iff_of_run? hr).2 ht
    exact ⟨.of_quiet hq (by simpa using hk), id, by simp [Turn.over]⟩
  | rebuilds hr _ hq =>
    have hk := mt (touches_iff_of_run? hr).2 ht
    exact ⟨(Elsewhere.of_quiet hq (by simpa using hk)).trans (.rebuild _ _ hk), id,
      by simp [Turn.over]⟩
  | shutsDown | closes => exact absurd trivial ht

/-- Letting go of an errand that does not touch a key leaves the key alone. -/
theorem elsewhere_letGo {o : Orchestra σ} {t : Errand} {key : String}
    (ht : ¬ t.Touches o.setup.keyOf? key) : Elsewhere key o (t.letGo o) := by
  unfold Errand.letGo
  split
  · rename_i d
    cases hc : d.performance.letGo.closing? with
    | none => exact .refl
    | some e =>
      have hne : d.performance.key ≠ key := ht
      have hk : e.what.key? = some d.performance.letGo.key := key?_closing hc
      exact .of_quiet (.emit hk) (by simpa [Performance.letGo] using hne)
  · exact .refl

end LivePanel.Orchestra
