import LivePanel.Proofs.Orchestra.Holding
import LivePanel.Proofs.Orchestra.Telling

/-!
# Builds that are kept, and builds that are not

A text is built whoever asks for it, but what comes of it is kept only while the orchestra is
not shut down and the generation of its key is the one that the build started under. The other
way to an artifact in the cache is the build of a kept template at the end of a run.

## What is proved

* `buildText_of_overtaken`: a build that was overtaken changes nothing but the log, the world
  and the number of the next artifact (`drafted`).
* `holding_buildText_of_current`, `tells_buildText_of_current`: any other one is kept, under its
  own key only, and told of by two events.
* `holding_rebuild`, `tells_rebuild`: a build of a kept template replaces the artifact of its key.
-/

namespace LivePanel.Orchestra

variable {σ : Type}

/-- The artifact that a text comes to as things stand. -/
def artifactOf (o : Orchestra σ) (text : String) : Build.Artifact :=
  (Build.text o.setup.options o.setup.registry text o.store.value o.scene.world).1

/-- What a text holds for an orchestra. -/
def outcomeOf (o : Orchestra σ) (text : String) : Template.Outcome :=
  Template.parse text o.setup.options.maxDepth

/-- The artifact that a text comes to, with its number. -/
def builtOf (o : Orchestra σ) (text : String) : Built := ⟨o.nextBuilt, o.artifactOf text⟩

theorem artifact_builtOf (o : Orchestra σ) (text : String) :
    (o.builtOf text).artifact = o.artifactOf text := by
  simp only [builtOf]

/-- The artifact that a kept template comes to, with its number. -/
def rebuiltOf (o : Orchestra σ) (t : Template) : Built :=
  ⟨o.nextBuilt, (Build.template o.setup.options o.setup.registry t o.store.value []
    o.scene.world).1⟩

/-- An artifact is one of a template, built against some state and world and with some problems of
its text. -/
def IsBuildOf (setup : Setup σ) (t : Template) (a : Build.Artifact) : Prop :=
  ∃ host problems world,
    a = (Build.template setup.options setup.registry t host problems world).1

/-- The artifact of a text that holds a template is one of that template. -/
theorem isBuildOf_artifactOf (o : Orchestra σ) {text : String} {t : Template}
    (h : (o.outcomeOf text).template = some t) : IsBuildOf o.setup t (o.artifactOf text) := by
  refine ⟨o.store.value, (o.outcomeOf text).problems, o.scene.world, ?_⟩
  unfold outcomeOf at h
  simp [artifactOf, Build.text, Build.outcome, h, outcomeOf]

theorem isBuildOf_rebuiltOf (o : Orchestra σ) (t : Template) :
    IsBuildOf o.setup t (o.rebuiltOf t).artifact := ⟨_, _, _, rfl⟩

/-- The world after a text was built. -/
def worldAfter (o : Orchestra σ) (text : String) : σ :=
  (Build.text o.setup.options o.setup.registry text o.store.value o.scene.world).2

/-- An orchestra after it has built a text and before anything is kept. -/
def drafted (o : Orchestra σ) (text : String) : Orchestra σ :=
  (o.number (o.artifactOf text) (o.worldAfter text)).2

/-- Keep an artifact, and the template of its text if it holds one. -/
def adopt (o : Orchestra σ) (key : String) (fingerprint : Fingerprint) (origin : Origin) (b : Built)
    (t : Option Template) (bound : Bool) : Orchestra σ :=
  match t with
  | some t => (o.keep key fingerprint origin b).register key ⟨t, fingerprint, origin⟩ bound
  | none => (o.keep key fingerprint origin b).unregister key

section

variable (o : Orchestra σ) (key text : String) (fingerprint : Fingerprint) (origin : Origin)
  (generation : Nat) (bound : Bool)

/-- A build, piece by piece. -/
theorem buildText_eq :
    o.buildText key text fingerprint origin generation bound =
      (o.builtOf text,
        if o.shutDown then o.drafted text
        else if o.generation key = generation then
          (((o.drafted text).adopt key fingerprint origin (o.builtOf text)
            (o.outcomeOf text).template bound).tell
              (loadedEvent key (o.outcomeOf text)).what).announce key (o.artifactOf text)
        else (o.drafted text).record .superseded key "newer build replaced it") := by
  simp only [builtOf, artifactOf, outcomeOf, worldAfter, drafted, Build.text, buildText,
    loadedEvent]
  generalize Template.parse text o.setup.options.maxDepth = parsed
  generalize Build.outcome o.setup.options o.setup.registry parsed o.store.value o.scene.world =
    made
  have hn : (o.number made.1 made.2).2.shutDown = o.shutDown := rfl
  have hg : (o.number made.1 made.2).2.generation key = o.generation key := rfl
  rw [hn, hg]
  by_cases hs : o.shutDown = true
  · rw [if_pos hs, if_pos hs]
    rfl
  · rw [if_neg hs, if_neg hs]
    by_cases hg : o.generation key = generation
    · rw [if_pos hg, if_neg (by simpa using hg)]
      unfold adopt
      cases parsed.template <;> rfl
    · rw [if_neg hg, if_pos (bne_iff_ne.2 hg)]
      rfl

/-- What a build gives does not depend on whether it is kept. -/
theorem buildText_fst :
    (o.buildText key text fingerprint origin generation bound).1 = o.builtOf text := by
  rw [buildText_eq]

@[simp] theorem holding_drafted : (o.drafted text).holding = o.holding :=
  o.holding_number _ _

@[simp] theorem ledger_drafted :
    (o.drafted text).ledger = { o.ledger with nextBuilt := o.nextBuilt + 1 } :=
  o.ledger_number _ _

@[simp] theorem ledger_adopt (b : Built) (t : Option Template) :
    (o.adopt key fingerprint origin b t bound).ledger = o.ledger := by
  unfold adopt
  cases t with
  | some t => rw [ledger_register, ledger_keep]
  | none => rfl

@[simp] theorem ledger_buildText :
    (o.buildText key text fingerprint origin generation bound).2.ledger =
      { o.ledger with nextBuilt := o.nextBuilt + 1 } := by
  rw [buildText_eq]
  dsimp only
  split
  · exact o.ledger_drafted text
  · split
    · simp only [ledger_announce, ledger_tell, ledger_adopt, ledger_drafted]
    · simp only [ledger_record, ledger_drafted]

variable {generation}

/-- **A build that was overtaken is not kept and not told of.** -/
theorem buildText_of_overtaken (h : o.shutDown = true ∨ o.generation key ≠ generation) :
    (o.buildText key text fingerprint origin generation bound).2 = o.drafted text ∨
      (o.buildText key text fingerprint origin generation bound).2 =
        (o.drafted text).record .superseded key "newer build replaced it" := by
  rw [buildText_eq]
  by_cases hs : o.shutDown = true
  · exact .inl (if_pos hs)
  · right
    rw [if_neg hs, if_neg (h.resolve_left hs)]

/-- The subscriptions that a template comes to have hang on those that there are already only. -/
theorem bind_fst_congr {o o' : Orchestra σ} (h : o.subscriptions = o'.subscriptions)
    (key : String) (events : List EventBinding) :
    (o.bind key events).1 = (o'.bind key events).1 := by
  induction events generalizing o o' with
  | nil => rfl
  | cons e rest ih =>
    rw [bind, bind, h]
    dsimp only
    congr 1
    exact ih rfl

theorem subscriptions_drafted : (o.drafted text).subscriptions = o.subscriptions := by
  simp only [drafted, number]

theorem bound_keep (b : Built) (t : Template) :
    (o.keep key fingerprint origin b).bound key t bound = o.bound key t bound :=
  bind_fst_congr (by simp only [keep]) key _

theorem bound_drafted (t : Template) :
    (o.drafted text).bound key t bound = o.bound key t bound :=
  bind_fst_congr (o.subscriptions_drafted text) key _

theorem holding_adopt (b : Built) (t : Option Template) (k : String) :
    (o.adopt key fingerprint origin b t bound).holding k =
      if key = k then
        { o.holding k with
          entry := some ⟨fingerprint, b, origin⟩
          record := t.map (⟨·, fingerprint, origin⟩)
          bindings := t.map fun t => o.bound key t bound }
      else o.holding k := by
  unfold adopt
  cases t with
  | some t =>
    simp only [holding_register, holding_keep, bound_keep, Option.map_some]
    split <;> rfl
  | none =>
    simp only [holding_unregister, holding_keep, Option.map_none]
    split <;> rfl

/-- **A build that nothing has overtaken is kept, under its own key only.** -/
theorem holding_buildText_of_current (hs : o.shutDown = false)
    (hg : o.generation key = generation) (k : String) :
    (o.buildText key text fingerprint origin generation bound).2.holding k =
      if key = k then
        { o.holding k with
          entry := some ⟨fingerprint, o.builtOf text, origin⟩
          record := (o.outcomeOf text).template.map (⟨·, fingerprint, origin⟩)
          bindings := (o.outcomeOf text).template.map fun t => o.bound key t bound }
      else o.holding k := by
  rw [buildText_eq]
  simp only [hs, hg, Bool.false_eq_true, if_false, if_true, holding_announce, holding_tell,
    holding_adopt, holding_drafted, bound_drafted]

/-- A build that nothing has overtaken is what is in the cache. -/
theorem entry_buildText_of_current (hs : o.shutDown = false)
    (hg : o.generation key = generation) :
    (o.buildText key text fingerprint origin generation bound).2.cache.get? key =
      some ⟨fingerprint, o.builtOf text, origin⟩ := by
  rw [← entry_holding, holding_buildText_of_current o key text fingerprint origin bound hs hg,
    if_pos rfl]

/-- The template of a build that nothing has overtaken is the one that is kept. -/
theorem record_buildText_of_current (hs : o.shutDown = false)
    (hg : o.generation key = generation) :
    (o.buildText key text fingerprint origin generation bound).2.loaded.get? key =
      (o.outcomeOf text).template.map (⟨·, fingerprint, origin⟩) := by
  rw [← record_holding, holding_buildText_of_current o key text fingerprint origin bound hs hg,
    if_pos rfl]

/-- Binding events tells nothing. -/
theorem scene_bind (events : List EventBinding) : (o.bind key events).2.scene = o.scene := by
  induction events generalizing o with
  | nil => rfl
  | cons e rest ih =>
    rw [bind]
    exact ih _

theorem scene_adopt (b : Built) (t : Option Template) :
    (o.adopt key fingerprint origin b t bound).scene = o.scene := by
  unfold adopt
  cases t with
  | some t => exact scene_bind _ key _
  | none => rfl

theorem bus_drafted : (o.drafted text).scene.bus = o.scene.bus := by
  simp only [drafted, number]

/-- **A build that nothing has overtaken is told of by two events.** -/
theorem tells_buildText_of_current (hs : o.shutDown = false)
    (hg : o.generation key = generation) :
    o.scene.Tells [loadedEvent key (o.outcomeOf text), builtEvent key (o.artifactOf text)]
      (o.buildText key text fingerprint origin generation bound).2.scene := by
  rw [buildText_eq]
  simp only [hs, hg, Bool.false_eq_true, if_false, if_true]
  have h : o.scene.Tells [] ((o.drafted text).adopt key fingerprint origin (o.builtOf text)
      (o.outcomeOf text).template bound).scene := by
    rw [Scene.tells_nil_iff, scene_adopt, bus_drafted]
  exact (h.trans (tells_tell _ _)).trans (tells_announce _ key _)

end

section

variable (o : Orchestra σ) (key : String) (l : Loaded)

theorem holding_rebuild (k : String) :
    (o.rebuild key l).holding k =
      if key = k then
        { o.holding k with entry := some ⟨l.fingerprint, o.rebuiltOf l.template, l.origin⟩ }
      else o.holding k := by
  unfold rebuild
  dsimp only
  rw [holding_announce, holding_keep]
  rfl

@[simp] theorem ledger_rebuild :
    (o.rebuild key l).ledger = { o.ledger with nextBuilt := o.nextBuilt + 1 } := by
  unfold rebuild
  dsimp only
  rw [ledger_announce, ledger_keep, ledger_number]

theorem tells_rebuild :
    o.scene.Tells [builtEvent key (o.rebuiltOf l.template).artifact] (o.rebuild key l).scene := by
  have h : o.scene.Tells [] ((o.number (o.rebuiltOf l.template).artifact
      (Build.template o.setup.options o.setup.registry l.template o.store.value []
        o.scene.world).2).2.keep key l.fingerprint l.origin (o.rebuiltOf l.template)).scene :=
    Scene.tells_nil_iff.2 rfl
  exact h.trans (tells_announce _ key _)

end

theorem ledger_loadText (o : Orchestra σ) (key text : String) (bound : Bool) :
    ∃ n, (o.loadText key text bound).2.ledger = { o.ledger with nextBuilt := o.nextBuilt + n } := by
  unfold loadText
  split
  · exact ⟨0, rfl⟩
  · exact ⟨1, ledger_buildText ..⟩

end LivePanel.Orchestra
