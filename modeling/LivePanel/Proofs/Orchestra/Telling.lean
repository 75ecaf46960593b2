import LivePanel.Orchestra.Errand

/-!
# What an orchestra tells

Listeners of a bus may emit events themselves, so the events that were published do not show
which of them an orchestra has emitted. `Scene.Tells s es s'` says that the bus came from `s` to
`s'` by emissions of `es` in order and by nothing else; the world may change in between, as it
does when blocks are drawn and runs talk to the host.

## What is proved

* `Scene.tells_nil_iff`: nothing is told where the bus stays as it is.
* `Scene.Tells.published_eq`: where nobody listens, what is published is what is told, so the
  relation does not leave open what was emitted.
-/

namespace LivePanel

variable {σ : Type}

namespace Scene

/-- The bus comes from one scene to the other by emissions of the given events, in order. -/
inductive Tells : Scene σ → List Event → Scene σ → Prop where
  /-- Nothing has happened. -/
  | still {s : Scene σ} : Tells s [] s
  /-- The world changes. -/
  | turned {s s' : Scene σ} {es : List Event} (w : σ) :
      Tells s es s' → Tells s es { s' with world := w }
  /-- One more event is emitted. -/
  | emitted {s s' : Scene σ} {es : List Event} (e : Event) :
      Tells s es s' → Tells s (es ++ [e]) (s'.emit e).2

theorem Tells.trans {s₁ s₂ s₃ : Scene σ} {es es' : List Event} (h : Tells s₁ es s₂)
    (h' : Tells s₂ es' s₃) : Tells s₁ (es ++ es') s₃ := by
  induction h' with
  | still => rwa [List.append_nil]
  | turned w _ ih => exact .turned w ih
  | emitted e _ ih =>
    rw [← List.append_assoc]
    exact .emitted e ih

/-- Nothing is told where the bus stays as it is. -/
theorem tells_nil_iff {s s' : Scene σ} : Tells s [] s' ↔ s'.bus = s.bus := by
  constructor
  · intro h
    generalize hes : ([] : List Event) = es at h
    induction h with
    | still => rfl
    | turned w _ ih => exact ih hes
    | emitted e _ _ => simp at hes
  · intro h
    obtain ⟨bus, world⟩ := s
    obtain ⟨bus', world'⟩ := s'
    obtain rfl : bus' = bus := h
    exact .turned world' .still

/-- An emission that nobody hears only publishes its event. -/
theorem emit_of_unheard {s : Scene σ} (hl : s.bus.listeners = [])
    (hr : s.bus.active < s.bus.maxDepth) (e : Event) : (s.emit e).2.bus = s.bus.publish e := by
  obtain ⟨room, hroom⟩ : ∃ room, s.bus.maxDepth - s.bus.active = room + 1 :=
    ⟨s.bus.maxDepth - s.bus.active - 1, by omega⟩
  simp [emit, hroom, emitWithin, Bus.hearing, hl, deliver, mapBus, Bus.publish]

/-- **Where nobody listens, what is published is what is told.** -/
theorem Tells.published_eq {s s' : Scene σ} {es : List Event} (h : Tells s es s')
    (hl : s.bus.listeners = []) (hr : s.bus.active < s.bus.maxDepth) :
    s'.bus.published = s.bus.published ++ es := by
  suffices s'.bus = { s.bus with published := s.bus.published ++ es } by rw [this]
  induction h with
  | still => simp
  | turned w _ ih => exact ih
  | emitted e _ ih =>
    rw [emit_of_unheard (by rw [ih]; exact hl) (by rw [ih]; exact hr), ih]
    simp [Bus.publish]

end Scene

namespace Orchestra

/-- The event of a text that was built and kept. -/
def loadedEvent (key : String) (parsed : Template.Outcome) : Event :=
  ⟨.templateLoaded key (parsed.template.map (·.name)), none⟩

/-- The event that tells how a build came out. -/
def builtEvent (key : String) (a : Build.Artifact) : Event := ⟨announcement key a, none⟩

@[simp] theorem key?_loadedEvent (key : String) (parsed : Template.Outcome) :
    (loadedEvent key parsed).what.key? = some key := rfl

@[simp] theorem key?_builtEvent (key : String) (a : Build.Artifact) :
    (builtEvent key a).what.key? = some key := by
  unfold builtEvent announcement
  dsimp only
  split <;> rfl

theorem tells_tell (o : Orchestra σ) (what : Happening) :
    o.scene.Tells [⟨what, none⟩] (o.tell what).scene := .emitted _ .still

theorem tells_announce (o : Orchestra σ) (key : String) (a : Build.Artifact) :
    o.scene.Tells [builtEvent key a] (o.announce key a).scene := by
  unfold announce
  split <;> exact .emitted _ .still

/-- The event that tells how a build came out is named for its errors. -/
theorem builtEvent_name (key : String) (a : Build.Artifact) :
    (builtEvent key a).what.name =
      if a.errors = [] then "template:built" else "template:error" := by
  unfold builtEvent announcement Build.Artifact.isOk
  cases a.errors <;> rfl

end Orchestra

end LivePanel
