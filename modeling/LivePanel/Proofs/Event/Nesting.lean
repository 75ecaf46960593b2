import LivePanel.Event.Bus
import Mathlib.Logic.Relation

/-!
# How deep emissions nest

`Scene.emit` goes down along the room that is left for emissions inside one another, so there is
nothing in it that could fail to end. Here the same bus is told without that: `Moment` is where a
thread stands that emits, with the emissions under way and the listeners that wait for those they
have started, and `Moves` is the next thing that it does. An emission is attempted and looks at the
counter of those under way, listeners are called, work and leave, events are published. Nothing
bounds how often this may go on but the counter, and listeners may start each other in cycles.

## What is proved

* `comes_to_answer`: from every attempt the thread comes to the end of the emission, and there it
  has what `Scene.emit` gives; until then the emissions that were under way before stay so.
* `Accounted.moves`: at all times the counter tells how many emissions are under way, and they are
  no more than may nest.
* `Scene.emit_nests_within_bound`: what this says of an emission that is not inside another one, and
  when the emissions inside of it are dropped.
-/

namespace LivePanel

variable {σ : Type}

/-! ### A thread that emits -/

/-- An emission under way: how many hear the event, and who is yet to be called. -/
structure Sounding (σ : Type) where
  event : Event
  heard : Nat
  due : List (Listener σ)

/-- An emission under way of which a listener waits until another one is over that it has started,
and what it does then. -/
structure Waiting (σ : Type) where
  now : Sounding σ
  next : Nat → Reaction σ

/-- Where a thread stands; `outer` are the emissions, the innermost first, inside of which it is. -/
inductive Moment (σ : Type) where
  /-- An event is about to be emitted. -/
  | attempts (e : Event) (outer : List (Waiting σ)) (s : Scene σ)
  /-- The next listener is to be called, if there is one. -/
  | delivers (now : Sounding σ) (outer : List (Waiting σ)) (s : Scene σ)
  /-- A listener is at work. -/
  | works (r : Reaction σ) (now : Sounding σ) (outer : List (Waiting σ)) (s : Scene σ)
  /-- An emission is over, and so many have heard it. -/
  | answers (heard : Nat) (outer : List (Waiting σ)) (s : Scene σ)

namespace Moment

/-- How many emissions are under way. -/
def underWay : Moment σ → Nat
  | attempts _ outer _ => outer.length
  | delivers _ outer _ => outer.length + 1
  | works _ _ outer _ => outer.length + 1
  | answers _ outer _ => outer.length

/-- The bus and the world as they are. -/
def scene : Moment σ → Scene σ
  | attempts _ _ s => s
  | delivers _ _ s => s
  | works _ _ _ s => s
  | answers _ _ s => s

/-- The next thing that a thread does. -/
inductive Moves : Moment σ → Moment σ → Prop where
  /-- As many emissions are under way as may nest. -/
  | drops {e : Event} {outer : List (Waiting σ)} {s : Scene σ}
      (h : s.bus.maxDepth ≤ s.bus.active) : Moves (attempts e outer s) (answers 0 outer s)
  /-- Those who are registered now and hear the event are going to be called. -/
  | starts {e : Event} {outer : List (Waiting σ)} {s : Scene σ}
      (h : s.bus.active < s.bus.maxDepth) :
      Moves (attempts e outer s)
        (delivers ⟨e, (s.bus.hearing e).length, s.bus.hearing e⟩ outer
          (s.mapBus fun b => { b with active := b.active + 1 }))
  | calls {e : Event} {n : Nat} {l : Listener σ} {due : List (Listener σ)}
      {outer : List (Waiting σ)} {s : Scene σ} :
      Moves (delivers ⟨e, n, l :: due⟩ outer s) (works (l.hear e) ⟨e, n, due⟩ outer s)
  /-- All have been called: the event is published. -/
  | ends {e : Event} {n : Nat} {outer : List (Waiting σ)} {s : Scene σ} :
      Moves (delivers ⟨e, n, []⟩ outer s)
        (answers n outer (s.mapBus fun b => { b.publish e with active := b.active - 1 }))
  | leaves {now : Sounding σ} {outer : List (Waiting σ)} {s : Scene σ} :
      Moves (works .done now outer s) (delivers now outer s)
  /-- A panic ends the listener, and no more than that. -/
  | panics {now : Sounding σ} {outer : List (Waiting σ)} {s : Scene σ} :
      Moves (works .panic now outer s) (delivers now outer s)
  | looks {next : σ → Reaction σ} {now : Sounding σ} {outer : List (Waiting σ)} {s : Scene σ} :
      Moves (works (.look next) now outer s) (works (next s.world) now outer s)
  | stores {world : σ} {next : Reaction σ} {now : Sounding σ} {outer : List (Waiting σ)}
      {s : Scene σ} :
      Moves (works (.store world next) now outer s) (works next now outer { s with world })
  | subscribes {pattern : String} {hear : Event → Reaction σ} {next : Nat → Reaction σ}
      {now : Sounding σ} {outer : List (Waiting σ)} {s : Scene σ} :
      Moves (works (.subscribe pattern hear next) now outer s)
        (works (next (s.bus.subscribe pattern hear).1) now outer
          { s with bus := (s.bus.subscribe pattern hear).2 })
  | unsubscribes {listener : Nat} {next : Bool → Reaction σ} {now : Sounding σ}
      {outer : List (Waiting σ)} {s : Scene σ} :
      Moves (works (.unsubscribe listener next) now outer s)
        (works (next (s.bus.unsubscribe listener).1) now outer
          { s with bus := (s.bus.unsubscribe listener).2 })
  | clears {next : Reaction σ} {now : Sounding σ} {outer : List (Waiting σ)} {s : Scene σ} :
      Moves (works (.clear next) now outer s) (works next now outer (s.mapBus Bus.clear))
  /-- A listener starts an emission inside of the one that it hears. -/
  | emits {e : Event} {next : Nat → Reaction σ} {now : Sounding σ} {outer : List (Waiting σ)}
      {s : Scene σ} :
      Moves (works (.emit e next) now outer s) (attempts e (⟨now, next⟩ :: outer) s)
  /-- The listener that has waited goes on. -/
  | resumes {n : Nat} {w : Waiting σ} {outer : List (Waiting σ)} {s : Scene σ} :
      Moves (answers n (w :: outer) s) (works (w.next n) w.now outer s)

/-- Any number of moves. -/
def Runs : Moment σ → Moment σ → Prop := Relation.ReflTransGen Moves

/-- Any number of moves, and after each of them more than `d` emissions are under way. -/
def RunsAbove (d : Nat) : Moment σ → Moment σ → Prop :=
  Relation.ReflTransGen fun m m' => Moves m m' ∧ d < m'.underWay

/-- The thread comes from an attempt to the end of the emission: until then more emissions are under
way than before. -/
def ComesTo (m m' : Moment σ) : Prop := ∃ m₁, RunsAbove m.underWay m m₁ ∧ Moves m₁ m'

/-- The thread can do one thing only. -/
theorem Moves.unique {m m₁ m₂ : Moment σ} (h₁ : Moves m m₁) (h₂ : Moves m m₂) : m₁ = m₂ := by
  cases h₁ with
  | drops h =>
    cases h₂ with
    | drops => rfl
    | starts h' => omega
  | starts h =>
    cases h₂ with
    | drops h' => omega
    | starts => rfl
  | _ =>
    cases h₂
    rfl

theorem RunsAbove.mono {d d' : Nat} (hd : d' ≤ d) {m m' : Moment σ} (h : RunsAbove d m m') :
    RunsAbove d' m m' :=
  Relation.ReflTransGen.mono (fun _ _ hm => ⟨hm.1, Nat.lt_of_le_of_lt hd hm.2⟩) _ _ h

theorem RunsAbove.runs {d : Nat} {m m' : Moment σ} (h : RunsAbove d m m') : Runs m m' :=
  Relation.ReflTransGen.mono (fun _ _ hm => hm.1) _ _ h

theorem ComesTo.runs {m m' : Moment σ} (h : ComesTo m m') : Runs m m' := by
  obtain ⟨m₁, habove, hmove⟩ := h
  exact habove.runs.tail hmove

/-- What a thread that has run to a moment comes to later, if it stops at `m'`. -/
theorem Runs.ahead {m m₁ m' : Moment σ} (h : Runs m m') (hstop : ∀ m₂, ¬ Moves m' m₂)
    (h₁ : Runs m m₁) : Runs m₁ m' := by
  induction h₁ with
  | refl => exact h
  | tail _ hmove ih =>
    rcases Relation.ReflTransGen.cases_head ih with rfl | ⟨m₂, hmove', hrest⟩
    · exact absurd hmove (hstop _)
    · rwa [hmove.unique hmove']

/-- A thread that comes to a stop cannot go on forever. -/
theorem Runs.acc {m m' : Moment σ} (h : Runs m m') (hstop : ∀ m₂, ¬ Moves m' m₂) :
    Acc (fun m₂ m₁ : Moment σ => Moves m₁ m₂) m := by
  induction h using Relation.ReflTransGen.head_induction_on with
  | refl => exact ⟨_, fun m₂ hmove => absurd hmove (hstop m₂)⟩
  | head hmove _ ih => exact ⟨_, fun m₂ hmove' => hmove.unique hmove' ▸ ih⟩

end Moment

/-! ### What emissions leave as it is -/

namespace Scene

/-- As many emissions are under way as before, and as many may nest; what was published still is. -/
structure Level (s s' : Scene σ) : Prop where
  active : s'.bus.active = s.bus.active
  maxDepth : s'.bus.maxDepth = s.bus.maxDepth
  published : s.bus.published <+: s'.bus.published

theorem Level.refl (s : Scene σ) : Level s s := ⟨rfl, rfl, List.prefix_refl _⟩

theorem Level.trans {s s₁ s₂ : Scene σ} (h : Level s s₁) (h' : Level s₁ s₂) : Level s s₂ :=
  ⟨h'.active.trans h.active, h'.maxDepth.trans h.maxDepth, h.published.trans h'.published⟩

/-- A listener leaves the counter as it is if the emissions do that it starts. -/
theorem level_run {emit : Event → Scene σ → Nat × Scene σ} (hemit : ∀ e s, Level s (emit e s).2)
    (r : Reaction σ) (s : Scene σ) : Level s (run emit r s) := by
  induction r generalizing s with
  | done => exact .refl s
  | panic => exact .refl s
  | look next ih => exact ih s.world s
  | store world next ih =>
    obtain ⟨ha, hd, hp⟩ := ih { s with world }
    exact ⟨ha, hd, hp⟩
  | subscribe pattern hear next _ ih =>
    obtain ⟨ha, hd, hp⟩ :=
      ih (s.bus.subscribe pattern hear).1 { s with bus := (s.bus.subscribe pattern hear).2 }
    exact ⟨ha, hd, hp⟩
  | unsubscribe listener next ih =>
    obtain ⟨ha, hd, hp⟩ :=
      ih (s.bus.unsubscribe listener).1 { s with bus := (s.bus.unsubscribe listener).2 }
    exact ⟨ha, hd, hp⟩
  | clear next ih =>
    obtain ⟨ha, hd, hp⟩ := ih (s.mapBus Bus.clear)
    exact ⟨ha, hd, hp⟩
  | emit e next ih => exact (hemit e s).trans (ih _ _)

theorem level_deliver {emit : Event → Scene σ → Nat × Scene σ}
    (hemit : ∀ e s, Level s (emit e s).2) (e : Event) (due : List (Listener σ)) (s : Scene σ) :
    Level s (deliver emit e due s) := by
  induction due generalizing s with
  | nil => exact .refl s
  | cons l due ih => exact (level_run hemit (l.hear e) s).trans (ih _)

/-- **An emission ends with as many emissions under way as there were when it began.** -/
theorem level_emitWithin (room : Nat) (e : Event) (s : Scene σ) :
    Level s (emitWithin room e s).2 := by
  induction room generalizing e s with
  | zero => exact .refl s
  | succ room ih =>
    have h := level_deliver ih e (s.bus.hearing e)
      (s.mapBus fun b => { b with active := b.active + 1 })
    exact ⟨congrArg (· - 1) h.active, h.maxDepth, h.published.trans (List.prefix_append ..)⟩

theorem level_emit (e : Event) (s : Scene σ) : Level s (s.emit e).2 := level_emitWithin ..

end Scene

/-! ### A thread does what `Scene.emit` does -/

namespace Moment

open Scene

/-- With so much room left, the thread comes from every attempt to what the emission gives. -/
def Answers (σ : Type) (room : Nat) : Prop :=
  ∀ (e : Event) (outer : List (Waiting σ)) (s : Scene σ), s.bus.maxDepth - s.bus.active = room →
    ComesTo (attempts e outer s)
      (answers (emitWithin room e s).1 outer (emitWithin room e s).2)

variable {room : Nat}

/-- What a thread does between the call of a listener and its end. -/
theorem runs_work (h : Answers σ room) (now : Sounding σ) (outer : List (Waiting σ))
    (r : Reaction σ) (s : Scene σ) (hroom : s.bus.maxDepth - s.bus.active = room) :
    RunsAbove outer.length (works r now outer s)
      (delivers now outer (run (emitWithin room) r s)) := by
  have hlt : outer.length < outer.length + 1 := Nat.lt_succ_self _
  induction r generalizing s with
  | done => exact .single ⟨.leaves, hlt⟩
  | panic => exact .single ⟨.panics, hlt⟩
  | look next ih => exact .head ⟨.looks, hlt⟩ (ih s.world s hroom)
  | store world next ih => exact .head ⟨.stores, hlt⟩ (ih { s with world } hroom)
  | subscribe pattern hear next _ ih => exact .head ⟨.subscribes, hlt⟩ (ih _ _ hroom)
  | unsubscribe listener next ih => exact .head ⟨.unsubscribes, hlt⟩ (ih _ _ hroom)
  | clear next ih => exact .head ⟨.clears, hlt⟩ (ih _ hroom)
  | emit e next ih =>
    obtain ⟨m, hinner, hanswer⟩ := h e (⟨now, next⟩ :: outer) s hroom
    have hlevel := level_emitWithin room e s
    have hrest := ih (emitWithin room e s).1 (emitWithin room e s).2
      (by rw [hlevel.maxDepth, hlevel.active, hroom])
    -- the emission runs above one more than the listeners outside of it
    have hinner : RunsAbove outer.length (attempts e (⟨now, next⟩ :: outer) s) m :=
      hinner.mono (Nat.le_succ _)
    exact .head ⟨.emits, hlt⟩ (hinner.trans (.head ⟨hanswer, hlt⟩ (.head ⟨.resumes, hlt⟩ hrest)))

/-- What a thread does until all are called who are due. -/
theorem runs_delivery (h : Answers σ room) (e : Event) (n : Nat) (outer : List (Waiting σ))
    (due : List (Listener σ)) (s : Scene σ) (hroom : s.bus.maxDepth - s.bus.active = room) :
    RunsAbove outer.length (delivers ⟨e, n, due⟩ outer s)
      (delivers ⟨e, n, []⟩ outer (deliver (emitWithin room) e due s)) := by
  induction due generalizing s with
  | nil => exact .refl
  | cons l due ih =>
    have hlevel := level_run (level_emitWithin room) (l.hear e) s
    have hrest := ih (run (emitWithin room) (l.hear e) s)
      (by rw [hlevel.maxDepth, hlevel.active, hroom])
    exact .head ⟨.calls, Nat.lt_succ_self _⟩ ((runs_work h ⟨e, n, due⟩ outer _ s hroom).trans hrest)

/-- **From every attempt the thread comes to the end of the emission**, where it has what the
emission gives. The induction is on the room that is left: each emission inside leaves one less. -/
theorem comes_to_answer (room : Nat) : Answers σ room := by
  induction room with
  | zero =>
    intro e outer s hroom
    exact ⟨_, .refl, .drops (by omega)⟩
  | succ room ih =>
    intro e outer s hroom
    have hroom' : s.bus.maxDepth - (s.bus.active + 1) = room := by omega
    refine ⟨_, .head ⟨.starts (by omega), Nat.lt_succ_self _⟩
      (runs_delivery ih e (s.bus.hearing e).length outer (s.bus.hearing e) _ hroom'), .ends⟩

/-! ### The counter -/

/-- The counter tells how many emissions are under way, and no more than `d` are. -/
structure Accounted (d : Nat) (m : Moment σ) : Prop where
  active : m.scene.bus.active = m.underWay
  maxDepth : m.scene.bus.maxDepth = d
  bounded : m.underWay ≤ d

/-- What a thread does next keeps account of the emissions under way. -/
theorem Accounted.moves {d : Nat} {m m' : Moment σ} (h : Accounted d m) (hmove : Moves m m') :
    Accounted d m' := by
  obtain ⟨hactive, hmax, hle⟩ := h
  cases hmove with
  | starts hroom =>
    simp only [scene, underWay] at hactive hmax
    exact ⟨congrArg (· + 1) hactive, hmax, by simp only [underWay]; omega⟩
  | ends => exact ⟨congrArg (· - 1) hactive, hmax, Nat.le_of_succ_le hle⟩
  | _ => exact ⟨hactive, hmax, hle⟩

theorem Accounted.runs {d : Nat} {m m' : Moment σ} (h : Accounted d m) (hruns : Runs m m') :
    Accounted d m' := by
  induction hruns with
  | refl => exact h
  | tail _ hmove ih => exact ih.moves hmove

end Moment

/-! ### Emissions that are dropped -/

namespace Scene

/-- An emission for which there is no room changes nothing, and nobody has heard it. -/
theorem emit_of_full {s : Scene σ} (e : Event) (h : s.bus.maxDepth ≤ s.bus.active) :
    s.emit e = (0, s) := by
  rw [emit, Nat.sub_eq_zero_of_le h]
  rfl

/-- An emission for which there is room is heard by all who are registered for it, and is published
after whatever the listeners have emitted. -/
theorem emit_of_room {s : Scene σ} (e : Event) (h : s.bus.active < s.bus.maxDepth) :
    (s.emit e).1 = (s.bus.hearing e).length ∧
      ∃ inside, (s.emit e).2.bus.published = s.bus.published ++ inside ++ [e] := by
  obtain ⟨room, hroom⟩ : ∃ room, s.bus.maxDepth - s.bus.active = room + 1 :=
    ⟨s.bus.maxDepth - s.bus.active - 1, by omega⟩
  rw [emit, hroom]
  obtain ⟨inside, hinside⟩ := (level_deliver (level_emitWithin room) e (s.bus.hearing e)
    (s.mapBus fun b => { b with active := b.active + 1 })).published
  exact ⟨rfl, inside, congrArg (· ++ [e]) hinside.symm⟩

theorem emit_eq_iff (e : Event) (s : Scene σ) :
    s.emit e = (0, s) ↔ s.bus.maxDepth ≤ s.bus.active := by
  refine ⟨fun h => Nat.le_of_not_lt fun hroom => ?_, emit_of_full e⟩
  obtain ⟨-, inside, hinside⟩ := emit_of_room e hroom
  rw [h] at hinside
  have hlength := congrArg List.length hinside
  simp only [List.length_append, List.length_singleton] at hlength
  omega

open Moment

/-- **An emission that is not inside another one ends, whatever the listeners do.** The thread cannot
go on forever, and all that it does leads to what `emit` gives. At all times the counter tells how
many emissions are under way, and they are no more than may nest. Every emission that is attempted
comes to its end, with the counter as it was; it is dropped, with nobody called and nothing
published, if and only if as many are under way as may nest. -/
theorem emit_nests_within_bound (s : Scene σ) (e : Event) (h : s.bus.active = 0) :
    Acc (fun m' m : Moment σ => Moves m m') (.attempts e [] s) ∧
    Runs (.attempts e [] s) (.answers (s.emit e).1 [] (s.emit e).2) ∧
    (s.emit e).2.bus.active = 0 ∧
    ∀ m, Runs (.attempts e [] s) m →
      Runs m (.answers (s.emit e).1 [] (s.emit e).2) ∧
      m.scene.bus.active = m.underWay ∧ m.underWay ≤ s.bus.maxDepth ∧
      ∀ e' outer s', m = .attempts e' outer s' →
        ComesTo m (.answers (s'.emit e').1 outer (s'.emit e').2) ∧
        (s'.emit e').2.bus.active = s'.bus.active ∧
        (s'.emit e' = (0, s') ↔ m.underWay = s.bus.maxDepth) ∧
        (m.underWay = s.bus.maxDepth → Moves m (.answers 0 outer s')) ∧
        (m.underWay < s.bus.maxDepth →
          (s'.emit e').1 = (s'.bus.hearing e').length ∧
          ∃ inside, (s'.emit e').2.bus.published = s'.bus.published ++ inside ++ [e']) := by
  have hruns : Runs (.attempts e [] s) (.answers (s.emit e).1 [] (s.emit e).2) :=
    (comes_to_answer _ e [] s rfl).runs
  have hstop : ∀ m, ¬ Moves (.answers (s.emit e).1 [] (s.emit e).2) m := by
    intro m hmove
    cases hmove
  have hstart : Accounted s.bus.maxDepth (.attempts e [] s) := ⟨h, rfl, Nat.zero_le _⟩
  refine ⟨hruns.acc hstop, hruns, (level_emit e s).active.trans h, fun m hm => ?_⟩
  obtain ⟨hactive, hmax, hle⟩ := hstart.runs hm
  refine ⟨hruns.ahead hstop hm, hactive, hle, ?_⟩
  rintro e' outer s' rfl
  simp only [Moment.scene] at hactive hmax
  refine ⟨comes_to_answer _ e' outer s' rfl, (level_emit e' s').active, ?_, fun hfull => ?_,
    fun hroom => emit_of_room e' (by omega)⟩
  · rw [emit_eq_iff]
    omega
  · exact .drops (by omega)

/-- Two listeners that start each other, of which one panics, on a bus where four emissions nest. -/
def feeding : Scene Nat :=
  let cleared : Event := ⟨.cacheCleared 0, none⟩
  let changed : Event := ⟨.stateChanged "a" 1, none⟩
  let bus := ((Bus.ofLimits 16 4).subscribe "cache:*" fun _ => .emit changed fun _ => .panic).2
  ⟨(bus.subscribe "state:changed" fun _ => .change (· + 1) (.emit cleared fun _ => .done)).2, 0⟩

theorem emit_nests_within_bound_feeding :
    feeding.bus.active = 0 ∧
      Acc (fun m' m : Moment Nat => Moves m m') (.attempts ⟨.cacheCleared 0, none⟩ [] feeding) ∧
      (feeding.emit ⟨.cacheCleared 0, none⟩).2.bus.active = 0 ∧
      (feeding.emit ⟨.cacheCleared 0, none⟩).2.world = 2 ∧
      (feeding.emit ⟨.cacheCleared 0, none⟩).2.bus.published.length = 4 ∧
      ∀ m, Runs (.attempts ⟨.cacheCleared 0, none⟩ [] feeding) m → m.underWay ≤ 4 := by
  obtain ⟨hacc, -, hactive, hall⟩ :=
    emit_nests_within_bound feeding ⟨.cacheCleared 0, none⟩ rfl
  exact ⟨rfl, hacc, hactive, by decide, by decide, fun m hm => (hall m hm).2.2.1⟩

end Scene

end LivePanel
