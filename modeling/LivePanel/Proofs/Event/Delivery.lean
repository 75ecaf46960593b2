import LivePanel.Event.Bus

/-!
# What an emission comes to

Listeners are programs. While one of them is at work it may change who is registered, and it may
emit events that others hear in the midst of it. To see what happens they are made to keep minutes:
`Scene.minuted` is a scene whose listeners do what they did before and write down, in the world,
when they are called and when they leave, and what they do to the bus in between.

Minutes of an emission are as they should be if `Emission` holds of them. This says nothing of how
a bus works: it goes by who is registered, and the minutes themselves tell how that changes.

## What is proved

* `emitWithin_minuted`: keeping minutes changes neither the bus nor the world, and the minutes of
  every emission are as they should be.
* `Scene.emit_calls_registered`: an emission that is not dropped calls those who are registered when
  it starts and hear the event, one after the other.
-/

namespace LivePanel

variable {σ : Type}

/-! ### Minutes -/

/-- What is written down. -/
inductive Minute where
  /-- A listener is called. -/
  | called (listener : Nat) (e : Event)
  /-- A listener is done, or has panicked. -/
  | left (listener : Nat) (panicked : Bool)
  | subscribed (listener : Nat) (pattern : String)
  | unsubscribed (listener : Nat)
  | cleared
  /-- A listener starts an emission. -/
  | emits (e : Event)
  /-- The emission is over, and so many have heard it. -/
  | emitted (e : Event) (heard : Nat)

/-- A world with minutes, and the number of the listener that subscribes next. -/
structure Minuted (σ : Type) where
  world : σ
  next : Nat
  minutes : List Minute

/-- Write down one thing. -/
def Minuted.add (w : Minuted σ) (m : Minute) : Minuted σ := { w with minutes := w.minutes ++ [m] }

/-- Write down one thing, then go on. -/
def Reaction.note (m : Minute) (next : Reaction (Minuted σ)) : Reaction (Minuted σ) :=
  .change (·.add m) next

/-- A program of the listener `self` that keeps minutes, as do the listeners that it subscribes. -/
def Reaction.minuted (self : Nat) : Reaction σ → Reaction (Minuted σ)
  | .done => note (.left self false) .done
  | .panic => note (.left self true) .panic
  | .look next => .look fun w => (next w.world).minuted self
  | .store world next => .change ({ · with world }) (next.minuted self)
  | .subscribe pattern hear next =>
    .look fun w =>
      .store { w.add (.subscribed w.next pattern) with next := w.next + 1 }
        (.subscribe pattern (fun e => note (.called w.next e) ((hear e).minuted w.next))
          fun n => (next n).minuted self)
  | .unsubscribe listener next =>
    note (.unsubscribed listener) (.unsubscribe listener fun gone => (next gone).minuted self)
  | .clear next => note .cleared (.clear (next.minuted self))
  | .emit e next =>
    note (.emits e) (.emit e fun n => note (.emitted e n) ((next n).minuted self))

/-- A listener that keeps minutes. -/
def Listener.minuted (l : Listener σ) : Listener (Minuted σ) :=
  ⟨l.id, l.pattern, fun e => .note (.called l.id e) ((l.hear e).minuted l.id)⟩

/-- A bus whose listeners keep minutes. -/
def Bus.minuted (b : Bus σ) : Bus (Minuted σ) where
  capacity := b.capacity
  maxDepth := b.maxDepth
  listeners := b.listeners.map Listener.minuted
  next := b.next
  active := b.active
  published := b.published
  numbered := by
    rw [List.map_map]
    exact b.numbered
  below := List.forall_mem_map.2 b.below

/-- A scene whose listeners keep minutes, with what was written down so far. -/
def Scene.minuted (s : Scene σ) (minutes : List Minute) : Scene (Minuted σ) :=
  ⟨s.bus.minuted, ⟨s.world, s.bus.next, minutes⟩⟩

/-! ### Minutes as they should be -/

/-- A listener as others know it. -/
structure Registration where
  id : Nat
  pattern : String
deriving DecidableEq

/-- Whether a listener hears an event. -/
def Registration.hears (r : Registration) (e : Event) : Bool := Event.covers r.pattern e.what.name

/-- A listener as others know it. -/
def Listener.registration (l : Listener σ) : Registration := ⟨l.id, l.pattern⟩

/-- Who is registered, in the order in which they subscribed. -/
def Bus.registered (b : Bus σ) : List Registration := b.listeners.map Listener.registration

mutual

/-- The minutes of what a listener does while it is at work, where `room` emissions may still be
started inside one another, with those who are registered before and after. -/
inductive Doings : Nat → List Registration → List Minute → List Registration → Prop where
  /-- It does nothing more. -/
  | nothing {room : Nat} {rs : List Registration} : Doings room rs [] rs
  /-- A new listener comes after those that there are. -/
  | subscribes {room id : Nat} {pattern : String} {rs rs' : List Registration} {ms : List Minute} :
      Doings room (rs ++ [⟨id, pattern⟩]) ms rs' →
        Doings room rs (.subscribed id pattern :: ms) rs'
  /-- A listener is registered no more. -/
  | unsubscribes {room id : Nat} {rs rs' : List Registration} {ms : List Minute} :
      Doings room (rs.filter (·.id != id)) ms rs' → Doings room rs (.unsubscribed id :: ms) rs'
  /-- Nobody is registered any more. -/
  | clears {room : Nat} {rs rs' : List Registration} {ms : List Minute} :
      Doings room [] ms rs' → Doings room rs (.cleared :: ms) rs'
  /-- It starts an emission, and goes on when this is over. -/
  | emits {room n : Nat} {e : Event} {rs rs₁ rs' : List Registration} {told ms : List Minute} :
      Emission room rs e told n rs₁ → Doings room rs₁ ms rs' →
        Doings room rs (.emits e :: (told ++ .emitted e n :: ms)) rs'

/-- The minutes of an emission that so many have heard. -/
inductive Emission : Nat → List Registration → Event → List Minute → Nat → List Registration →
    Prop where
  /-- There is no room for it. -/
  | dropped {rs : List Registration} {e : Event} : Emission 0 rs e [] 0 rs
  /-- Those who are registered now and hear the event are called. -/
  | heard {room : Nat} {rs rs' : List Registration} {e : Event} {ms : List Minute} :
      Delivery room e (rs.filter (·.hears e)) rs ms rs' →
        Emission (room + 1) rs e ms (rs.filter (·.hears e)).length rs'

/-- The minutes of calling listeners, each of which leaves before the next one is called. -/
inductive Delivery : Nat → Event → List Registration → List Registration → List Minute →
    List Registration → Prop where
  /-- Nobody is left to be called. -/
  | over {room : Nat} {e : Event} {rs : List Registration} : Delivery room e [] rs [] rs
  /-- The first one is called and leaves, whoever is registered by then, and then the others are
  called. -/
  | calls {room : Nat} {e : Event} {l : Registration} {due rs rs₁ rs' : List Registration}
      {ms ms' : List Minute} {panicked : Bool} :
      Doings room rs ms rs₁ → Delivery room e due rs₁ ms' rs' →
        Delivery room e (l :: due) rs (.called l.id e :: (ms ++ .left l.id panicked :: ms')) rs'

end

/-- The listeners that are called, but for those called inside emissions that the minutes tell of;
`inside` emissions are under way. -/
def callsOutside (inside : Nat) : List Minute → List Nat
  | [] => []
  | .called listener _ :: ms =>
    if inside = 0 then listener :: callsOutside inside ms else callsOutside inside ms
  | .emits _ :: ms => callsOutside (inside + 1) ms
  | .emitted _ _ :: ms => callsOutside (inside - 1) ms
  | _ :: ms => callsOutside inside ms

mutual

/-- What a listener does calls nobody outside the emissions that it starts. -/
theorem Doings.callsOutside_append (rest : List Minute) : ∀ {room : Nat}
    {rs rs' : List Registration} {ms : List Minute} (inside : Nat), Doings room rs ms rs' →
      callsOutside inside (ms ++ rest) = callsOutside inside rest
  | _, _, _, _, _, .nothing => rfl
  | _, _, _, _, inside, .subscribes h => h.callsOutside_append rest inside
  | _, _, _, _, inside, .unsubscribes h => h.callsOutside_append rest inside
  | _, _, _, _, inside, .clears h => h.callsOutside_append rest inside
  | _, _, _, _, inside, .emits hemission h => by
    rw [List.cons_append, List.append_assoc, List.cons_append, callsOutside,
      hemission.callsOutside_append _ inside]
    exact h.callsOutside_append rest inside

/-- While emissions are under way, all who are called are called inside of them. -/
theorem Emission.callsOutside_append (rest : List Minute) : ∀ {room n : Nat} {e : Event}
    {rs rs' : List Registration} {ms : List Minute} (inside : Nat), Emission room rs e ms n rs' →
      callsOutside (inside + 1) (ms ++ rest) = callsOutside (inside + 1) rest
  | _, _, _, _, _, _, _, .dropped => rfl
  | _, _, _, _, _, _, inside, .heard h => h.callsOutside_append rest inside

theorem Delivery.callsOutside_append (rest : List Minute) : ∀ {room : Nat} {e : Event}
    {due rs rs' : List Registration} {ms : List Minute} (inside : Nat),
      Delivery room e due rs ms rs' →
        callsOutside (inside + 1) (ms ++ rest) = callsOutside (inside + 1) rest
  | _, _, _, _, _, _, _, .over => rfl
  | _, _, _, _, _, _, inside, .calls h hothers => by
    rw [List.cons_append, List.append_assoc, List.cons_append, callsOutside, if_neg (by omega),
      h.callsOutside_append _ (inside + 1)]
    exact hothers.callsOutside_append rest inside

end

/-- An emission for which there is room is heard by those who are registered when it starts. -/
theorem Emission.delivery {room n : Nat} {e : Event} {rs rs' : List Registration}
    {ms : List Minute} (h : Emission (room + 1) rs e ms n rs') :
    Delivery room e (rs.filter (·.hears e)) rs ms rs' ∧ n = (rs.filter (·.hears e)).length := by
  cases h with
  | heard h => exact ⟨h, rfl⟩

/-- **Those who are due are called, one after the other, each of them once, and nobody else.** -/
theorem Delivery.callsOutside_eq {room : Nat} {e : Event} {due rs rs' : List Registration}
    {ms : List Minute} (h : Delivery room e due rs ms rs') :
    callsOutside 0 ms = due.map (·.id) := by
  induction due generalizing rs ms with
  | nil => cases h; rfl
  | cons l due ih =>
    cases h with
    | calls h hothers =>
      rw [callsOutside, if_pos rfl, h.callsOutside_append _ 0]
      have hdue := ih hothers
      exact congrArg (l.id :: ·) hdue

/-! ### Who is registered -/

namespace Bus

variable (b : Bus σ) (e : Event)

@[simp] theorem registered_subscribe (pattern : String) (hear : Event → Reaction σ) :
    (b.subscribe pattern hear).2.registered = b.registered ++ [⟨b.next, pattern⟩] := by
  simp [registered, subscribe, Listener.registration]

@[simp] theorem registered_unsubscribe (listener : Nat) :
    (b.unsubscribe listener).2.registered = b.registered.filter (·.id != listener) := by
  rw [registered, registered, List.filter_map]
  rfl

theorem registration_hearing :
    (b.hearing e).map Listener.registration = b.registered.filter (·.hears e) := by
  rw [registered, List.filter_map]
  rfl

/-- No two who are registered have one number. -/
theorem numbered_registered : (b.registered.map (·.id)).Pairwise (· < ·) := by
  rw [registered, List.map_map]
  exact b.numbered

theorem length_hearing : (b.hearing e).length = (b.registered.filter (·.hears e)).length := by
  rw [← registration_hearing, List.length_map]

/-! ### Buses whose listeners keep minutes -/

theorem minuted_subscribe (pattern : String) (hear : Event → Reaction σ) :
    (b.minuted.subscribe pattern fun e => .note (.called b.next e) ((hear e).minuted b.next)).2 =
      (b.subscribe pattern hear).2.minuted := by
  simp [minuted, subscribe, Listener.minuted]

theorem minuted_unsubscribe (listener : Nat) :
    b.minuted.unsubscribe listener =
      ((b.unsubscribe listener).1, (b.unsubscribe listener).2.minuted) := by
  simp [minuted, unsubscribe, Function.comp_def, Listener.minuted, List.filter_map]

theorem minuted_hearing : b.minuted.hearing e = (b.hearing e).map Listener.minuted := by
  rw [hearing, hearing, minuted, List.filter_map]
  rfl

end Bus

/-! ### Minutes are faithful -/

namespace Scene

/-- Emissions with so much room do the same with minutes as without, and their minutes are as they
should be. -/
def Faithful (σ : Type) (room : Nat) : Prop :=
  ∀ (e : Event) (s : Scene σ) (minutes : List Minute), ∃ told,
    emitWithin room e (s.minuted minutes) =
      ((emitWithin room e s).1, (emitWithin room e s).2.minuted (minutes ++ told)) ∧
    Emission room s.bus.registered e told (emitWithin room e s).1
      (emitWithin room e s).2.bus.registered

variable {room : Nat}

/-- What a listener does that keeps minutes. -/
theorem run_minuted (h : Faithful σ room) (self : Nat) (r : Reaction σ) (s : Scene σ)
    (minutes : List Minute) : ∃ ms panicked,
      run (emitWithin room) (r.minuted self) (s.minuted minutes) =
        (run (emitWithin room) r s).minuted (minutes ++ (ms ++ [.left self panicked])) ∧
      Doings room s.bus.registered ms (run (emitWithin room) r s).bus.registered := by
  induction r generalizing s minutes with
  | done => exact ⟨[], false, rfl, .nothing⟩
  | panic => exact ⟨[], true, rfl, .nothing⟩
  | look next ih => exact ih s.world s minutes
  | store world next ih => exact ih { s with world } minutes
  | subscribe pattern hear next _ ih =>
    obtain ⟨ms, panicked, hrun, hms⟩ := ih s.bus.next
      { s with bus := (s.bus.subscribe pattern hear).2 } (minutes ++ [.subscribed s.bus.next pattern])
    refine ⟨.subscribed s.bus.next pattern :: ms, panicked, ?_, .subscribes ?_⟩
    · rw [List.append_assoc] at hrun
      refine Eq.trans ?_ hrun
      unfold minuted
      dsimp only
      rw [← Bus.minuted_subscribe]
      rfl
    · rwa [Bus.registered_subscribe] at hms
  | unsubscribe listener next ih =>
    obtain ⟨ms, panicked, hrun, hms⟩ := ih (s.bus.unsubscribe listener).1
      { s with bus := (s.bus.unsubscribe listener).2 } (minutes ++ [.unsubscribed listener])
    refine ⟨.unsubscribed listener :: ms, panicked, ?_, .unsubscribes ?_⟩
    · rw [List.append_assoc] at hrun
      refine Eq.trans ?_ hrun
      simp only [Reaction.minuted, Reaction.note, Reaction.change, run, minuted,
        Bus.minuted_unsubscribe]
      rfl
    · rwa [Bus.registered_unsubscribe] at hms
  | clear next ih =>
    obtain ⟨ms, panicked, hrun, hms⟩ := ih (s.mapBus Bus.clear) (minutes ++ [.cleared])
    refine ⟨.cleared :: ms, panicked, ?_, .clears hms⟩
    rw [List.append_assoc] at hrun
    exact hrun
  | emit e next ih =>
    obtain ⟨told, hemit, htold⟩ := h e s (minutes ++ [.emits e])
    obtain ⟨ms, panicked, hrun, hms⟩ := ih (emitWithin room e s).1 (emitWithin room e s).2
      (minutes ++ [.emits e] ++ told ++ [.emitted e (emitWithin room e s).1])
    refine ⟨_, panicked, ?_, .emits htold hms⟩
    have hnext : run (emitWithin room) ((Reaction.emit e next).minuted self) (s.minuted minutes) =
        run (emitWithin room) ((next (emitWithin room e s).1).minuted self)
          ((emitWithin room e s).2.minuted
            (minutes ++ [.emits e] ++ told ++ [.emitted e (emitWithin room e s).1])) := by
      change run (emitWithin room)
        (.note (.emitted e (emitWithin room e (s.minuted (minutes ++ [.emits e]))).1)
          ((next (emitWithin room e (s.minuted (minutes ++ [.emits e]))).1).minuted self))
        (emitWithin room e (s.minuted (minutes ++ [.emits e]))).2 = _
      rw [hemit]
      rfl
    rw [hnext, hrun]
    simp only [run, List.append_assoc, List.cons_append, List.nil_append]

/-- What comes of calling listeners that keep minutes. -/
theorem deliver_minuted (h : Faithful σ room) (e : Event) (due : List (Listener σ)) (s : Scene σ)
    (minutes : List Minute) : ∃ ms,
      deliver (emitWithin room) e (due.map Listener.minuted) (s.minuted minutes) =
        (deliver (emitWithin room) e due s).minuted (minutes ++ ms) ∧
      Delivery room e (due.map Listener.registration) s.bus.registered ms
        (deliver (emitWithin room) e due s).bus.registered := by
  induction due generalizing s minutes with
  | nil => exact ⟨[], by simp [deliver], .over⟩
  | cons l due ih =>
    obtain ⟨ms, panicked, hrun, hms⟩ :=
      run_minuted h l.id (l.hear e) s (minutes ++ [.called l.id e])
    obtain ⟨ms', hrest, hms'⟩ := ih (run (emitWithin room) (l.hear e) s)
      (minutes ++ [.called l.id e] ++ (ms ++ [.left l.id panicked]))
    refine ⟨.called l.id e :: (ms ++ .left l.id panicked :: ms'), ?_, .calls hms hms'⟩
    have hfirst : run (emitWithin room) (l.minuted.hear e) (s.minuted minutes) =
        (run (emitWithin room) (l.hear e) s).minuted
          (minutes ++ [.called l.id e] ++ (ms ++ [.left l.id panicked])) := hrun
    have hcons : deliver (emitWithin room) e ((l :: due).map Listener.minuted)
        (s.minuted minutes) =
        deliver (emitWithin room) e (due.map Listener.minuted)
          (run (emitWithin room) (l.minuted.hear e) (s.minuted minutes)) := rfl
    rw [hcons, hfirst, hrest]
    simp only [deliver, List.foldl_cons, List.append_assoc, List.cons_append, List.nil_append]

/-- **Keeping minutes changes neither the bus nor the world, and the minutes of every emission are
as they should be.** -/
theorem emitWithin_minuted (room : Nat) : Faithful σ room := by
  induction room with
  | zero => exact fun e s minutes => ⟨[], by simp [emitWithin], .dropped⟩
  | succ room ih =>
    intro e s minutes
    obtain ⟨ms, hdeliver, hms⟩ := deliver_minuted ih e (s.bus.hearing e)
      (s.mapBus fun b => { b with active := b.active + 1 }) minutes
    rw [Bus.registration_hearing] at hms
    refine ⟨ms, ?_, ?_⟩
    · have hstart : (s.minuted minutes).mapBus (fun b => { b with active := b.active + 1 }) =
          (s.mapBus fun b => { b with active := b.active + 1 }).minuted minutes := rfl
      have hdue : (s.minuted minutes).bus.hearing e = (s.bus.hearing e).map Listener.minuted :=
        s.bus.minuted_hearing e
      rw [emitWithin, emitWithin, hstart, hdue]
      simp only [hdeliver, List.length_map]
      rfl
    · rw [emitWithin]
      simp only [Bus.length_hearing]
      exact .heard hms

/-- **An emission that is not dropped calls the listeners that are registered when it starts and
hear the event, whatever they do.** It does the same when minutes are kept, and these tell of the
calls: each of those listeners is called once, in the order in which they subscribed, and leaves,
with all that it has emitted, before the next one is called; nobody else is called but inside of
what the listeners emit. How many have heard the event is how many they are. -/
theorem emit_calls_registered (s : Scene σ) (e : Event) (h : s.bus.active < s.bus.maxDepth) :
    ∃ told,
      (s.minuted []).emit e = ((s.emit e).1, (s.emit e).2.minuted told) ∧
      Delivery (s.bus.maxDepth - s.bus.active - 1) e (s.bus.registered.filter (·.hears e))
        s.bus.registered told (s.emit e).2.bus.registered ∧
      callsOutside 0 told = (s.bus.registered.filter (·.hears e)).map (·.id) ∧
      ((s.bus.registered.filter (·.hears e)).map (·.id)).Pairwise (· < ·) ∧
      (s.emit e).1 = (s.bus.registered.filter (·.hears e)).length := by
  have hroom : s.bus.maxDepth - s.bus.active = s.bus.maxDepth - s.bus.active - 1 + 1 := by omega
  obtain ⟨told, htold, hemission⟩ :=
    emitWithin_minuted (s.bus.maxDepth - s.bus.active) e s []
  change Emission _ _ _ _ (s.emit e).1 (s.emit e).2.bus.registered at hemission
  rw [hroom] at hemission
  obtain ⟨hdelivery, hheard⟩ := hemission.delivery
  exact ⟨told, htold, hdelivery, hdelivery.callsOutside_eq,
    s.bus.numbered_registered.sublist (List.filter_sublist.map _), hheard⟩

/-- The first of three listeners removes the second one, subscribes another, clears the cache once
more and panics, while the second one hears all. -/
def unruly : Scene Nat :=
  let cleared : Event := ⟨.cacheCleared 0, none⟩
  let bus := (Bus.empty.subscribe "cache:*" fun _ => .unsubscribe 1 fun _ =>
    .subscribe "*" (fun _ => .done) fun _ => .emit cleared fun _ => .panic).2
  let bus := (bus.subscribe "*" fun _ => .change (· + 1) .done).2
  ⟨(bus.subscribe "file:added" fun _ => .clear .done).2, 0⟩

theorem emit_calls_registered_unruly :
    unruly.bus.active < unruly.bus.maxDepth ∧
      ∃ told,
        (unruly.minuted []).emit ⟨.cacheCleared 0, none⟩ =
          ((unruly.emit ⟨.cacheCleared 0, none⟩).1,
            (unruly.emit ⟨.cacheCleared 0, none⟩).2.minuted told) ∧
        Delivery 7 ⟨.cacheCleared 0, none⟩ [⟨0, "cache:*"⟩, ⟨1, "*"⟩]
          [⟨0, "cache:*"⟩, ⟨1, "*"⟩, ⟨2, "file:added"⟩] told
          (unruly.emit ⟨.cacheCleared 0, none⟩).2.bus.registered ∧
        callsOutside 0 told = [0, 1] ∧ (unruly.emit ⟨.cacheCleared 0, none⟩).1 = 2 := by
  have h : unruly.bus.active < unruly.bus.maxDepth := by decide
  obtain ⟨told, htold, hdelivery, hcalls, -, hheard⟩ :=
    emit_calls_registered unruly ⟨.cacheCleared 0, none⟩ h
  exact ⟨h, told, htold, hdelivery, hcalls, hheard⟩

end Scene

end LivePanel
