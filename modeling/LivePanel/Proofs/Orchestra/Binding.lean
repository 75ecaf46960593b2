import LivePanel.Proofs.Orchestra.Keeping
import LivePanel.Proofs.Panel.Subscribing

/-!
# What is bound at the bridge

The events of a kept template are subscriptions at the bridge, and the orchestra keeps a handle on
each of them. The handlers, the handles and the templates are kept apart, and what registers a
template or forgets one changes all three. `Bound` says that they fit together. It holds of every
orchestra that some run leads to, as long as texts are given where there is something that can run
the bound actions.

## What is proved

* `under_bind`: the handlers of an event after subscriptions were made for a template.
* `rebound_register`, `rebound_unregister`: the handlers of a key are replaced, those of other keys
  stay.
* `Rebound.live`: what is bound for each key then.
* `Bound.course`, `Ensemble.bound_play`: every turn and every beat keeps `Bound`.
* `Ensemble.live_eq_events`: what is bound for a key are the events of its kept template, one by
  one, and nothing where no template is kept; and nothing at all once a shutdown has been carried
  through.
-/

namespace LivePanel

namespace Orchestra

variable {σ : Type}

/-! ### Binding -/

/-- The handles on the subscriptions that are made for some events, numbered from `n` on. -/
def handlesFrom (n : Nat) (events : List EventBinding) : List Subscription :=
  (events.zipIdx n).map fun x => ⟨x.1.event, x.2⟩

/-- The handlers among them that an event calls. -/
def handlersFrom (key : String) (n : Nat) (events : List EventBinding) (event : String) :
    List (Nat × Binding) :=
  ((events.zipIdx n).filter fun x => x.1.event = event).map fun x => (x.2, ⟨key, x.1.action⟩)

section

variable (o : Orchestra σ) (key : String) (events : List EventBinding)

theorem fst_bind : (o.bind key events).1 = handlesFrom o.subscriptions.next events := by
  induction events generalizing o with
  | nil => rfl
  | cons e rest ih =>
    rw [bind, handlesFrom, List.zipIdx_cons, List.map_cons]
    exact congrArg _ (ih _)

theorem next_bind :
    (o.bind key events).2.subscriptions.next = o.subscriptions.next + events.length := by
  induction events generalizing o with
  | nil => rfl
  | cons e rest ih =>
    rw [bind, List.length_cons]
    refine (ih _).trans ?_
    change o.subscriptions.next + 1 + rest.length = _
    omega

theorem under_bind (event : String) :
    (o.bind key events).2.subscriptions.under event =
      o.subscriptions.under event ++ handlersFrom key o.subscriptions.next events event := by
  induction events generalizing o with
  | nil => simp [bind, handlersFrom]
  | cons e rest ih =>
    rw [bind]
    refine (ih _).trans ?_
    have hrest : handlersFrom key (o.subscriptions.next + 1) rest event =
        handlersFrom key (o.subscriptions.subscribe e.event ⟨key, e.action⟩).2.next rest event :=
      rfl
    dsimp only
    rw [Subscriptions.under_subscribe, ← hrest]
    unfold handlersFrom
    rw [List.zipIdx_cons]
    by_cases he : e.event = event
    · simp [he]
    · simp [he]

theorem mem_handlersFrom {n : Nat} {event : String} {x : Nat × Binding}
    (h : x ∈ handlersFrom key n events event) :
    n ≤ x.1 ∧ x.1 < n + events.length ∧ x.2.key = key ∧ ⟨event, x.1⟩ ∈ handlesFrom n events := by
  obtain ⟨y, hy, rfl⟩ := List.mem_map.1 h
  obtain ⟨hy, he⟩ := List.mem_filter.1 hy
  obtain ⟨e, i⟩ := y
  obtain ⟨hle, hlt, -⟩ := List.mem_zipIdx hy
  refine ⟨hle, hlt, rfl, List.mem_map.2 ⟨_, hy, ?_⟩⟩
  rw [of_decide_eq_true he]

theorem le_of_mem_handlesFrom {n : Nat} {h : Subscription} (hh : h ∈ handlesFrom n events) :
    n ≤ h.id ∧ h.id < n + events.length := by
  obtain ⟨⟨e, i⟩, hy, rfl⟩ := List.mem_map.1 hh
  obtain ⟨hle, hlt, -⟩ := List.mem_zipIdx hy
  exact ⟨hle, hlt⟩

/-- The handlers of an event are one for each of the events that have its name. -/
theorem map_handlersFrom (n : Nat) (event : String) :
    (handlersFrom key n events event).map (·.2) =
      (events.filter (·.event = event)).map fun e => ⟨key, e.action⟩ := by
  unfold handlersFrom
  induction events generalizing n with
  | nil => rfl
  | cons e rest ih =>
    rw [List.zipIdx_cons]
    have hrest := ih (n + 1)
    by_cases he : e.event = event
    · simpa [he] using hrest
    · simpa [he] using hrest

end

/-! ### What fits together -/

/-- The handles that are kept for a key. -/
def handles (o : Orchestra σ) (key : String) : List Subscription := (o.bindings.get? key).getD []

/-- The events of the template that is kept under a key; none where there is no template. -/
def events (o : Orchestra σ) (key : String) : List EventBinding :=
  ((o.loaded.get? key).map (·.template.events)).getD []

/-- What an event of the bridge calls that is bound for a key. -/
def live (o : Orchestra σ) (key event : String) : List Binding :=
  (o.subscriptions.called event).filter (·.key = key)

/-- Handlers, handles and templates fit together. -/
structure Bound (o : Orchestra σ) : Prop where
  /-- Handlers have numbers that were given out. -/
  below : ∀ {event x}, x ∈ o.subscriptions.under event → x.1 < o.subscriptions.next
  /-- Handles have numbers that were given out. -/
  given : ∀ {key h}, h ∈ o.handles key → h.id < o.subscriptions.next
  /-- There is a handle on every handler, kept for its key. -/
  held : ∀ {event x}, x ∈ o.subscriptions.under event → ⟨event, x.1⟩ ∈ o.handles x.2.key
  /-- A handle is on no handler of another key. -/
  owned : ∀ {key event x}, x ∈ o.subscriptions.under event → ⟨event, x.1⟩ ∈ o.handles key →
    x.2.key = key
  /-- The events of a kept template are bound, one by one. -/
  live : ∀ key event, o.live key event =
    ((o.events key).filter (·.event = event)).map fun e => ⟨key, e.action⟩

/-- The handlers of a key have been replaced by those of some events. -/
structure Rebound (key : String) (events : List EventBinding) (o o' : Orchestra σ) : Prop where
  under : ∀ event, o'.subscriptions.under event =
    (o.subscriptions.under event).filter (fun x => decide (x.2.key ≠ key)) ++
      handlersFrom key o.subscriptions.next events event
  next : o'.subscriptions.next = o.subscriptions.next + events.length
  handles : ∀ k, o'.handles k =
    if key = k then handlesFrom o.subscriptions.next events else o.handles k
  events : ∀ k, o'.events k = if key = k then events else o.events k

/-- Handlers, handles and templates are as before. -/
structure Steady (o o' : Orchestra σ) : Prop where
  subscriptions : o'.subscriptions = o.subscriptions
  handles : o'.handles = o.handles
  events : o'.events = o.events

namespace Rebound

variable {key : String} {events : List EventBinding} {o o' : Orchestra σ}

/-- A handler is an old one of another key, or a new one. -/
theorem mem_cases (hr : Rebound key events o o') {event : String} {x : Nat × Binding}
    (hx : x ∈ o'.subscriptions.under event) :
    (x ∈ o.subscriptions.under event ∧ x.2.key ≠ key) ∨
      x ∈ handlersFrom key o.subscriptions.next events event := by
  rw [hr.under] at hx
  rcases List.mem_append.1 hx with hx | hx
  · obtain ⟨hx, hk⟩ := List.mem_filter.1 hx
    exact .inl ⟨hx, of_decide_eq_true hk⟩
  · exact .inr hx

/-- The events are bound for the key, and what is bound for other keys stays. -/
theorem live (hr : Rebound key events o o') (k event : String) :
    o'.live k event =
      if key = k then (events.filter (·.event = event)).map fun e => ⟨k, e.action⟩
      else o.live k event := by
  have hold : ∀ b ∈ ((o.subscriptions.under event).filter
      fun x => decide (x.2.key ≠ key)).map (·.2), b.key ≠ key := by
    intro b hb
    obtain ⟨x, hx, rfl⟩ := List.mem_map.1 hb
    exact of_decide_eq_true (List.mem_filter.1 hx).2
  have hnew : ∀ b ∈ (events.filter (·.event = event)).map
      fun e => (⟨key, e.action⟩ : Binding), b.key = key := by
    intro b hb
    obtain ⟨e, -, rfl⟩ := List.mem_map.1 hb
    rfl
  rw [Orchestra.live, Subscriptions.called, hr.under, List.map_append, List.filter_append,
    map_handlersFrom]
  split
  · rename_i hk
    subst hk
    rw [List.filter_eq_nil_iff.2 fun b hb => by simpa using hold b hb,
      List.filter_eq_self.2 fun b hb => decide_eq_true (hnew b hb), List.nil_append]
  · rename_i hk
    have hnone : ((events.filter (·.event = event)).map
        fun e => (⟨key, e.action⟩ : Binding)).filter (·.key = k) = [] :=
      List.filter_eq_nil_iff.2 fun b hb => by simpa [hnew b hb] using hk
    rw [hnone, List.append_nil, Orchestra.live, Subscriptions.called, List.filter_map,
      List.filter_map, List.filter_filter]
    refine congrArg _ (List.filter_congr fun x _ => ?_)
    by_cases hx : x.2.key = k
    · simp [hx, Ne.symm hk]
    · simp [hx]

end Rebound

namespace Bound

variable {o o' : Orchestra σ}

theorem steady (h : Bound o) (hs : Steady o o') : Bound o' := by
  have hlive : ∀ key event, o'.live key event = o.live key event := fun key event => by
    rw [Orchestra.live, Orchestra.live, hs.subscriptions]
  refine ⟨?_, ?_, ?_, ?_, fun key event => ?_⟩
  · rw [hs.subscriptions]
    exact h.below
  · rw [hs.subscriptions, hs.handles]
    exact h.given
  · rw [hs.subscriptions, hs.handles]
    exact h.held
  · rw [hs.subscriptions, hs.handles]
    exact h.owned
  · rw [hlive, hs.events, h.live]

/-- The handles of a key are on its handlers. -/
theorem mem_handles_iff (h : Bound o) {key event : String} {x : Nat × Binding}
    (hx : x ∈ o.subscriptions.under event) : ⟨event, x.1⟩ ∈ o.handles key ↔ x.2.key = key := by
  constructor
  · exact h.owned hx
  · rintro rfl
    exact h.held hx

theorem rebound {key : String} {events : List EventBinding} (h : Bound o)
    (hr : Rebound key events o o') : Bound o' := by
  refine ⟨fun {event x} hx => ?_, fun {k g} hg => ?_, fun {event x} hx => ?_,
    fun {k event x} hx hg => ?_, fun k event => ?_⟩
  · rw [hr.next]
    rcases hr.mem_cases hx with ⟨hx, -⟩ | hx
    · exact Nat.lt_of_lt_of_le (h.below hx) (Nat.le_add_right _ _)
    · exact (mem_handlersFrom key events hx).2.1
  · rw [hr.next]
    rw [hr.handles] at hg
    split at hg
    · exact (le_of_mem_handlesFrom events hg).2
    · exact Nat.lt_of_lt_of_le (h.given hg) (Nat.le_add_right _ _)
  · rw [hr.handles]
    rcases hr.mem_cases hx with ⟨hx, hk⟩ | hx
    · rw [if_neg (Ne.symm hk)]
      exact h.held hx
    · obtain ⟨-, -, hk, hmem⟩ := mem_handlersFrom key events hx
      rwa [if_pos hk.symm]
  · rw [hr.handles] at hg
    rcases hr.mem_cases hx with ⟨hx, hk⟩ | hx
    · split at hg
      · -- an old handler has a lower number than all new handles
        have hold := h.below hx
        have hnew := (le_of_mem_handlesFrom events hg).1
        exact absurd hold (Nat.not_lt.2 hnew)
      · exact h.owned hx hg
    · obtain ⟨hle, -, hk, -⟩ := mem_handlersFrom key events hx
      split at hg
      · exact hk.trans ‹_›
      · exact absurd (h.given hg) (Nat.not_lt.2 hle)
  · rw [hr.live, hr.events]
    split
    · rfl
    · exact h.live k event

end Bound

/-! ### What changes the bindings -/

theorem handles_of_holding {o o' : Orchestra σ} (h : o'.holding = o.holding) :
    o'.handles = o.handles :=
  funext fun key => congrArg (·.bindings.getD []) (congrFun h key)

theorem events_of_holding {o o' : Orchestra σ} (h : o'.holding = o.holding) :
    o'.events = o.events :=
  funext fun key => congrArg (fun k => (k.record.map (·.template.events)).getD []) (congrFun h key)

theorem handles_eq (o : Orchestra σ) (key : String) :
    o.handles key = ((o.holding key).bindings).getD [] := rfl

theorem events_eq (o : Orchestra σ) (key : String) :
    o.events key = ((o.holding key).record.map (·.template.events)).getD [] := rfl

theorem subscriptions_register (o : Orchestra σ) (key : String) (l : Loaded) :
    (o.register key l true).subscriptions =
      (o.bind key l.template.events).2.subscriptions.cancelAll (o.handles key) := by
  change (o.bind key l.template.events).2.subscriptions.cancelAll
    ((o.bind key l.template.events).2.handles key) = _
  rw [handles_of_holding (o.holding_bind key l.template.events)]

section

variable {o : Orchestra σ} (h : Bound o) (key : String)

include h

/-- What is left of the handlers of an event when the handles of a key are let go. -/
theorem Bound.filter_handles (event : String) :
    ((o.subscriptions.under event).filter fun x => decide (⟨event, x.1⟩ ∉ o.handles key)) =
      (o.subscriptions.under event).filter fun x => decide (x.2.key ≠ key) := by
  refine List.filter_congr fun x hx => ?_
  rw [decide_eq_decide, h.mem_handles_iff hx]

/-- **A template that is registered has its events bound in place of those of the former one.** -/
theorem rebound_register (l : Loaded) :
    Rebound key l.template.events o (o.register key l true) where
  under event := by
    rw [subscriptions_register, Subscriptions.under_cancelAll, under_bind, List.filter_append,
      h.filter_handles key event]
    refine congrArg _ (List.filter_eq_self.2 fun x hx => decide_eq_true fun hmem => ?_)
    have hnew := (mem_handlersFrom key l.template.events hx).1
    exact absurd (h.given hmem) (Nat.not_lt.2 hnew)
  next := by
    rw [subscriptions_register, Subscriptions.next_cancelAll, next_bind]
  handles k := by
    rw [handles_eq, holding_register]
    split
    · exact fst_bind o key l.template.events
    · rfl
  events k := by
    rw [events_eq, holding_register]
    split <;> rfl

/-- **A template that is forgotten has its events unbound.** -/
theorem rebound_unregister : Rebound key [] o (o.unregister key) where
  under event := by
    have hsub : (o.unregister key).subscriptions =
        o.subscriptions.cancelAll (o.handles key) := rfl
    rw [hsub, Subscriptions.under_cancelAll, h.filter_handles key event]
    exact (List.append_nil _).symm
  next := Subscriptions.next_cancelAll ..
  handles k := by
    rw [handles_eq, holding_unregister]
    split <;> rfl
  events k := by
    rw [events_eq, holding_unregister]
    split <;> rfl

end

/-! ### What leaves the bindings alone -/

namespace Steady

variable {o o' o'' : Orchestra σ}

theorem trans (h : Steady o o') (h' : Steady o' o'') : Steady o o'' :=
  ⟨h'.subscriptions.trans h.subscriptions, h'.handles.trans h.handles, h'.events.trans h.events⟩

theorem quiet {about : Option String} (h : Quiet about o o') : Steady o o' :=
  ⟨h.subscriptions, handles_of_holding h.holding, events_of_holding h.holding⟩

variable (o) (key : String)

theorem record (kind : ActivityKind) (k : Option String) (detail : String) :
    Steady o (o.record kind k detail) := ⟨rfl, rfl, rfl⟩

theorem tell (what : Happening) : Steady o (o.tell what) := ⟨rfl, rfl, rfl⟩

theorem announce (a : Build.Artifact) : Steady o (o.announce key a) := by
  unfold Orchestra.announce
  split <;> exact ⟨rfl, rfl, rfl⟩

theorem keep (fingerprint : Fingerprint) (origin : Origin) (b : Built) :
    Steady o (o.keep key fingerprint origin b) := ⟨rfl, rfl, rfl⟩

theorem drafted (text : String) : Steady o (o.drafted text) :=
  ⟨o.subscriptions_drafted text, handles_of_holding (o.holding_drafted text),
    events_of_holding (o.holding_drafted text)⟩

theorem supersede : Steady o (o.supersede key) := ⟨rfl, rfl, rfl⟩

theorem serve : Steady o (o.serve key) := ⟨rfl, rfl, rfl⟩

theorem embark : Steady o (o.embark key) := ⟨rfl, rfl, rfl⟩

theorem land (f : Flight) (l : Landing) : Steady o (o.land f l).orchestra := ⟨rfl, rfl, rfl⟩

theorem sourceFailed (cause : SourceError) : Steady o (o.sourceFailed key cause).2 := by
  unfold Orchestra.sourceFailed
  split <;> exact ⟨rfl, rfl, rfl⟩

theorem invalidate : Steady o (o.invalidate key).2 := by
  unfold Orchestra.invalidate
  dsimp only
  split <;> exact ⟨rfl, rfl, rfl⟩

theorem clearCache : Steady o o.clearCache.2 := ⟨rfl, rfl, rfl⟩

theorem rebuild (l : Loaded) : Steady o (o.rebuild key l) := by
  unfold Orchestra.rebuild
  dsimp only
  refine Steady.trans ?_ (announce _ key _)
  exact ⟨rfl, rfl, rfl⟩

theorem letGo [Hosted σ] (t : Errand) : Steady o (t.letGo o) := by
  unfold Errand.letGo
  split
  · rename_i d
    cases d.performance.letGo.closing? <;> exact ⟨rfl, rfl, rfl⟩
  · exact ⟨rfl, rfl, rfl⟩

end Steady

/-! ### Every turn and every beat -/

namespace Bound

variable {o : Orchestra σ} (h : Bound o) (key : String)

include h

theorem adopt (fingerprint : Fingerprint) (origin : Origin) (b : Built) (t : Option Template) :
    Bound (o.adopt key fingerprint origin b t true) := by
  have hkeep := h.steady (.keep o key fingerprint origin b)
  unfold Orchestra.adopt
  cases t with
  | some t => exact hkeep.rebound (rebound_register hkeep key ⟨t, fingerprint, origin⟩)
  | none => exact hkeep.rebound (rebound_unregister hkeep key)

theorem buildText (text : String) (fingerprint : Fingerprint) (origin : Origin)
    (generation : Nat) : Bound (o.buildText key text fingerprint origin generation).2 := by
  have hdrafted := h.steady (.drafted o text)
  rw [buildText_eq]
  dsimp only
  split
  · exact hdrafted
  · split
    · have hadopt := hdrafted.adopt key fingerprint origin (o.builtOf text)
        (o.outcomeOf text).template
      exact (hadopt.steady (.tell _ _)).steady (.announce _ _ _)
    · exact hdrafted.steady (.record _ _ _ _)

theorem loadText (text : String) : Bound (o.loadText key text true).2 := by
  unfold Orchestra.loadText
  split
  · exact h
  · exact (h.steady (.supersede o key)).buildText key text _ _ _

theorem evict : Bound (o.evict key) := by
  have hsupersede : Bound { o.supersede key with cache := Table.erase o.cache key } :=
    h.steady ⟨rfl, rfl, rfl⟩
  have hunregister := hsupersede.rebound (rebound_unregister hsupersede key)
  unfold Orchestra.evict
  dsimp only
  split
  · exact hunregister.steady (.record _ _ _ _)
  · exact hunregister

/-- Nothing is bound when all handles have been let go. -/
theorem under_close (event : String) : o.close.subscriptions.under event = [] := by
  have hsub : o.close.subscriptions =
      o.subscriptions.cancelAll (Table.values o.bindings).flatten := rfl
  rw [hsub, Subscriptions.under_cancelAll, List.filter_eq_nil_iff]
  intro x hx
  have hheld := h.held hx
  unfold Orchestra.handles at hheld
  cases hget : o.bindings.get? x.2.key with
  | none => simp [hget] at hheld
  | some subs =>
    rw [hget] at hheld
    have hmem : subs ∈ Table.values o.bindings :=
      List.mem_map.2 ⟨_, Table.mem_of_get? hget, rfl⟩
    simpa using ⟨subs, hmem, hheld⟩

theorem close : Bound o.close := by
  have hunder := h.under_close
  refine ⟨fun {event x} hx => ?_, fun {k g} hg => ?_, fun {event x} hx => ?_,
    fun {k event x} hx _ => ?_, fun k event => ?_⟩
  · simp [hunder] at hx
  · simp [Orchestra.handles, Orchestra.close] at hg
  · simp [hunder] at hx
  · simp [hunder] at hx
  · rw [Orchestra.live, Subscriptions.called, hunder]
    rfl

/-- **Handlers, handles and templates fit together after every turn.** -/
theorem course [Hosted σ] {t : Errand} {s : Signal} {turn : Turn σ} (hc : Course o t s turn) :
    Bound turn.orchestra := by
  cases hc with
  | unmoved | returns | compares | joins | setsOut | comparesIn | turnsBack | marks => exact h
  | serves => exact h.steady (.serve o _)
  | embarks => exact h.steady (.embark o _)
  | servesIn => exact (h.steady (.serve o _)).steady (.land _ _ _)
  | fails => exact (h.steady (.sourceFailed o _ _)).steady (.land _ _ _)
  | builds => exact (h.buildText _ _ _ _ _).steady (.land _ _ _)
  | crashes => exact h.steady ⟨rfl, rfl, rfl⟩
  | drops _ _ hq => exact (h.steady (.quiet hq)).steady (.invalidate _ _)
  | renews _ _ hq => exact ((h.steady (.quiet hq)).steady (.invalidate _ _)).steady (.embark _ _)
  | evicts => exact (h.evict _).steady (.tell _ _)
  | notes _ _ hq | plays _ _ hq | finishes _ hq => exact h.steady (.quiet hq)
  | rebuilds _ _ hq => exact (h.steady (.quiet hq)).steady (.rebuild _ _ _)
  | shutsDown => exact h.steady ⟨rfl, rfl, rfl⟩
  | closes => exact h.close

end Bound

/-- An orchestra has been shut down and keeps no template. -/
structure Shut (o : Orchestra σ) : Prop where
  shutDown : o.shutDown = true
  loaded : ∀ key, o.loaded.get? key = none

/-- Where no template is kept, nothing is bound at all. -/
theorem Bound.under_of_shut {o : Orchestra σ} (hb : Bound o) (h : Shut o) (event : String) :
    o.subscriptions.under event = [] := by
  rw [List.eq_nil_iff_forall_not_mem]
  intro x hx
  have hlive : x.2 ∈ o.live x.2.key event :=
    List.mem_filter.2 ⟨List.mem_map.2 ⟨x, hx, rfl⟩, decide_eq_true rfl⟩
  rw [hb.live, Orchestra.events, h.loaded] at hlive
  exact List.not_mem_nil hlive

/-- A beat is played where something can run what is bound. -/
def Beat.InRuntime : Beat σ → Prop
  | .loadText _ _ bound => bound = true
  | _ => True

namespace Ensemble

theorem bound_opening (setup : Setup σ) (scene : Scene σ) (log : ActivityLog) :
    Bound (opening setup scene log).orchestra where
  below h := absurd h List.not_mem_nil
  given h := absurd h List.not_mem_nil
  held h := absurd h List.not_mem_nil
  owned h := absurd h List.not_mem_nil
  live _ _ := rfl

variable [Hosted σ]

/-- **Handlers, handles and templates fit together after every beat.** -/
theorem bound_play {e : Ensemble σ} (h : Bound e.orchestra) {b : Beat σ} (hb : b.InRuntime) :
    Bound (e.play b).orchestra := by
  cases b with
  | call | fire => exact h
  | cancel | outside => exact h.steady ⟨rfl, rfl, rfl⟩
  | turn i s =>
    cases hi : e.rest? i with
    | none =>
      rw [play_turn_of_none hi]
      exact h
    | some t =>
      rw [orchestra_turn hi]
      exact h.course (course e.orchestra t s)
  | letGo i =>
    simp only [play]
    split
    · exact h
    · split
      · exact h
      · exact h.steady (.letGo _ _)
  | loadText key text bound =>
    obtain rfl : bound = true := hb
    exact h.loadText key text
  | invalidate key => exact h.steady (.invalidate _ _)
  | clearCache => exact h.steady (.clearCache _)

theorem bound_plays {e : Ensemble σ} (h : Bound e.orchestra) {beats : List (Beat σ)}
    (hb : ∀ b ∈ beats, b.InRuntime) : Bound (e.plays beats).orchestra :=
  List.foldlRecOn (motive := fun e => Bound e.orchestra) beats play h
    fun _ he b hmem => bound_play he (hb b hmem)

/-! ### After a shutdown -/

/-- Only a turn that shuts an orchestra down goes on to let go of what it holds. -/
theorem shutDown_of_closing {o : Orchestra σ} {t : Errand} {s : Signal} {turn : Turn σ}
    (hc : Course o t s turn) (h : turn.errand = .closing) :
    t = .closing ∨ turn.orchestra.shutDown = true := by
  cases hc with
  | unmoved => exact .inl h
  | shutsDown => exact .inr rfl
  | notes _ ht' =>
    obtain rfl := h
    exact ht'.elim
  | _ => cases h

/-- What begins with a beat is not about to let go of anything. -/
theorem rest?_play_ne_closing {e : Ensemble σ} {i : Nat} (h : e.rest? i = none) (b : Beat σ) :
    (e.play b).rest? i ≠ some .closing := by
  intro hi
  rcases begun_of_play h hi with ⟨c, hc⟩ | ⟨f, hf⟩
  · cases c <;> cases hc
  · cases hf

/-- An orchestra that is about to let go of what it holds has been shut down. -/
def Refusing (e : Ensemble σ) : Prop :=
  ∀ i, e.rest? i = some .closing → e.orchestra.shutDown = true

theorem refusing_play {e : Ensemble σ} (h : Refusing e) (b : Beat σ) : Refusing (e.play b) := by
  intro i hi
  cases hrest : e.rest? i with
  | none => exact absurd hi (rest?_play_ne_closing hrest b)
  | some t =>
    rcases rest?_play hrest b with h' | ⟨s, rfl, h'⟩ | ⟨-, -, h'⟩
    · obtain rfl := Option.some.inj (h'.symm.trans hi)
      exact (e.grows_play b).shutDown (h i hrest)
    · rcases shutDown_of_closing (course e.orchestra t s) (Option.some.inj (h'.symm.trans hi))
        with rfl | hs
      · exact (e.grows_play _).shutDown (h i hrest)
      · rw [orchestra_turn hrest]
        exact hs
    · cases h'.symm.trans hi

theorem refusing_plays {e : Ensemble σ} (h : Refusing e) (beats : List (Beat σ)) :
    Refusing (e.plays beats) :=
  List.foldlRecOn beats play h fun _ he b _ => refusing_play he b

/-- No template comes to an orchestra that has been shut down. -/
theorem shut_play {e : Ensemble σ} (h : Shut e.orchestra) (b : Beat σ) :
    Shut (e.play b).orchestra := by
  refine ⟨(e.grows_play b).shutDown h.shutDown, fun key => ?_⟩
  cases e.keeps key b with
  | lessens hl =>
    cases hl with
    | same _ hl => rw [hl, h.loaded key]
    | dropped _ hl => exact hl.elim (·.trans (h.loaded key)) id
  | built _ _ _ hs => cases h.shutDown.symm.trans hs
  | given hb =>
    subst hb
    simp only [play, Orchestra.loadText, h.shutDown, if_true]
    exact h.loaded key
  | rebuilt _ _ _ _ _ hl => rw [hl, h.loaded key]

theorem shut_plays {e : Ensemble σ} (h : Shut e.orchestra) (beats : List (Beat σ)) :
    Shut (e.plays beats).orchestra :=
  List.foldlRecOn (motive := fun e => Shut e.orchestra) beats play h
    fun _ he b _ => shut_play he b

/-- The turn that carries a shutdown through. -/
theorem shut_closing {e : Ensemble σ} (h : Refusing e) {i : Nat} (hi : e.rest? i = some .closing) :
    Shut (e.play (.turn i .go)).orchestra := by
  refine ⟨(e.grows_play _).shutDown (h i hi), fun key => ?_⟩
  rw [orchestra_turn hi]
  rfl

/-- **What is bound for a key are the events of its kept template, one by one.** Nothing is bound
for a key of which no template is kept; and once a shutdown has been carried through, nothing is
bound at all. -/
theorem live_eq_events (setup : Setup σ) (scene : Scene σ) (log : ActivityLog)
    (beats : List (Beat σ)) (hb : ∀ b ∈ beats, b.InRuntime) :
    let o := ((opening setup scene log).plays beats).orchestra
    (∀ key event, o.live key event =
      match o.loaded.get? key with
      | some l => (l.template.events.filter (·.event = event)).map fun e => ⟨key, e.action⟩
      | none => []) ∧
    ∀ before i after, beats = before ++ .turn i .go :: after →
      ((opening setup scene log).plays before).rest? i = some .closing →
      ∀ event, o.subscriptions.count event = 0 := by
  intro o
  have hbound : Bound o := bound_plays (bound_opening setup scene log) hb
  refine ⟨fun key event => ?_, ?_⟩
  · rw [hbound.live, Orchestra.events]
    cases o.loaded.get? key <;> rfl
  · rintro before i after rfl hi event
    have hrefusing : Refusing ((opening setup scene log).plays before) :=
      refusing_plays (fun _ hj => by simp [opening, rest?] at hj) before
    have hshut : Shut o := by
      have hafter := shut_plays (shut_closing hrefusing hi) after
      rwa [← plays_cons, ← plays_append] at hafter
    rw [Subscriptions.count, hbound.under_of_shut hshut event]
    rfl

/-- A text is given whose template binds an event, and the orchestra is shut down. -/
theorem live_eq_events_bare :
    let text :=
      "name: a\nbootstrap: a\ncomponents: []\nevents: [\x7bevent: reset, action: clear\x7d]"
    let given : List (Beat Bridge) := [.loadText "k" text true]
    let closed := given ++ [.call .shutDown, .turn 0 .go, .turn 0 .go]
    (bare.plays given).orchestra.live "k" "reset" = [⟨"k", "clear"⟩] ∧
      (bare.plays closed).orchestra.subscriptions.count "reset" = 0 := by
  intro text given closed
  have hgiven : ∀ b ∈ given, b.InRuntime := by simp [given, Beat.InRuntime]
  have hclosed : ∀ b ∈ closed, b.InRuntime := by simp [closed, given, Beat.InRuntime]
  have hbare : opening bare.orchestra.setup bare.orchestra.scene bare.orchestra.log = bare := rfl
  obtain ⟨hlive, -⟩ := live_eq_events bare.orchestra.setup bare.orchestra.scene
    bare.orchestra.log given hgiven
  obtain ⟨-, hcount⟩ := live_eq_events bare.orchestra.setup bare.orchestra.scene
    bare.orchestra.log closed hclosed
  rw [hbare] at hlive hcount
  constructor
  · rw [hlive]
    decide +kernel
  · refine hcount (given ++ [.call .shutDown, .turn 0 .go]) 0 [] (by simp [closed]) ?_ "reset"
    have hs : (bare.plays given).orchestra.shutDown = false := by decide +kernel
    have hi : ((bare.plays given).play (.call .shutDown)).rest? 0 = some .shutDown :=
      rest?_call _ .shutDown
    rw [plays_append, plays_cons, plays_cons, plays_nil, rest?_turn hi, if_pos (lt_of_rest? hi),
      if_pos rfl]
    simp [Errand.turn, play, hs]

end Ensemble

end Orchestra

end LivePanel
