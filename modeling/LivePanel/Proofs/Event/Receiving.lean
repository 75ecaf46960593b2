import LivePanel.Proofs.Event.Nesting

/-!
# What receivers get

Listeners hear an event while its emission is under way, and so before what they emit themselves in
answer. Receivers get an event when its emission is over, and so after that. `Happens` is the next
thing that happens on a bus: a move of the thread that emits, or something that is done from outside
while no emission is under way. It tells where an emission is accepted, dropped or completed, so
that what happens from one moment to another leaves a list of such junctures (`Unfolds`). A receiver
is opened at any moment, also while a listener is at work, and is read at any moment (`Attends`).

## What is proved

* `Open.happens`: the junctures are nested as brackets are. What is completed is the innermost of
  the emissions under way.
* `Happens.published`, `Unfolds.published`: what is published are the events whose emissions are
  completed, in the order in which they are.
* `Abreast.read`, `Abreast.drain`: a receiver that does not lag reads on where it was.
* `unfolds_emission`, `unfolds_run`: `Scene.emit` and whole programs are things that happen.
* `received_in_order_of_completion`: what all of this says of a receiver that never lags.
-/

namespace LivePanel

variable {σ : Type}

/-! ### Junctures -/

/-- What becomes of an emission. -/
inductive Juncture where
  | accepted (e : Event)
  | dropped (e : Event)
  | completed (e : Event)
deriving DecidableEq

/-- The event whose emission is accepted. -/
def Juncture.accepted? : Juncture → Option Event
  | accepted e => some e
  | _ => none

/-- The event whose emission is completed. -/
def Juncture.completed? : Juncture → Option Event
  | completed e => some e
  | _ => none

/-- The events whose emissions are accepted, in this order. -/
def acceptances (js : List Juncture) : List Event := js.filterMap Juncture.accepted?

/-- The events whose emissions are completed, in this order. -/
def completions (js : List Juncture) : List Event := js.filterMap Juncture.completed?

section

variable (e : Event) (js js' : List Juncture)

@[simp] theorem acceptances_nil : acceptances [] = [] := rfl
@[simp] theorem acceptances_accepted :
    acceptances (.accepted e :: js) = e :: acceptances js := rfl
@[simp] theorem acceptances_dropped : acceptances (.dropped e :: js) = acceptances js := rfl
@[simp] theorem acceptances_completed : acceptances (.completed e :: js) = acceptances js := rfl
@[simp] theorem acceptances_append :
    acceptances (js ++ js') = acceptances js ++ acceptances js' := List.filterMap_append
@[simp] theorem completions_nil : completions [] = [] := rfl
@[simp] theorem completions_accepted : completions (.accepted e :: js) = completions js := rfl
@[simp] theorem completions_dropped : completions (.dropped e :: js) = completions js := rfl
@[simp] theorem completions_completed :
    completions (.completed e :: js) = e :: completions js := rfl
@[simp] theorem completions_append :
    completions (js ++ js') = completions js ++ completions js' := List.filterMap_append

end

/-- Each emission that is accepted is completed, after all that are accepted in between. -/
inductive Nested : List Juncture → Prop where
  | nil : Nested []
  | dropped {e : Event} {js : List Juncture} : Nested js → Nested (.dropped e :: js)
  | emission {e : Event} {inside js : List Juncture} :
      Nested inside → Nested js → Nested (.accepted e :: (inside ++ .completed e :: js))

theorem Nested.append {js js' : List Juncture} (h : Nested js) (h' : Nested js') :
    Nested (js ++ js') := by
  induction h with
  | nil => exact h'
  | dropped _ ih => exact .dropped ih
  | emission hinside _ _ ih =>
    rw [List.cons_append, List.append_assoc, List.cons_append]
    exact .emission hinside ih

/-- Each emission that is accepted is completed once, and no other is. -/
theorem Nested.perm {js : List Juncture} (h : Nested js) :
    (acceptances js).Perm (completions js) := by
  induction h with
  | nil => exact .nil
  | dropped _ ih => exact ih
  | @emission e inside js _ _ ihinside ih =>
    simp only [acceptances_accepted, acceptances_append, acceptances_completed,
      completions_accepted, completions_append, completions_completed]
    exact ((ihinside.append ih).cons e).trans List.perm_middle.symm

/-- Emissions of the events `under` are under way, the innermost first, where those of `base` were
at first: all others are completed. -/
inductive Open (base : List Event) : List Event → List Juncture → Prop where
  | nested {js : List Juncture} : Nested js → Open base base js
  | inside {e : Event} {under : List Event} {front js : List Juncture} :
      Open base under front → Nested js → Open base (e :: under) (front ++ .accepted e :: js)

namespace Open

variable {base under : List Event} {js js' : List Juncture} {e : Event}

theorem append (h : Open base under js) (h' : Nested js') : Open base under (js ++ js') := by
  cases h with
  | nested h => exact .nested (h.append h')
  | inside hfront h =>
    rw [List.append_assoc, List.cons_append]
    exact .inside hfront (h.append h')

theorem length_le (h : Open base under js) : base.length ≤ under.length := by
  induction h with
  | nested => exact Nat.le_refl _
  | inside _ _ ih => exact Nat.le_succ_of_le ih

/-- Where no more emissions are under way than at first, all that were accepted are completed. -/
theorem nested_of_length_le (h : Open base under js) (hlength : under.length ≤ base.length) :
    under = base ∧ Nested js := by
  cases h with
  | nested h => exact ⟨rfl, h⟩
  | inside hfront _ =>
    have hle := hfront.length_le
    simp only [List.length_cons] at hlength
    omega

/-- Where more are under way than at first, the innermost was accepted with whole emissions only
behind it. -/
theorem exists_accepted (h : Open base (e :: under) js) (hlength : base.length ≤ under.length) :
    ∃ front inside, js = front ++ .accepted e :: inside ∧ Open base under front ∧
      Nested inside := by
  cases h with
  | nested =>
    simp only [List.length_cons] at hlength
    omega
  | inside hfront hinside => exact ⟨_, _, rfl, hfront, hinside⟩

/-- The innermost emission is completed. -/
theorem completed (h : Open base (e :: under) js) (hlength : base.length ≤ under.length) :
    Open base under (js ++ [.completed e]) := by
  obtain ⟨front, inside, rfl, hfront, hinside⟩ := h.exists_accepted hlength
  rw [List.append_assoc, List.cons_append]
  exact hfront.append (.emission hinside .nil)

end Open

/-! ### What happens on a bus -/

namespace Moment

/-- The events of the emissions under way, the innermost first. -/
def sounding : Moment σ → List Event
  | attempts _ outer _ => outer.map (·.now.event)
  | delivers now outer _ => now.event :: outer.map (·.now.event)
  | works _ now outer _ => now.event :: outer.map (·.now.event)
  | answers _ outer _ => outer.map (·.now.event)

theorem length_sounding (m : Moment σ) : m.sounding.length = m.underWay := by
  cases m <;> simp [sounding, underWay]

/-- What becomes of an emission with the next thing that the thread does. -/
def juncture? : Moment σ → Option Juncture
  | attempts e _ s => some (if s.bus.active < s.bus.maxDepth then .accepted e else .dropped e)
  | delivers ⟨e, _, []⟩ _ _ => some (.completed e)
  | _ => none

/-- The same moment with another world. -/
def stir (f : σ → σ) : Moment σ → Moment σ
  | attempts e outer s => attempts e outer { s with world := f s.world }
  | delivers now outer s => delivers now outer { s with world := f s.world }
  | works r now outer s => works r now outer { s with world := f s.world }
  | answers n outer s => answers n outer { s with world := f s.world }

section

variable (f : σ → σ) (m : Moment σ)

@[simp] theorem bus_stir : (m.stir f).scene.bus = m.scene.bus := by cases m <;> rfl

@[simp] theorem sounding_stir : (m.stir f).sounding = m.sounding := by cases m <;> rfl

@[simp] theorem underWay_stir : (m.stir f).underWay = m.underWay := by cases m <;> rfl

end

/-- The next thing that happens, with what becomes of an emission. -/
inductive Happens : Moment σ → Option Juncture → Moment σ → Prop where
  | moves {m m' : Moment σ} (h : Moves m m') : Happens m m.juncture? m'
  /-- The world may change at any moment: what listeners do next may depend on what receivers
  got. -/
  | stirs {m : Moment σ} (f : σ → σ) : Happens m none (m.stir f)
  /-- While no emission is under way, one is started from outside. -/
  | emits {n : Nat} {s : Scene σ} (e : Event) : Happens (answers n [] s) none (attempts e [] s)
  | subscribes {n : Nat} {s : Scene σ} (pattern : String) (hear : Event → Reaction σ) :
      Happens (answers n [] s) none
        (answers n [] { s with bus := (s.bus.subscribe pattern hear).2 })
  | unsubscribes {n : Nat} {s : Scene σ} (listener : Nat) :
      Happens (answers n [] s) none
        (answers n [] { s with bus := (s.bus.unsubscribe listener).2 })
  | clears {n : Nat} {s : Scene σ} : Happens (answers n [] s) none (answers n [] (s.mapBus .clear))

variable {m m' : Moment σ} {j : Option Juncture}

/-- **What is published are the events whose emissions are completed.** -/
theorem Happens.published (h : Happens m j m') :
    m'.scene.bus.published = m.scene.bus.published ++ completions j.toList := by
  cases h with
  | moves h =>
    cases h with
    | drops h => simp [scene, juncture?, Nat.not_lt.2 h]
    | starts h => simp [scene, juncture?, h, Scene.mapBus]
    | _ =>
      simp [scene, juncture?, Scene.mapBus, Bus.publish, Bus.subscribe, Bus.unsubscribe, Bus.clear]
  | stirs => simp
  | _ => simp [scene, Scene.mapBus, Bus.subscribe, Bus.unsubscribe, Bus.clear]

theorem Happens.capacity (h : Happens m j m') :
    m'.scene.bus.capacity = m.scene.bus.capacity := by
  cases h with
  | moves h => cases h <;> rfl
  | stirs => simp
  | _ => rfl

/-- Whatever happens, the counter tells how many emissions are under way. -/
theorem Accounted.happens {d : Nat} (h : Accounted d m) (hnext : Happens m j m') :
    Accounted d m' := by
  cases hnext with
  | moves hmove => exact h.moves hmove
  | stirs f =>
    obtain ⟨hactive, hmax, hle⟩ := h
    exact ⟨by simpa using hactive, by simpa using hmax, by simpa using hle⟩
  | _ => exact ⟨h.active, h.maxDepth, h.bounded⟩

end Moment

/-- **What is completed is the innermost of the emissions under way.** This is so until one of those
is completed that were under way at first. -/
theorem Open.happens {base : List Event} {js : List Juncture} {m m' : Moment σ}
    {j : Option Juncture} (h : Open base m.sounding js) (hnext : m.Happens j m')
    (hbase : base.length ≤ m'.underWay) : Open base m'.sounding (js ++ j.toList) := by
  cases hnext with
  | moves hmove =>
    cases hmove with
    | drops hfull =>
      simp only [Moment.juncture?, if_neg (Nat.not_lt.2 hfull)]
      exact h.append (.dropped .nil)
    | starts hroom =>
      simp only [Moment.juncture?, if_pos hroom]
      exact .inside h .nil
    | ends => exact h.completed (by simpa [Moment.underWay] using hbase)
    | _ => simpa [Moment.juncture?, Moment.sounding] using h
  | stirs f => simpa using h
  | _ => simpa [Moment.sounding] using h

namespace Moment

variable {m m' : Moment σ} {j : Option Juncture}

/-- What happens from one moment to another, with what becomes of the emissions. -/
inductive Unfolds (m : Moment σ) : List Juncture → Moment σ → Prop where
  | refl : Unfolds m [] m
  | tail {js : List Juncture} {j : Option Juncture} {m₁ m' : Moment σ} :
      Unfolds m js m₁ → Happens m₁ j m' → Unfolds m (js ++ j.toList) m'

namespace Unfolds

variable {js js' : List Juncture}

theorem single (h : Happens m j m') : Unfolds m j.toList m' := .tail .refl h

theorem trans {m₁ : Moment σ} (h : Unfolds m js m₁) (h' : Unfolds m₁ js' m') :
    Unfolds m (js ++ js') m' := by
  induction h' with
  | refl => simpa using h
  | tail _ hnext ih =>
    rw [← List.append_assoc]
    exact ih.tail hnext

/-- **They are published in the order in which they are completed.** -/
theorem published (h : Unfolds m js m') :
    m'.scene.bus.published = m.scene.bus.published ++ completions js := by
  induction h with
  | refl => simp
  | tail _ hnext ih => simp [hnext.published, ih]

theorem accounted {d : Nat} (h : Unfolds m js m') (hm : Accounted d m) : Accounted d m' := by
  induction h with
  | refl => exact hm
  | tail _ hnext ih => exact ih.happens hnext

/-- If no emission was under way at first, all are completed but those that are under way now. -/
theorem opened (h : Unfolds m js m') (hm : m.sounding = []) : Open [] m'.sounding js := by
  induction h with
  | refl =>
    rw [hm]
    exact .nested .nil
  | tail _ hnext ih => exact ih.happens hnext (Nat.zero_le _)

end Unfolds

theorem sounding_of_completed {e : Event} (h : m.juncture? = some (.completed e)) :
    ∃ under, m.sounding = e :: under := by
  cases m with
  | attempts e' outer s =>
    simp only [juncture?] at h
    split at h <;> simp at h
  | delivers now outer s =>
    obtain ⟨e', n, due⟩ := now
    cases due with
    | nil =>
      simp only [juncture?, Option.some.injEq, Juncture.completed.injEq] at h
      exact ⟨outer.map (·.now.event), by simp [sounding, h]⟩
    | cons => simp [juncture?] at h
  | works | answers => simp [juncture?] at h

/-- **Between the start of an emission and its end all emissions are whole.** -/
theorem Unfolds.exists_accepted {front rest js : List Juncture} {e : Event}
    (h : Unfolds m js m') (hm : m.sounding = []) (hjs : js = front ++ .completed e :: rest) :
    ∃ earlier inside, front = earlier ++ .accepted e :: inside ∧ Nested inside := by
  induction h generalizing rest with
  | refl => simp at hjs
  | @tail js j m₁ m' hbefore hnext ih =>
    rcases List.eq_nil_or_concat rest with rfl | ⟨rest, last, rfl⟩
    · cases j with
      | none => exact ih (by simpa using hjs)
      | some x =>
        obtain ⟨rfl, hx⟩ := List.append_inj' hjs rfl
        obtain rfl : x = .completed e := by simpa using hx
        obtain ⟨under, hunder⟩ : ∃ under, m₁.sounding = e :: under := by
          generalize hj : some (Juncture.completed e) = j at hnext
          cases hnext with
          | moves => exact sounding_of_completed hj.symm
          | _ => cases hj
        have hopen := hbefore.opened hm
        rw [hunder] at hopen
        obtain ⟨earlier, inside, hfront, -, hinside⟩ := hopen.exists_accepted (Nat.zero_le _)
        exact ⟨earlier, inside, hfront, hinside⟩
    · cases j with
      | none => exact ih (by simpa using hjs)
      | some x =>
        rw [List.concat_eq_append, ← List.cons_append, ← List.append_assoc] at hjs
        exact ih (List.append_inj' hjs rfl).1

/-! ### Emissions and programs unfold -/

/-- What a thread does above the emissions that are under way leaves these as they are. -/
theorem RunsAbove.unfolds {d : Nat} (h : RunsAbove d m m') (hd : m.underWay = d + 1) :
    ∃ js, Unfolds m js m' ∧ Open m.sounding m'.sounding js := by
  induction h with
  | refl => exact ⟨[], .refl, .nested .nil⟩
  | @tail m₁ m₂ _ hmove ih =>
    obtain ⟨js, hunfolds, hopen⟩ := ih
    have hbase : m.sounding.length ≤ m₂.underWay := by
      rw [length_sounding, hd]
      exact hmove.2
    exact ⟨_, hunfolds.tail (.moves hmove.1), hopen.happens (.moves hmove.1) hbase⟩

/-- **An emission for which there is room is accepted, and completed after whole emissions that its
listeners start; one for which there is none is dropped.** -/
theorem unfolds_emission (e : Event) (outer : List (Waiting σ)) (s : Scene σ) :
    ∃ js, Unfolds (attempts e outer s) js (answers (s.emit e).1 outer (s.emit e).2) ∧
      if s.bus.active < s.bus.maxDepth then
        ∃ inside, Nested inside ∧ js = .accepted e :: (inside ++ [.completed e])
      else js = [.dropped e] := by
  obtain ⟨m, habove, hlast⟩ := comes_to_answer _ e outer s rfl
  change Moves m (answers (s.emit e).1 outer (s.emit e).2) at hlast
  generalize (s.emit e).1 = n, (s.emit e).2 = s' at hlast
  rcases Relation.ReflTransGen.cases_head habove with rfl | ⟨m₁, ⟨hfirst, hunder⟩, hrest⟩
  · refine ⟨_, .single (.moves hlast), ?_⟩
    cases hlast with
    | drops hfull => simp [juncture?, Nat.not_lt.2 hfull]
  · cases hfirst with
    | drops => exact absurd hunder (Nat.lt_irrefl _)
    | starts hroom =>
      obtain ⟨js, hunfolds, hopen⟩ := RunsAbove.unfolds hrest rfl
      have hall := (Unfolds.single (.moves (.starts hroom))).trans
        (hunfolds.trans (.single (.moves hlast)))
      have hlength := hopen.length_le
      cases hlast with
      | drops =>
        simp only [sounding, List.length_cons, List.length_map] at hlength
        omega
      | ends =>
        -- no more than the emission itself is under way, so that all inside of it are whole
        obtain ⟨hsame, hinside⟩ := hopen.nested_of_length_le (by simp [sounding])
        have hevent : _ = e := (List.cons.inj hsame).1
        refine ⟨_, hall, ?_⟩
        rw [if_pos hroom]
        exact ⟨js, hinside, by simpa [juncture?, hroom] using hevent⟩

/-- **A whole program unfolds that is run from outside.** -/
theorem unfolds_run (r : Reaction σ) (n : Nat) (s : Scene σ) :
    ∃ n' js, Nested js ∧
      Unfolds (answers n [] s) js (answers n' [] (Scene.run Scene.emit r s)) := by
  induction r generalizing n s with
  | done => exact ⟨n, [], .nil, .refl⟩
  | panic => exact ⟨n, [], .nil, .refl⟩
  | look next ih => exact ih s.world n s
  | store world next ih =>
    obtain ⟨n', js, hnested, hrest⟩ := ih n { s with world }
    exact ⟨n', js, hnested, (Unfolds.single (.stirs fun _ => world)).trans hrest⟩
  | subscribe pattern hear next _ ih =>
    obtain ⟨n', js, hnested, hrest⟩ := ih _ n { s with bus := (s.bus.subscribe pattern hear).2 }
    exact ⟨n', js, hnested, (Unfolds.single (.subscribes pattern hear)).trans hrest⟩
  | unsubscribe listener next ih =>
    obtain ⟨n', js, hnested, hrest⟩ := ih _ n { s with bus := (s.bus.unsubscribe listener).2 }
    exact ⟨n', js, hnested, (Unfolds.single (.unsubscribes listener)).trans hrest⟩
  | clear next ih =>
    obtain ⟨n', js, hnested, hrest⟩ := ih n (s.mapBus .clear)
    exact ⟨n', js, hnested, (Unfolds.single .clears).trans hrest⟩
  | emit e next ih =>
    obtain ⟨js, hemission, hjs⟩ := unfolds_emission e [] s
    obtain ⟨n', js', hnested, hrest⟩ := ih (s.emit e).1 (s.emit e).1 (s.emit e).2
    refine ⟨n', js ++ js', ?_, (Unfolds.single (.emits e)).trans (hemission.trans hrest)⟩
    split at hjs
    · obtain ⟨inside, hinside, rfl⟩ := hjs
      exact (Nested.emission hinside .nil).append hnested
    · rw [hjs]
      exact .dropped hnested

end Moment

/-! ### Receivers -/

namespace Receiver

variable (r : Receiver)

theorem le_roundUp (n : Nat) : n ≤ roundUp n := by
  unfold roundUp
  split
  · assumption
  · have hlt : n - 1 < 2 ^ ((n - 1).log2 + 1) := Nat.lt_log2_self
    show n ≤ 2 ^ ((n - 1).log2 + 1)
    omega

/-- How many published events a receiver is yet to get past. -/
def waiting (b : Bus σ) : Nat := b.published.length - r.position

/-- What `next?` finds is the first event that is wanted, and it gets past all up to there. -/
theorem next?_eq (position : Nat) (es : List Event) :
    (r.next? position es).1 = (es.filter r.wants).head? ∧
      ∃ passed left, es = passed ++ left ∧ (r.next? position es).2 = position + passed.length ∧
        passed.filter r.wants = (r.next? position es).1.toList ∧
        (passed = [] → es = []) := by
  induction es generalizing position with
  | nil => exact ⟨rfl, [], [], rfl, rfl, rfl, fun _ => rfl⟩
  | cons e es ih =>
    by_cases hwants : r.wants e = true
    · refine ⟨by simp [next?, hwants], [e], es, rfl, ?_, ?_, by simp⟩
      · simp [next?, hwants]
      · simp [next?, hwants]
    · obtain ⟨hfound, passed, left, hes, hposition, hpassed, -⟩ := ih (position + 1)
      refine ⟨by simp [next?, hwants, hfound], e :: passed, left, by simp [hes], ?_, ?_, by simp⟩
      · simp [next?, hwants, hposition]
        omega
      · simp [next?, hwants, hpassed]

end Receiver

/-- A receiver is past the events `passed` that were published since it was opened, when there were
those of `old`, and not past the others, which are all still there. -/
structure Abreast (old passed left : List Event) (b : Bus σ) (r : Receiver) : Prop where
  published : b.published = old ++ passed ++ left
  position : r.position = (old ++ passed).length
  kept : left.length ≤ Receiver.roundUp b.capacity

namespace Abreast

variable {old passed left : List Event} {b : Bus σ} {r : Receiver}

/-- A receiver that does not lag reads on where it is. -/
theorem start_eq (h : Abreast old passed left b r) : r.start b = r.position := by
  have hkept := h.kept
  unfold Receiver.start
  rw [h.position, h.published]
  simp only [List.length_append]
  omega

theorem read_eq_next? (h : Abreast old passed left b r) :
    r.read b =
      ((r.next? r.position left).1, { r with position := (r.next? r.position left).2 }) := by
  have hdrop : b.published.drop r.position = left := by
    rw [h.position, h.published, List.drop_left]
  simp only [Receiver.read, h.start_eq, hdrop]

/-- **A receiver that does not lag gets the first event that it wants of those left.** -/
theorem read_eq_head? (h : Abreast old passed left b r) :
    (r.read b).1 = (left.filter r.wants).head? := by
  rw [h.read_eq_next?]
  exact (r.next?_eq _ left).1

/-- **And it gets past the others up to there.** -/
theorem read (h : Abreast old passed left b r) :
    ∃ more rest, left = more ++ rest ∧ Abreast old (passed ++ more) rest b (r.read b).2 ∧
      more.filter r.wants = (r.read b).1.toList ∧ (more = [] → left = []) := by
  obtain ⟨-, more, rest, hleft, hposition, hmore, hnil⟩ := r.next?_eq r.position left
  rw [h.read_eq_next?]
  refine ⟨more, rest, hleft, ⟨?_, ?_, ?_⟩, hmore, hnil⟩
  · rw [h.published, hleft]
    simp
  · show (r.next? r.position left).2 = _
    rw [hposition, h.position]
    simp [Nat.add_assoc]
  · have hkept := h.kept
    rw [hleft, List.length_append] at hkept
    omega

theorem readAll (h : Abreast old passed left b r) {fuel : Nat} (hfuel : left.length < fuel) :
    (Receiver.readAll b fuel r).1 = left.filter r.wants := by
  induction fuel generalizing passed left r with
  | zero => omega
  | succ fuel ih =>
    obtain ⟨more, rest, hleft, hrest, hmore, hnil⟩ := h.read
    have hread := h.read_eq_head?
    unfold Receiver.readAll
    obtain ⟨found, r', hr⟩ : ∃ found r', r.read b = (found, r') := ⟨_, _, rfl⟩
    rw [hr] at hread hrest hmore ⊢
    cases found with
    | none => exact (List.head?_eq_none_iff.1 hread.symm).symm
    | some e =>
      have hne : more ≠ [] := by
        rintro rfl
        simp at hmore
      have hlength := List.length_pos_iff.2 hne
      have hwants : r'.wants = r.wants := by
        have hpattern : r'.pattern = r.pattern := by
          rw [← show (r.read b).2 = r' by rw [hr]]
          rfl
        funext e
        simp [Receiver.wants, hpattern]
      rw [hleft, List.length_append] at hfuel
      simp only [ih hrest (by omega), hwants]
      rw [hleft, List.filter_append, hmore]
      rfl

/-- **All that a receiver is going to get are the events that it wants of those left.** -/
theorem drain (h : Abreast old passed left b r) : (r.drain b).1 = left.filter r.wants := by
  refine h.readAll ?_
  rw [h.published]
  simp only [List.length_append]
  omega

end Abreast

/-! ### A receiver through all that happens -/

namespace Moment

/-- A receiver is opened at the moment `m` and never lags: whatever happens, no more events are
waiting for it than the channel holds. With what becomes of the emissions since then, and what it
got. -/
inductive Attends (m : Moment σ) (pattern : Option String) :
    List Juncture → List Event → Moment σ → Receiver → Prop where
  | opens : Attends m pattern [] [] m (.ofBus m.scene.bus pattern)
  | goesOn {js : List Juncture} {j : Option Juncture} {got : List Event} {m₁ m' : Moment σ}
      {r : Receiver} :
      Attends m pattern js got m₁ r → Happens m₁ j m' →
        r.waiting m'.scene.bus ≤ m'.scene.bus.capacity →
        Attends m pattern (js ++ j.toList) got m' r
  /-- It is read, and there may be nothing for it. -/
  | reads {js : List Juncture} {got : List Event} {m' : Moment σ} {r : Receiver} :
      Attends m pattern js got m' r →
        Attends m pattern js (got ++ (r.read m'.scene.bus).1.toList) m' (r.read m'.scene.bus).2

namespace Attends

variable {m m' m'' : Moment σ} {pattern : Option String} {js js' : List Juncture}
  {got : List Event} {r : Receiver}

theorem unfolds (h : Attends m pattern js got m' r) : Unfolds m js m' := by
  induction h with
  | opens => exact .refl
  | goesOn _ hnext _ ih => exact ih.tail hnext
  | reads _ ih => exact ih

theorem pattern_eq (h : Attends m pattern js got m' r) : r.pattern = pattern := by
  induction h with
  | opens => rfl
  | goesOn _ _ _ ih => exact ih
  | reads _ ih => exact ih

/-- What a receiver got is what it wants of the events that it is past. -/
theorem abreast (h : Attends m pattern js got m' r) :
    ∃ passed left, completions js = passed ++ left ∧
      Abreast m.scene.bus.published passed left m'.scene.bus r ∧ got = passed.filter r.wants := by
  induction h with
  | opens =>
    exact ⟨[], [], rfl, ⟨by simp, by simp [Receiver.ofBus], Nat.zero_le _⟩, rfl⟩
  | @goesOn js j got m₁ m' r _ hnext hlags ih =>
    obtain ⟨passed, left, hjs, habreast, hgot⟩ := ih
    have hpublished : m'.scene.bus.published =
        m.scene.bus.published ++ passed ++ (left ++ completions j.toList) := by
      rw [hnext.published, habreast.published, List.append_assoc _ left]
    refine ⟨passed, left ++ completions j.toList, by simp [hjs],
      ⟨hpublished, habreast.position, ?_⟩, hgot⟩
    have hwaiting : (left ++ completions j.toList).length = r.waiting m'.scene.bus := by
      unfold Receiver.waiting
      rw [hpublished, habreast.position]
      simp only [List.length_append]
      omega
    have hround := Receiver.le_roundUp m'.scene.bus.capacity
    omega
  | reads _ ih =>
    obtain ⟨passed, left, hjs, habreast, hgot⟩ := ih
    obtain ⟨more, rest, hleft, hread, hmore, -⟩ := habreast.read
    refine ⟨passed ++ more, rest, by simp [hjs, hleft], hread, ?_⟩
    rw [List.filter_append, hgot, ← hmore]
    rfl

/-- A receiver attends all that happens, if no more events are waiting for it in the end than the
channel holds. -/
theorem unfold (h : Attends m pattern js got m' r) (hrest : Unfolds m' js' m'')
    (hlags : r.waiting m''.scene.bus ≤ m''.scene.bus.capacity) :
    Attends m pattern (js ++ js') got m'' r := by
  induction hrest with
  | refl => simpa using h
  | tail _ hnext ih =>
    rw [← List.append_assoc]
    have hless := hlags
    unfold Receiver.waiting at hless
    rw [hnext.published, hnext.capacity, List.length_append] at hless
    exact (ih (by unfold Receiver.waiting; omega)).goesOn hnext hlags

end Attends

/-- **A receiver that never lags gets the events it wants whose emissions are completed after it was
opened, each of them once, in the order in which they are completed.** What it got so far, with what
it would get now, are all of them, and what it gets next is the first one that it did not get yet.

Between the start of an emission and its end there are whole emissions, so that what a listener
emits arrives before the event that the listener hears. Whatever happens that completes no emission,
such as a panic or `clear`, changes nothing of what the receiver is going to get. An emission that
is attempted goes on as `Scene.emit` says: it is accepted and completed if fewer emissions are under
way than may nest, and else it is dropped and never completed. -/
theorem received_in_order_of_completion {s : Scene σ} {n : Nat} {before after : List Juncture}
    {m m' : Moment σ} {pattern : Option String} {got : List Event} {r : Receiver}
    (hidle : s.bus.active = 0) (hbefore : Unfolds (.answers n [] s) before m)
    (hafter : Attends m pattern after got m' r) :
    let due := (completions after).filter fun e => pattern.all fun p => Event.covers p e.what.name
    got ++ (r.drain m'.scene.bus).1 = due ∧
    (r.read m'.scene.bus).1 = due[got.length]? ∧
    (∀ front e rest, before ++ after = front ++ .completed e :: rest →
      ∃ earlier inside, front = earlier ++ .accepted e :: inside ∧ Nested inside ∧
        (acceptances inside).Perm (completions inside)) ∧
    (∀ j m'', Happens m' j m'' → completions j.toList = [] →
      (r.drain m''.scene.bus).1 = (r.drain m'.scene.bus).1) ∧
    m'.underWay ≤ s.bus.maxDepth ∧
    ∀ e outer s', m' = .attempts e outer s' → ∃ js,
      Unfolds m' js (.answers (s'.emit e).1 outer (s'.emit e).2) ∧
      if m'.underWay < s.bus.maxDepth then
        ∃ inside, Nested inside ∧ js = .accepted e :: (inside ++ [.completed e])
      else js = [.dropped e] ∧ s'.emit e = (0, s') := by
  intro due
  obtain ⟨passed, left, hjs, habreast, hgot⟩ := hafter.abreast
  have hwants : r.wants = fun e => pattern.all fun p => Event.covers p e.what.name := by
    funext e
    rw [← hafter.pattern_eq, Receiver.wants]
    cases r.pattern <;> rfl
  have hdue : due = got ++ left.filter r.wants := by
    simp only [due]
    rw [← hwants, hjs, List.filter_append, hgot]
  have hall := hbefore.trans hafter.unfolds
  have hstart : Accounted s.bus.maxDepth (.answers n [] s) := ⟨hidle, rfl, Nat.zero_le _⟩
  have haccounted := hall.accounted hstart
  refine ⟨?_, ?_, fun front e rest hfront => ?_, fun j m'' hnext hnone => ?_,
    haccounted.bounded, ?_⟩
  · rw [habreast.drain, hdue]
  · rw [habreast.read_eq_head?, hdue, List.getElem?_append_right (Nat.le_refl _), Nat.sub_self,
      List.head?_eq_getElem?]
  · obtain ⟨earlier, inside, hearlier, hinside⟩ := hall.exists_accepted rfl hfront
    exact ⟨earlier, inside, hearlier, hinside, hinside.perm⟩
  · have hpublished := hnext.published
    rw [hnone, List.append_nil] at hpublished
    have hlater : Abreast m.scene.bus.published passed left m''.scene.bus r :=
      ⟨hpublished ▸ habreast.published, habreast.position, hnext.capacity ▸ habreast.kept⟩
    rw [hlater.drain, habreast.drain]
  · rintro e outer s' rfl
    obtain ⟨js, hunfolds, hfate⟩ := unfolds_emission e outer s'
    refine ⟨js, hunfolds, ?_⟩
    have hactive : s'.bus.active = _ := haccounted.active
    have hmax : s'.bus.maxDepth = s.bus.maxDepth := haccounted.maxDepth
    rw [hactive, hmax] at hfate
    split
    · rwa [if_pos ‹_›] at hfate
    · rw [if_neg ‹_›] at hfate
      exact ⟨hfate, Scene.emit_of_full e (by omega)⟩

/-- The bus of `Scene.feeding` after the cache was cleared, which led to its being cleared once more
inside of that. -/
def fed : Scene Nat :=
  Scene.run Scene.emit (.emit ⟨.cacheCleared 5, none⟩ fun _ => .done) Scene.feeding

/-- The same once more, and then all listeners are removed. -/
def fedUp : Scene Nat :=
  Scene.run Scene.emit (.emit ⟨.cacheCleared 7, none⟩ fun _ => .clear .done) fed

/-- A receiver that is opened in between gets the events of the second time only, the inner one
first. -/
theorem received_in_order_fed :
    Scene.feeding.bus.active = 0 ∧ ∃ before after m n r,
      Unfolds (.answers 0 [] Scene.feeding) before m ∧ m.scene = fed ∧
      Attends m (some "cache:*") after [⟨.cacheCleared 0, none⟩] (.answers n [] fedUp) r ∧
      ((completions after).filter fun e => (some "cache:*").all fun p =>
        Event.covers p e.what.name) = [⟨.cacheCleared 0, none⟩, ⟨.cacheCleared 7, none⟩] ∧
      (r.read fedUp.bus).1 = some ⟨.cacheCleared 7, none⟩ := by
  obtain ⟨n, before, -, hbefore⟩ := unfolds_run
    (.emit ⟨.cacheCleared 5, none⟩ fun _ => .done) 0 Scene.feeding
  obtain ⟨n', after, -, hunfolds⟩ := unfolds_run
    (.emit ⟨.cacheCleared 7, none⟩ fun _ => .clear .done) n fed
  let r := Receiver.ofBus fed.bus (some "cache:*")
  have hlags : r.waiting fedUp.bus ≤ fedUp.bus.capacity := by decide
  have hfirst : (r.read fedUp.bus).1 = some ⟨.cacheCleared 0, none⟩ := by decide
  have hlast : ((r.read fedUp.bus).2.drain fedUp.bus).1 = [⟨.cacheCleared 7, none⟩] := by decide
  have hattends : Attends (.answers n [] fed) (some "cache:*") after
      ([] ++ (r.read fedUp.bus).1.toList) (.answers n' [] fedUp) (r.read fedUp.bus).2 :=
    (Attends.opens.unfold hunfolds hlags).reads
  have hidle : Scene.feeding.bus.active = 0 := by decide
  obtain ⟨hdue, -⟩ := received_in_order_of_completion hidle hbefore hattends
  rw [hfirst] at hattends hdue
  exact ⟨hidle, before, after, _, n', _, hbefore, rfl, hattends,
    hdue.symm.trans (congrArg _ hlast), by decide⟩

end Moment

end LivePanel
