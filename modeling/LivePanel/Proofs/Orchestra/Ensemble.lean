import LivePanel.Proofs.Orchestra.Course

/-!
# Ensembles

An ensemble is an orchestra with all that it has been asked to do and that is still under way.
It goes on in beats: a new call, one turn of one task, or one of the operations that are done
in one go. Any task may have the next turn, and any signal may come, so the lists of beats
are all the orders in which the pieces of the calls can be played.

Nothing that is told to come before something else is left to chance: what a task does between
two pauses is one beat, and a task that is over stays in the ensemble with what came of it.

## What is proved

* `Ensemble.sound_plays`: flights have numbers of their own, and their generations are not ahead
  of those of their keys.
* `Ensemble.grows_plays`: what only grows in a turn grows in a run.
* `Ensemble.landing?_plays`: what a flight has brought home stays what it was.
* `Ensemble.Telling.append`: what the orchestra tells in the course of a run goes on from where the
  run has come to. Others use the bus as well (`Beat.isOutside`); what they tell is not told by the
  orchestra.
-/

namespace LivePanel.Orchestra

variable {σ : Type}

/-- What an orchestra is asked for that may have to wait. -/
inductive Call where
  | load (key : String)
  | reload (key : String)
  | notice (n : Watch.Notice)
  | dispatch (key action : String) (token : Option Nat)
  | watch (dir : String)
  | shutDown

/-- The errand of a call. -/
def Call.errand : Call → Errand
  | load key => .load key
  | reload key => .reload key
  | notice n => .notice n
  | dispatch key action token => .dispatch key action token
  | watch dir => .watch dir
  | shutDown => .shutDown

/-- An errand under way: as it began, and what is left of it. -/
structure Task where
  began : Errand
  rest : Errand

/-- The task of an errand that has not begun. -/
def Task.ofErrand (t : Errand) : Task := ⟨t, t⟩

/-- Nothing lets go of a flight, nor of what is over. -/
def Errand.isKept : Errand → Bool
  | .done _ => true
  | t => t.flight?.isSome

theorem Errand.isKept_of_flight? {t : Errand} {f : Flight} (h : t.flight? = some f) :
    t.isKept = true := by
  cases t <;> first | rfl | cases h

/-- What happens in one go. -/
inductive Beat (σ : Type) where
  /-- Something is asked for. -/
  | call (c : Call)
  /-- A task has a turn. -/
  | turn (i : Nat) (s : Signal)
  /-- A task is let go. -/
  | letGo (i : Nat)
  | loadText (key text : String) (bound : Bool)
  | invalidate (key : String)
  | clearCache
  /-- An event of the bridge starts the runs that are bound to it. -/
  | fire (event : String)
  /-- A token is cancelled. -/
  | cancel (token : Nat)
  /-- Others use the bus, the world and the store. -/
  | outside (scene : Scene σ) (store : State.Store) (left : Nat)

/-- Others use the bus, the world or the store. -/
def Beat.isOutside : Beat σ → Bool
  | .outside .. => true
  | _ => false

/-- An orchestra, with its tasks in the order in which they began. -/
structure Ensemble (σ : Type) where
  orchestra : Orchestra σ
  tasks : List Task

namespace Ensemble

/-- An ensemble that has not been asked for anything. -/
def opening (setup : Setup σ) (scene : Scene σ) (log : ActivityLog) : Ensemble σ :=
  ⟨{ setup, scene, log }, []⟩

/-- An ensemble without blocks, whose host is away and whose files have their paths for keys. -/
def bare : Ensemble Bridge :=
  opening { registry := [], keyOf? := some } ⟨Bus.empty, .detached {}⟩ (.ofCapacity 50)

/-- What is left of a task. -/
def rest? (e : Ensemble σ) (i : Nat) : Option Errand := e.tasks[i]?.map (·.rest)

/-- The flight that a task is. -/
def flightAt (e : Ensemble σ) (i : Nat) : Option Flight := (e.rest? i).bind Errand.flight?

/-- Begin tasks. -/
def begin (e : Ensemble σ) (ts : List Errand) : Ensemble σ :=
  { e with tasks := e.tasks ++ ts.map Task.ofErrand }

/-- Change the orchestra. -/
def withOrchestra (e : Ensemble σ) (o : Orchestra σ) : Ensemble σ := { e with orchestra := o }

/-- Put down what is left of a task. -/
def setRest (e : Ensemble σ) (i : Nat) (t : Errand) : Ensemble σ :=
  { e with tasks := e.tasks.modify i fun task => { task with rest := t } }

variable [Hosted σ]

/-- Play one beat. -/
def play (e : Ensemble σ) : Beat σ → Ensemble σ
  | .call c => e.begin [c.errand]
  | .turn i s =>
    match e.rest? i with
    | none => e
    | some t =>
      let turn := t.turn s e.orchestra
      ((e.withOrchestra turn.orchestra).setRest i turn.errand).begin turn.launched
  | .letGo i =>
    match e.rest? i with
    | none => e
    | some t =>
      if t.isKept then e
      else (e.withOrchestra (t.letGo e.orchestra)).setRest i (.done .nothing)
  | .loadText key text bound => e.withOrchestra (e.orchestra.loadText key text bound).2
  | .invalidate key => e.withOrchestra (e.orchestra.invalidate key).2
  | .clearCache => e.withOrchestra e.orchestra.clearCache.2
  | .fire event =>
    e.begin ((e.orchestra.fired event).map fun b => .dispatch b.key b.action none)
  | .cancel token =>
    e.withOrchestra { e.orchestra with cancelled := token :: e.orchestra.cancelled }
  | .outside scene store left => e.withOrchestra { e.orchestra with scene, store, left }

/-- Play beats one after the other. -/
def plays (e : Ensemble σ) (beats : List (Beat σ)) : Ensemble σ := beats.foldl play e

@[simp] theorem plays_nil (e : Ensemble σ) : e.plays [] = e := rfl

@[simp] theorem plays_cons (e : Ensemble σ) (b : Beat σ) (beats : List (Beat σ)) :
    e.plays (b :: beats) = (e.play b).plays beats := rfl

theorem plays_append (e : Ensemble σ) (beats beats' : List (Beat σ)) :
    e.plays (beats ++ beats') = (e.plays beats).plays beats' := List.foldl_append

/-- Each beat of a run is of a kind, in the ensemble in which it is played. -/
def Along (kind : Ensemble σ → Beat σ → Prop) : Ensemble σ → List (Beat σ) → Prop
  | _, [] => True
  | e, b :: beats => kind e b ∧ Along kind (e.play b) beats

theorem along_append (kind : Ensemble σ → Beat σ → Prop) (e : Ensemble σ)
    (beats beats' : List (Beat σ)) :
    Along kind e (beats ++ beats') ↔ Along kind e beats ∧ Along kind (e.plays beats) beats' := by
  induction beats generalizing e with
  | nil => simp [Along]
  | cons b beats ih => simp [Along, ih, and_assoc]

/-! ### The tasks after a beat -/

section

omit [Hosted σ]

variable (e : Ensemble σ) (i j : Nat) (t : Errand)

@[simp] theorem tasks_withOrchestra (o : Orchestra σ) : (e.withOrchestra o).tasks = e.tasks := rfl

@[simp] theorem rest?_withOrchestra (o : Orchestra σ) : (e.withOrchestra o).rest? = e.rest? := rfl

@[simp] theorem flightAt_withOrchestra (o : Orchestra σ) :
    (e.withOrchestra o).flightAt = e.flightAt := rfl

@[simp] theorem begin_nil : e.begin [] = e := by
  simp [begin]

@[simp] theorem orchestra_begin (ts : List Errand) : (e.begin ts).orchestra = e.orchestra := rfl

@[simp] theorem orchestra_setRest : (e.setRest i t).orchestra = e.orchestra := rfl

/-- Tasks that are begun come after those that there are. -/
theorem rest?_begin (ts : List Errand) :
    (e.begin ts).rest? j =
      if j < e.tasks.length then e.rest? j else ts[j - e.tasks.length]? := by
  unfold begin rest?
  rw [List.getElem?_append]
  split
  · rfl
  · rw [List.getElem?_map, Option.map_map]
    exact Option.map_id' ..

/-- What is left of a task may be put down before or after others are begun. -/
theorem begin_setRest (ts : List Errand) (h : i < e.tasks.length) :
    (e.setRest i t).begin ts = (e.begin ts).setRest i t := by
  have hsame : ∀ f, e.tasks.modify i f ++ ts.map Task.ofErrand =
      (e.tasks ++ ts.map Task.ofErrand).modify i f := by
    intro f
    apply List.ext_getElem?
    intro j
    simp only [List.getElem?_append, List.getElem?_modify, List.length_modify]
    by_cases hj : j < e.tasks.length
    · simp [hj]
    · simp [hj, show i ≠ j by omega]
  unfold begin setRest
  rw [hsame]

variable {e i}

theorem rest?_setRest {t' : Errand} (h : e.rest? i = some t') :
    (e.setRest i t).rest? j = if j = i then some t else e.rest? j := by
  unfold setRest rest? at *
  rw [List.getElem?_modify]
  by_cases hj : i = j
  · subst hj
    obtain ⟨task, htask, -⟩ := Option.map_eq_some_iff.1 h
    simp [htask]
  · simp [hj, Ne.symm hj]

/-- Putting down what is left already changes nothing. -/
theorem setRest_of_rest? {t : Errand} (h : e.rest? i = some t) : e.setRest i t = e := by
  obtain ⟨task, htask, ht⟩ := Option.map_eq_some_iff.1 h
  have hsame : e.tasks.modify i (fun task => { task with rest := t }) = e.tasks := by
    apply List.ext_getElem?
    intro j
    rw [List.getElem?_modify]
    by_cases hj : i = j
    · subst hj
      simp [htask, ← ht]
    · simp [hj]
  unfold setRest
  rw [hsame]

theorem lt_of_rest? {t : Errand} (h : e.rest? i = some t) : i < e.tasks.length := by
  obtain ⟨task, htask, -⟩ := Option.map_eq_some_iff.1 h
  exact (List.getElem?_eq_some_iff.1 htask).1

theorem flightAt_of_rest? {t : Errand} (h : e.rest? i = some t) : e.flightAt i = t.flight? := by
  unfold flightAt
  rw [h]
  rfl

theorem flightAt_setRest {t' : Errand} (h : e.rest? i = some t') :
    (e.setRest i t).flightAt j = if j = i then t.flight? else e.flightAt j := by
  unfold flightAt
  rw [rest?_setRest j t h]
  split <;> rfl

variable (e i)

@[simp] theorem length_setRest : (e.setRest i t).tasks.length = e.tasks.length :=
  List.length_modify ..

theorem rest?_of_le {j : Nat} (h : e.tasks.length ≤ j) : e.rest? j = none := by
  unfold rest?
  rw [List.getElem?_eq_none h]
  rfl

/-- Tasks that are begun and are no flights leave the flights as they are. -/
theorem flightAt_begin {ts : List Errand} (h : ∀ t ∈ ts, t.flight? = none) :
    (e.begin ts).flightAt = e.flightAt := by
  funext j
  unfold flightAt
  rw [rest?_begin]
  split
  · rfl
  · rename_i hj
    rw [rest?_of_le e (Nat.not_lt.1 hj)]
    cases ht : ts[j - e.tasks.length]? with
    | none => rfl
    | some t => exact h t (List.mem_of_getElem? ht)

end

/-- A call begins as the next task. -/
theorem rest?_call (e : Ensemble σ) (c : Call) :
    (e.play (.call c)).rest? e.tasks.length = some c.errand := by
  simp only [play]
  rw [rest?_begin, if_neg (Nat.lt_irrefl _), Nat.sub_self]
  rfl

/-- A turn, piece by piece. -/
theorem play_turn {e : Ensemble σ} {i : Nat} {t : Errand} (h : e.rest? i = some t) (s : Signal) :
    e.play (.turn i s) =
      ((e.withOrchestra (t.turn s e.orchestra).orchestra).setRest i
        (t.turn s e.orchestra).errand).begin (t.turn s e.orchestra).launched := by
  simp only [play, h]

/-- A turn that launches nothing. -/
theorem play_turn_of_eq {e : Ensemble σ} {i : Nat} {t : Errand} {s : Signal} {turn : Turn σ}
    (h : e.rest? i = some t) (ht : t.turn s e.orchestra = turn) (hn : turn.launched = []) :
    e.play (.turn i s) = (e.withOrchestra turn.orchestra).setRest i turn.errand := by
  rw [play_turn h, ht, hn, begin_nil]

/-- The orchestra after a turn. -/
theorem orchestra_turn {e : Ensemble σ} {i : Nat} {t : Errand} (h : e.rest? i = some t)
    (s : Signal) : (e.play (.turn i s)).orchestra = (t.turn s e.orchestra).orchestra := by
  simp [play, h, withOrchestra]

/-- The tasks after a turn. -/
theorem rest?_turn {e : Ensemble σ} {i : Nat} {t : Errand} (h : e.rest? i = some t) (s : Signal)
    (j : Nat) :
    (e.play (.turn i s)).rest? j =
      if j < e.tasks.length then
        if j = i then some (t.turn s e.orchestra).errand else e.rest? j
      else (t.turn s e.orchestra).launched[j - e.tasks.length]? := by
  have h' : (e.withOrchestra (t.turn s e.orchestra).orchestra).rest? i = some t := h
  rw [play_turn h, rest?_begin, length_setRest, rest?_setRest j _ h']
  rfl

theorem rest?_turn_self {e : Ensemble σ} {i : Nat} {t : Errand} (h : e.rest? i = some t)
    (s : Signal) : (e.play (.turn i s)).rest? i = some (t.turn s e.orchestra).errand := by
  rw [rest?_turn h, if_pos (lt_of_rest? h), if_pos rfl]

/-- A turn of a task that there is not changes nothing. -/
theorem play_turn_of_none {e : Ensemble σ} {i : Nat} (h : e.rest? i = none) (s : Signal) :
    e.play (.turn i s) = e := by
  simp [play, h]

/-- A task stays as it is until it has a turn or is let go. -/
theorem rest?_play {e : Ensemble σ} {i : Nat} {t : Errand} (h : e.rest? i = some t) (b : Beat σ) :
    (e.play b).rest? i = some t ∨
      (∃ s, b = .turn i s ∧ (e.play b).rest? i = some (t.turn s e.orchestra).errand) ∨
      (b = .letGo i ∧ t.isKept = false ∧ (e.play b).rest? i = some (.done .nothing)) := by
  have hi := lt_of_rest? h
  have begun : ∀ ts, (e.begin ts).rest? i = some t := by
    intro ts
    rw [rest?_begin, if_pos hi, h]
  cases b with
  | call c => exact .inl (begun _)
  | fire event => exact .inl (begun _)
  | loadText | invalidate | clearCache | cancel | outside => exact .inl h
  | turn j s =>
    cases hj : e.rest? j with
    | none =>
      rw [play_turn_of_none hj]
      exact .inl h
    | some t' =>
      rw [rest?_turn hj, if_pos hi]
      by_cases hij : i = j
      · subst hij
        obtain rfl := Option.some.inj (h.symm.trans hj)
        exact .inr (.inl ⟨s, rfl, if_pos rfl⟩)
      · rw [if_neg hij]
        exact .inl h
  | letGo j =>
    simp only [play]
    split
    · exact .inl h
    · rename_i t' hj
      split
      · exact .inl h
      · rename_i hk
        have hj' : (e.withOrchestra (t'.letGo e.orchestra)).rest? j = some t' := hj
        rw [rest?_setRest i _ hj']
        by_cases hij : i = j
        · subst hij
          obtain rfl := Option.some.inj (h.symm.trans hj)
          exact .inr (.inr ⟨rfl, Bool.eq_false_iff.2 hk, if_pos rfl⟩)
        · rw [if_neg hij]
          exact .inl h

/-- What begins with a beat is what a call asks for, or a flight. -/
theorem begun_of_play {e : Ensemble σ} {b : Beat σ} {i : Nat} {t : Errand} (h : e.rest? i = none)
    (h' : (e.play b).rest? i = some t) : (∃ c : Call, t = c.errand) ∨ ∃ f, t = .build f := by
  have begun : ∀ ts, (e.begin ts).rest? i = some t → t ∈ ts := by
    intro ts hi
    rw [rest?_begin] at hi
    split at hi
    · cases h.symm.trans hi
    · exact List.mem_of_getElem? hi
  cases b with
  | call c => exact .inl ⟨c, List.mem_singleton.1 (begun _ h')⟩
  | fire event =>
    obtain ⟨b, -, rfl⟩ := List.mem_map.1 (begun _ h')
    exact .inl ⟨.dispatch b.key b.action none, rfl⟩
  | loadText | invalidate | clearCache | cancel | outside => cases h.symm.trans h'
  | turn j s =>
    cases hj : e.rest? j with
    | none =>
      rw [play_turn_of_none hj, h] at h'
      cases h'
    | some t₀ =>
      have hne : i ≠ j := by
        rintro rfl
        cases h.symm.trans hj
      rw [rest?_turn hj, if_neg hne] at h'
      split at h'
      · cases h.symm.trans h'
      · exact .inr ((course e.orchestra t₀ s).launched t (List.mem_of_getElem? h'))
  | letGo j =>
    simp only [play] at h'
    split at h'
    · cases h.symm.trans h'
    · rename_i t₀ hj
      have hne : i ≠ j := by
        rintro rfl
        cases h.symm.trans hj
      have hj' : (e.withOrchestra (t₀.letGo e.orchestra)).rest? j = some t₀ := hj
      split at h'
      · cases h.symm.trans h'
      · rw [rest?_setRest i _ hj', if_neg hne] at h'
        cases h.symm.trans h'

/-! ### What only grows -/

theorem grows_play (e : Ensemble σ) (b : Beat σ) : Grows e.orchestra (e.play b).orchestra := by
  cases b with
  | call c => exact .refl
  | turn i s =>
    cases h : e.rest? i with
    | none =>
      rw [play_turn_of_none h]
      exact .refl
    | some t =>
      rw [orchestra_turn h]
      exact (course e.orchestra t s).grows
  | letGo i =>
    simp only [play]
    split
    · exact .refl
    · split
      · exact .refl
      · exact .letGo ..
  | loadText key text bound => exact .loadText ..
  | invalidate key => exact .invalidate ..
  | clearCache => exact .clearCache ..
  | fire event => exact .refl
  | cancel token => exact .of_views (n := 0) (fun _ => Nat.le_refl _) rfl
  | outside scene store left => exact .of_views (n := 0) (fun _ => Nat.le_refl _) rfl

/-- **Numbers and generations only go up in a run, and what has landed stays landed.** -/
theorem grows_plays (e : Ensemble σ) (beats : List (Beat σ)) :
    Grows e.orchestra (e.plays beats).orchestra := by
  induction beats generalizing e with
  | nil => exact .refl
  | cons b beats ih => exact (e.grows_play b).trans (ih _)

/-! ### Flights -/

/-- What a beat means for the flights. -/
inductive Flown (e e' : Ensemble σ) : Prop where
  /-- They are as many as before. -/
  | goesOn (hf : e'.flightAt = e.flightAt)
      (hl : e'.orchestra.landed = e.orchestra.landed)
      (hx : e'.orchestra.nextFlight = e.orchestra.nextFlight)
  /-- One has landed. -/
  | lands {i : Nat} {f : Flight} {l : Landing} (hi : e.flightAt i = some f)
      (hf : ∀ j, e'.flightAt j = if j = i then none else e.flightAt j)
      (hl : e'.orchestra.landed = (f.id, l) :: e.orchestra.landed)
      (hx : e'.orchestra.nextFlight = e.orchestra.nextFlight)
  /-- There is a new one. -/
  | launches {i : Nat} {f : Flight} (hi : e.flightAt i = none)
      (hf : ∀ j, e'.flightAt j = if j = i then some f else e.flightAt j)
      (hn : f.id = e.orchestra.nextFlight)
      (hg : f.generation = e'.orchestra.generation f.key)
      (hl : e'.orchestra.landed = e.orchestra.landed)
      (hx : e'.orchestra.nextFlight = e.orchestra.nextFlight + 1)

/-- The flights after a turn that launches nothing. -/
theorem flightAt_turn {e : Ensemble σ} {i : Nat} {t : Errand} (h : e.rest? i = some t) (s : Signal)
    (hn : (t.turn s e.orchestra).launched = []) (j : Nat) :
    (e.play (.turn i s)).flightAt j =
      if j = i then (t.turn s e.orchestra).errand.flight? else e.flightAt j := by
  have hi := lt_of_rest? h
  unfold flightAt
  rw [rest?_turn h, hn]
  by_cases hj : j < e.tasks.length
  · rw [if_pos hj]
    split <;> rfl
  · rw [if_neg hj, if_neg (by omega), rest?_of_le e (Nat.not_lt.1 hj)]
    rfl

/-- The flights after a turn that launches one errand. -/
theorem flightAt_turn_of_launched {e : Ensemble σ} {i : Nat} {t t' : Errand}
    (h : e.rest? i = some t) (s : Signal) (hn : (t.turn s e.orchestra).launched = [t']) (j : Nat) :
    (e.play (.turn i s)).flightAt j =
      if j = e.tasks.length then t'.flight?
      else if j = i then (t.turn s e.orchestra).errand.flight? else e.flightAt j := by
  have hi := lt_of_rest? h
  unfold flightAt
  rw [rest?_turn h, hn]
  by_cases hj : j < e.tasks.length
  · rw [if_pos hj, if_neg (Nat.ne_of_lt hj)]
    split <;> rfl
  · rw [if_neg hj, rest?_of_le e (Nat.not_lt.1 hj)]
    by_cases hl : j = e.tasks.length
    · subst hl
      simp
    · have hd : j - e.tasks.length ≠ 0 := by omega
      rw [if_neg hl, if_neg (by omega), List.getElem?_singleton, if_neg hd]

theorem flown_turn {e : Ensemble σ} {i : Nat} {t : Errand} (h : e.rest? i = some t) (s : Signal) :
    Flown e (e.play (.turn i s)) := by
  have ho := orchestra_turn h s
  cases (course e.orchestra t s).flown with
  | goesOn hf hn hl hx =>
    refine .goesOn (funext fun j => ?_) (ho ▸ hl) (ho ▸ hx)
    rw [flightAt_turn h s hn]
    split
    · rename_i hj
      rw [hj, hf, flightAt_of_rest? h]
    · rfl
  | lands hf he hn hl hx =>
    refine .lands ((flightAt_of_rest? h).trans hf) (fun j => ?_) (ho ▸ hl) (ho ▸ hx)
    rw [flightAt_turn h s hn, he]
    rfl
  | launches hf he hn hi hg hl hx =>
    have hnone : e.flightAt e.tasks.length = none := by
      unfold flightAt
      rw [rest?_of_le e (Nat.le_refl _)]
      rfl
    refine .launches hnone (fun j => ?_) hi (ho ▸ hg) (ho ▸ hl) (ho ▸ hx)
    rw [flightAt_turn_of_launched h s hn, he]
    split
    · rfl
    · split
      · rename_i hj
        rw [hj, flightAt_of_rest? h, hf]
      · rfl

omit [Hosted σ] in
/-- An operation that leaves the ledger alone leaves the flights as they are. -/
theorem Flown.of_ledger {e : Ensemble σ} {o : Orchestra σ} {n : Nat}
    (hl : o.ledger = { e.orchestra.ledger with nextBuilt := e.orchestra.nextBuilt + n }) :
    Flown e (e.withOrchestra o) :=
  .goesOn rfl (congrArg Ledger.landed hl) (congrArg Ledger.nextFlight hl)

/-- No flight is let go. -/
theorem flightAt_letGo (e : Ensemble σ) (i : Nat) :
    (e.play (.letGo i)).flightAt = e.flightAt := by
  simp only [play]
  split
  · rfl
  · rename_i t h
    split
    · rfl
    · rename_i hk
      have hf : t.flight? = none := by
        rw [Option.eq_none_iff_forall_ne_some]
        exact fun f hf => hk (Errand.isKept_of_flight? hf)
      have h' : (e.withOrchestra (t.letGo e.orchestra)).rest? i = some t := h
      funext j
      rw [flightAt_setRest j _ h']
      split
      · rename_i hj
        rw [hj, flightAt_of_rest? h, hf]
        rfl
      · rfl

/-- Letting go of a task leaves the ledger alone. -/
theorem ledger_play_letGo (e : Ensemble σ) (i : Nat) :
    (e.play (.letGo i)).orchestra.ledger = e.orchestra.ledger := by
  simp only [play]
  split
  · rfl
  · split
    · rfl
    · exact ledger_letGo ..

theorem flown_letGo (e : Ensemble σ) (i : Nat) : Flown e (e.play (.letGo i)) :=
  .goesOn (e.flightAt_letGo i) (congrArg Ledger.landed (e.ledger_play_letGo i))
    (congrArg Ledger.nextFlight (e.ledger_play_letGo i))

/-- **A beat lands a flight, or launches one, or leaves the flights as they are.** -/
theorem flown (e : Ensemble σ) (b : Beat σ) : Flown e (e.play b) := by
  cases b with
  | call c =>
    refine .goesOn (flightAt_begin e ?_) rfl rfl
    rintro t ht
    rw [List.mem_singleton.1 ht]
    cases c <;> rfl
  | turn i s =>
    cases h : e.rest? i with
    | none =>
      rw [play_turn_of_none h]
      exact .goesOn rfl rfl rfl
    | some t => exact flown_turn h s
  | letGo i => exact flown_letGo e i
  | loadText key text bound =>
    obtain ⟨n, hn⟩ := e.orchestra.ledger_loadText key text bound
    exact .of_ledger hn
  | invalidate key => exact .of_ledger (n := 0) (e.orchestra.ledger_invalidate key)
  | clearCache => exact .of_ledger (n := 0) e.orchestra.ledger_clearCache
  | fire event =>
    refine .goesOn (flightAt_begin e ?_) rfl rfl
    rintro t ht
    obtain ⟨b, -, rfl⟩ := List.mem_map.1 ht
    rfl
  | cancel token => exact .of_ledger (n := 0) rfl
  | outside scene store left => exact .of_ledger (n := 0) rfl

/-- The numbers and generations of flights are in order. -/
structure Sound (e : Ensemble σ) : Prop where
  /-- A flight has a number that was given out. -/
  below : ∀ {i f}, e.flightAt i = some f → f.id < e.orchestra.nextFlight
  /-- A flight has not landed. -/
  aloft : ∀ {i f}, e.flightAt i = some f → e.orchestra.landing? f.id = none
  /-- A flight is of the generation of its key, or of an earlier one. -/
  generation : ∀ {i f}, e.flightAt i = some f → f.generation ≤ e.orchestra.generation f.key
  /-- No two flights have the same number. -/
  apart : ∀ {i j f g}, e.flightAt i = some f → e.flightAt j = some g → f.id = g.id → i = j
  /-- What has landed had a number that was given out. -/
  landed : ∀ {id l}, e.orchestra.landing? id = some l → id < e.orchestra.nextFlight

omit [Hosted σ] in
theorem sound_opening (setup : Setup σ) (scene : Scene σ) (log : ActivityLog) :
    Sound (opening setup scene log) := by
  constructor <;> simp [opening, flightAt, rest?, landing?]

section

omit [Hosted σ]

theorem landing?_eq_of_landed {o o' : Orchestra σ} (h : o'.landed = o.landed) (id : Nat) :
    o'.landing? id = o.landing? id := by
  unfold landing?
  rw [h]

theorem landing?_of_landed {o o' : Orchestra σ} {n : Nat} {l : Landing}
    (h : o'.landed = (n, l) :: o.landed) (id : Nat) :
    o'.landing? id = if id = n then some l else o.landing? id := by
  unfold landing?
  rw [h, List.lookup_cons]
  by_cases hid : id = n
  · simp [hid]
  · simp [hid, beq_eq_false_iff_ne.2 hid]

namespace Sound

variable {e e' : Ensemble σ}

/-- A number that was not given out has not landed. -/
theorem landing?_of_le (h : Sound e) {id : Nat} (hid : e.orchestra.nextFlight ≤ id) :
    e.orchestra.landing? id = none := by
  cases hl : e.orchestra.landing? id with
  | none => rfl
  | some l => exact absurd (h.landed hl) (Nat.not_lt.2 hid)

theorem of_goesOn (h : Sound e) (hg : Grows e.orchestra e'.orchestra)
    (hf : e'.flightAt = e.flightAt) (hl : e'.orchestra.landed = e.orchestra.landed)
    (hx : e'.orchestra.nextFlight = e.orchestra.nextFlight) : Sound e' := by
  have hl := landing?_eq_of_landed hl
  refine ⟨?_, ?_, ?_, ?_, ?_⟩
  · rw [hf, hx]
    exact h.below
  · intro i f hi
    rw [hl]
    exact h.aloft (hf ▸ hi)
  · intro i f hi
    exact Nat.le_trans (h.generation (hf ▸ hi)) (hg.generation _)
  · rw [hf]
    exact h.apart
  · intro id l hid
    rw [hx]
    exact h.landed ((hl id).symm.trans hid)

theorem of_lands (h : Sound e) (hg : Grows e.orchestra e'.orchestra) {i : Nat} {f : Flight}
    {l : Landing} (hi : e.flightAt i = some f)
    (hf : ∀ j, e'.flightAt j = if j = i then none else e.flightAt j)
    (hl : e'.orchestra.landed = (f.id, l) :: e.orchestra.landed)
    (hx : e'.orchestra.nextFlight = e.orchestra.nextFlight) : Sound e' := by
  have hl := landing?_of_landed hl
  have kept : ∀ {j g}, e'.flightAt j = some g → j ≠ i ∧ e.flightAt j = some g := by
    intro j g hj
    rw [hf] at hj
    split at hj
    · cases hj
    · exact ⟨by assumption, hj⟩
  refine ⟨?_, ?_, ?_, ?_, ?_⟩
  · intro j g hj
    rw [hx]
    exact h.below (kept hj).2
  · intro j g hj
    obtain ⟨hne, hj⟩ := kept hj
    rw [hl, if_neg fun hid => hne (h.apart hj hi hid)]
    exact h.aloft hj
  · intro j g hj
    exact Nat.le_trans (h.generation (kept hj).2) (hg.generation _)
  · intro j k g g' hj hk
    exact h.apart (kept hj).2 (kept hk).2
  · intro id l' hid
    rw [hx]
    rw [hl] at hid
    split at hid
    · rename_i heq
      exact heq ▸ h.below hi
    · exact h.landed hid

theorem of_launches (h : Sound e) (hg : Grows e.orchestra e'.orchestra) {i : Nat} {f : Flight}
    (hf : ∀ j, e'.flightAt j = if j = i then some f else e.flightAt j)
    (hn : f.id = e.orchestra.nextFlight) (hgen : f.generation = e'.orchestra.generation f.key)
    (hl : e'.orchestra.landed = e.orchestra.landed)
    (hx : e'.orchestra.nextFlight = e.orchestra.nextFlight + 1) : Sound e' := by
  have hl := landing?_eq_of_landed hl
  have there : ∀ {j g}, e'.flightAt j = some g → (j = i ∧ g = f) ∨ e.flightAt j = some g := by
    intro j g hj
    rw [hf] at hj
    split at hj
    · exact .inl ⟨by assumption, (Option.some.inj hj).symm⟩
    · exact .inr hj
  have new : ∀ {j g}, e.flightAt j = some g → g.id ≠ f.id := by
    intro j g hj hid
    have := h.below hj
    omega
  refine ⟨?_, ?_, ?_, ?_, ?_⟩
  · intro j g hj
    rcases there hj with ⟨-, rfl⟩ | hj
    · omega
    · have := h.below hj
      omega
  · intro j g hj
    rw [hl]
    rcases there hj with ⟨-, rfl⟩ | hj
    · exact h.landing?_of_le (Nat.le_of_eq hn.symm)
    · exact h.aloft hj
  · intro j g hj
    rcases there hj with ⟨-, rfl⟩ | hj
    · exact Nat.le_of_eq hgen
    · exact Nat.le_trans (h.generation hj) (hg.generation _)
  · intro j k g g' hj hk hid
    rcases there hj with ⟨rfl, rfl⟩ | hj <;> rcases there hk with ⟨rfl, rfl⟩ | hk
    · rfl
    · exact absurd hid.symm (new hk)
    · exact absurd hid (new hj)
    · exact h.apart hj hk hid
  · intro id l hid
    have := h.landed ((hl id).symm.trans hid)
    omega

end Sound

end

theorem sound_play {e : Ensemble σ} (h : Sound e) (b : Beat σ) : Sound (e.play b) := by
  have hg := e.grows_play b
  cases e.flown b with
  | goesOn hf hl hx => exact h.of_goesOn hg hf hl hx
  | lands hi hf hl hx => exact h.of_lands hg hi hf hl hx
  | launches _ hf hn hgen hl hx => exact h.of_launches hg hf hn hgen hl hx

/-- **Flights have numbers of their own and generations not ahead of their keys, in every run.** -/
theorem sound_plays {e : Ensemble σ} (h : Sound e) (beats : List (Beat σ)) :
    Sound (e.plays beats) := by
  induction beats generalizing e with
  | nil => exact h
  | cons b beats ih => exact ih (sound_play h b)

theorem landing?_play {e : Ensemble σ} (h : Sound e) (b : Beat σ) {id : Nat} {l : Landing}
    (hl : e.orchestra.landing? id = some l) : (e.play b).orchestra.landing? id = some l := by
  cases e.flown b with
  | goesOn _ hl' => rw [landing?_eq_of_landed hl', hl]
  | launches _ _ _ _ hl' => rw [landing?_eq_of_landed hl', hl]
  | @lands _ f _ hi _ hl' =>
    have hne : id ≠ f.id := by
      rintro rfl
      rw [h.aloft hi] at hl
      cases hl
    rw [landing?_of_landed hl', if_neg hne, hl]

/-- **What a flight has brought home stays what it was.** -/
theorem landing?_plays {e : Ensemble σ} (h : Sound e) (beats : List (Beat σ)) {id : Nat}
    {l : Landing} (hl : e.orchestra.landing? id = some l) :
    (e.plays beats).orchestra.landing? id = some l := by
  induction beats generalizing e with
  | nil => exact hl
  | cons b beats ih => exact ih (sound_play h b) (landing?_play h b hl)

/-- An ensemble that some run leads to. -/
def Reached (e : Ensemble σ) : Prop :=
  ∃ setup scene log beats, e = (opening setup scene log).plays beats

theorem Reached.sound {e : Ensemble σ} (h : e.Reached) : Sound e := by
  obtain ⟨setup, scene, log, beats, rfl⟩ := h
  exact sound_plays (sound_opening setup scene log) beats

theorem Reached.plays {e : Ensemble σ} (h : e.Reached) (beats : List (Beat σ)) :
    (e.plays beats).Reached := by
  obtain ⟨setup, scene, log, before, rfl⟩ := h
  exact ⟨setup, scene, log, before ++ beats, (plays_append ..).symm⟩

/-- A flight goes on under its number, its key and its generation until it is over. -/
theorem flightAt_plays {e : Ensemble σ} {i : Nat} {f : Flight}
    (h : e.flightAt i = some f ∨ e.rest? i = some (.done .nothing)) (beats : List (Beat σ)) :
    (e.plays beats).flightAt i = some f ∨ (e.plays beats).rest? i = some (.done .nothing) := by
  induction beats generalizing e with
  | nil => exact h
  | cons b beats ih =>
    refine ih ?_
    rcases h with h | h
    · obtain ⟨t, ht, hf⟩ := Option.bind_eq_some_iff.1 h
      rcases rest?_play ht b with h' | ⟨s, -, h'⟩ | ⟨-, hk, -⟩
      · exact .inl ((flightAt_of_rest? h').trans hf)
      · cases (course e.orchestra t s).flown with
        | goesOn hs => exact .inl ((flightAt_of_rest? h').trans (hs.trans hf))
        | lands _ he => exact .inr (he ▸ h')
        | launches hn => cases hn.symm.trans hf
      · rw [Errand.isKept_of_flight? hf] at hk
        cases hk
    · rcases rest?_play h b with h' | ⟨s, -, h'⟩ | ⟨-, -, h'⟩
      · exact .inr h'
      · exact .inr h'
      · exact .inr h'

/-! ### Counting and listening along a run -/

/-- How many beats of a run are of a kind. -/
def tally (kind : Ensemble σ → Beat σ → Bool) : Ensemble σ → List (Beat σ) → Nat
  | _, [] => 0
  | e, b :: beats => (kind e b).toNat + tally kind (e.play b) beats

/-- The orchestra tells the given events, in order, in the course of a run. -/
inductive Telling : Ensemble σ → List (Beat σ) → List Event → Prop where
  /-- Nothing has happened. -/
  | nil {e : Ensemble σ} : Telling e [] []
  /-- A beat of others tells nothing. -/
  | outside {e : Ensemble σ} {b : Beat σ} {beats : List (Beat σ)} {es : List Event}
      (hb : b.isOutside = true) : Telling (e.play b) beats es → Telling e (b :: beats) es
  /-- Any other beat tells what it has emitted. -/
  | cons {e : Ensemble σ} {b : Beat σ} {beats : List (Beat σ)} {es es' : List Event}
      (hb : b.isOutside = false)
      (h : e.orchestra.scene.Tells es (e.play b).orchestra.scene) :
      Telling (e.play b) beats es' → Telling e (b :: beats) (es ++ es')

theorem Telling.append {e : Ensemble σ} {beats beats' : List (Beat σ)} {es es' : List Event}
    (h : Telling e beats es) (h' : Telling (e.plays beats) beats' es') :
    Telling e (beats ++ beats') (es ++ es') := by
  induction h with
  | nil => exact h'
  | outside hb _ ih => exact .outside hb (ih h')
  | cons hb ht _ ih =>
    rw [List.append_assoc]
    exact .cons hb ht (ih h')

/-- What a single beat tells. -/
theorem Telling.single {e : Ensemble σ} {b : Beat σ} {es : List Event} (hb : b.isOutside = false)
    (h : e.orchestra.scene.Tells es (e.play b).orchestra.scene) : Telling e [b] es := by
  rw [← List.append_nil es]
  exact .cons hb h .nil

end Ensemble

end LivePanel.Orchestra
