import LivePanel.Proofs.Orchestra.Binding
import LivePanel.Proofs.Orchestra.Overtaking

/-!
# Orchestras that have been shut down

A shutdown takes two turns. The first one has the orchestra refuse what it is asked for from then
on; the second one, after the watchers have stopped, drops what is held. In between and afterwards
whatever was under way may go on: flights come home, runs end, notices are taken. None of it
brings anything back, since a flight that comes home and a run that ends both look whether all
is over before they keep anything.

## What is proved

* `Course.sheds`: from the first turn of a shutdown on, no turn comes to hold anything new.
* `turn_of_refused`: an orchestra that has been shut down refuses every call.
* `closing_unique`: only one shutdown drops what is held.
* `shutdown_is_final`: after the second turn nothing is held, in every run.
-/

namespace LivePanel.Orchestra

variable {σ : Type}

/-! ### Holding less -/

/-- Artifacts, templates and bindings are as before, or gone. -/
structure Sheds (o o' : Orchestra σ) : Prop where
  entry : ∀ key, o'.cache.get? key = o.cache.get? key ∨ o'.cache.get? key = none
  record : ∀ key, o'.loaded.get? key = o.loaded.get? key ∨ o'.loaded.get? key = none
  bindings : ∀ key, o'.bindings.get? key = o.bindings.get? key ∨ o'.bindings.get? key = none

namespace Sheds

variable {o o' o'' : Orchestra σ}

theorem refl : Sheds o o := ⟨fun _ => .inl rfl, fun _ => .inl rfl, fun _ => .inl rfl⟩

theorem trans (h : Sheds o o') (h' : Sheds o' o'') : Sheds o o'' where
  entry key := (h'.entry key).elim (fun heq => heq.symm ▸ h.entry key) .inr
  record key := (h'.record key).elim (fun heq => heq.symm ▸ h.record key) .inr
  bindings key := (h'.bindings key).elim (fun heq => heq.symm ▸ h.bindings key) .inr

/-- It is enough to look at what is held under each key. -/
theorem of_holdings
    (h : ∀ key, o'.holding key = o.holding key ∨
      (o'.holding key).entry = none ∧ (o'.holding key).bindings = (o.holding key).bindings ∧
        (o'.holding key).record = (o.holding key).record ∨
      (o'.holding key).entry = none ∧ (o'.holding key).bindings = none ∧
        (o'.holding key).record = none) : Sheds o o' := by
  refine ⟨fun key => ?_, fun key => ?_, fun key => ?_⟩
  · rcases h key with h | ⟨he, -, -⟩ | ⟨he, -, -⟩
    · exact .inl (congrArg Holding.entry h)
    · exact .inr he
    · exact .inr he
  · rcases h key with h | ⟨-, -, hr⟩ | ⟨-, -, hr⟩
    · exact .inl (congrArg Holding.record h)
    · exact .inl hr
    · exact .inr hr
  · rcases h key with h | ⟨-, hb, -⟩ | ⟨-, hb, -⟩
    · exact .inl (congrArg Holding.bindings h)
    · exact .inl hb
    · exact .inr hb

theorem of_quiet {about : Option String} (h : Quiet about o o') : Sheds o o' :=
  of_holdings fun key => .inl (congrFun h.holding key)

theorem of_untouched (h : Untouched o o') : Sheds o o' :=
  ⟨fun _ => .inl (h.cache ▸ rfl), fun _ => .inl (h.loaded ▸ rfl), fun _ => .inl (h.bindings ▸ rfl)⟩

theorem embark (o : Orchestra σ) (key : String) : Sheds o (o.embark key) :=
  ⟨fun _ => .inl rfl, fun _ => .inl rfl, fun _ => .inl rfl⟩

theorem invalidate (o : Orchestra σ) (key : String) : Sheds o (o.invalidate key).2 := by
  refine of_holdings fun k => ?_
  rw [holding_invalidate]
  split
  · exact .inr (.inl ⟨rfl, rfl, rfl⟩)
  · exact .inl rfl

theorem evict (o : Orchestra σ) (key : String) : Sheds o (o.evict key) := by
  refine of_holdings fun k => ?_
  rw [holding_evict]
  split
  · exact .inr (.inr ⟨rfl, rfl, rfl⟩)
  · exact .inl rfl

end Sheds

variable [Hosted σ]

/-- **An orchestra that has been shut down comes to hold nothing new in a turn.** -/
theorem Course.sheds {o : Orchestra σ} {t : Errand} {s : Signal} {turn : Turn σ}
    (h : Course o t s turn) (hs : o.shutDown = true) : Sheds o turn.orchestra := by
  cases h with
  | unmoved | returns | compares | joins | setsOut | comparesIn | turnsBack | marks => exact .refl
  | serves => exact .of_untouched (Untouched.refl.record ..)
  | embarks => exact .embark ..
  | servesIn => exact .of_untouched ((Untouched.refl.record ..).land ..)
  | fails => exact .of_untouched ((Untouched.sourceFailed ..).land ..)
  | builds => exact .of_untouched ((Untouched.buildText (.inl hs) ..).land ..)
  | crashes => exact .of_untouched ⟨rfl, rfl, rfl, rfl, rfl⟩
  | drops _ _ hq => exact (Sheds.of_quiet hq).trans (.invalidate ..)
  | renews _ _ hq => exact ((Sheds.of_quiet hq).trans (.invalidate ..)).trans (.embark ..)
  | evicts => exact (Sheds.evict ..).trans (.of_quiet (.tell rfl))
  | notes _ _ hq | plays _ _ hq | finishes _ hq => exact .of_quiet hq
  | rebuilds _ hn => cases hn.symm.trans hs
  | shutsDown => exact ⟨fun _ => .inl rfl, fun _ => .inl rfl, fun _ => .inl rfl⟩
  | closes => exact .of_holdings fun _ => .inr (.inr ⟨rfl, rfl, rfl⟩)

/-! ### What is refused -/

/-- What a call comes to that is refused. -/
def Call.refusal : Call → Outcome
  | load _ => .landed (.error .shutDown)
  | reload _ => .landed (.error .shutDown)
  | notice _ => .nothing
  | dispatch .. => .reported (.error .shutDown)
  | watch _ => .watching (.error .shutDown)
  | shutDown => .nothing

/-- **An orchestra that has been shut down refuses every call, and stays as it is.** -/
theorem turn_of_refused {o : Orchestra σ} (hs : o.shutDown = true) (c : Call) :
    c.errand.turn .go o = .over o c.refusal := by
  cases c <;> simp only [Call.errand, Call.refusal, Errand.turn, hs, if_true]

omit [Hosted σ] in
/-- A text that is given is refused as well. -/
theorem loadText_of_refused {o : Orchestra σ} (hs : o.shutDown = true) (key text : String)
    (bound : Bool) : o.loadText key text bound = (.error .shutDown, o) := by
  simp only [loadText, hs, if_true]

namespace Ensemble

/-- **An orchestra that has been shut down comes to hold nothing new in a beat.** -/
theorem sheds_play {e : Ensemble σ} (hs : e.orchestra.shutDown = true) (b : Beat σ) :
    Sheds e.orchestra (e.play b).orchestra := by
  cases b with
  | call | fire | cancel | outside =>
    exact ⟨fun _ => .inl rfl, fun _ => .inl rfl, fun _ => .inl rfl⟩
  | turn i s =>
    cases h : e.rest? i with
    | none =>
      rw [play_turn_of_none h]
      exact .refl
    | some t =>
      rw [orchestra_turn h]
      exact (course e.orchestra t s).sheds hs
  | letGo i =>
    simp only [play]
    split
    · exact .refl
    · split
      · exact .refl
      · exact .of_holdings fun key => .inl (congrFun (holding_letGo ..) key)
  | loadText key text bound =>
    simp only [play, loadText_of_refused hs]
    exact .refl
  | invalidate key => exact .invalidate ..
  | clearCache =>
    exact .of_holdings fun key => .inr (.inl ⟨rfl, rfl, rfl⟩)

theorem sheds_plays {e : Ensemble σ} (hs : e.orchestra.shutDown = true) (beats : List (Beat σ)) :
    Sheds e.orchestra (e.plays beats).orchestra := by
  induction beats generalizing e with
  | nil => exact .refl
  | cons b beats ih => exact (sheds_play hs b).trans (ih ((e.grows_play b).shutDown hs))

/-! ### One shutdown only -/

/-- A turn leads up to dropping what is held only if it was to do so before, or begins the first
shutdown. -/
theorem closing_of_turn {o : Orchestra σ} {t : Errand} {s : Signal}
    (h : (t.turn s o).errand = .closing) :
    t = .closing ∨ t = .shutDown ∧ o.shutDown = false := by
  have ht : t = .closing ∨ t = .shutDown := by
    have hc := course o t s
    generalize t.turn s o = turn at h hc
    cases hc with
    | unmoved => exact .inl h
    | shutsDown => exact .inr rfl
    | notes _ ht' =>
      obtain rfl := h
      exact ht'.elim
    | _ => cases h
  refine ht.imp_right fun ht => ⟨ht, ?_⟩
  subst ht
  cases hs : o.shutDown with
  | false => rfl
  | true =>
    cases s <;> simp [Errand.turn, Turn.over, hs] at h

/-- Once there was a shutdown, no further task comes to drop what is held. -/
theorem closing_of_play {e : Ensemble σ} (hs : e.orchestra.shutDown = true) {b : Beat σ} {j : Nat}
    (h : (e.play b).rest? j = some .closing) : e.rest? j = some .closing := by
  cases hrest : e.rest? j with
  | none => exact absurd h (rest?_play_ne_closing hrest b)
  | some t =>
    rcases rest?_play hrest b with h' | ⟨s, -, h'⟩ | ⟨-, -, h'⟩
    · exact congrArg some (Option.some.inj (h'.symm.trans h))
    · rcases closing_of_turn (Option.some.inj (h'.symm.trans h)) with rfl | ⟨-, hn⟩
      · rfl
      · cases hn.symm.trans hs
    · cases h'.symm.trans h

theorem closing_of_plays {e : Ensemble σ} (hs : e.orchestra.shutDown = true)
    {beats : List (Beat σ)} {j : Nat} (h : (e.plays beats).rest? j = some .closing) :
    e.rest? j = some .closing := by
  induction beats generalizing e with
  | nil => exact h
  | cons b beats ih => exact closing_of_play hs (ih ((e.grows_play b).shutDown hs) h)

/-- The first turn of the first shutdown. -/
theorem turn_shutDown {o : Orchestra σ} (hs : o.shutDown = false) :
    Errand.shutDown.turn .go o = ⟨{ o with shutDown := true }, .closing, []⟩ := by
  simp [Errand.turn, hs]

/-- **The first shutdown alone drops what is held.** -/
theorem closing_unique {e : Ensemble σ} (he : e.Reached) {i : Nat}
    (hi : e.rest? i = some .shutDown) (hs : e.orchestra.shutDown = false)
    {beats : List (Beat σ)} {j : Nat}
    (hj : ((e.play (.turn i .go)).plays beats).rest? j = some .closing) : j = i := by
  have hshut : (e.play (.turn i .go)).orchestra.shutDown = true := by
    rw [orchestra_turn hi, turn_shutDown hs]
  have hj := closing_of_plays hshut hj
  by_cases hji : j = i
  · exact hji
  · have hrefusing : Refusing e := by
      obtain ⟨setup, scene, log, before, rfl⟩ := he
      exact refusing_plays (fun _ h => by simp [opening, rest?] at h) before
    rw [rest?_turn hi, if_neg hji, turn_shutDown hs] at hj
    split at hj
    · cases hs.symm.trans (hrefusing j hj)
    · simp at hj

end Ensemble

/-! ### After the shutdown -/

/-- An orchestra has been shut down, and holds no artifact, no template and no binding. -/
structure Emptied (o : Orchestra σ) : Prop where
  shutDown : o.shutDown = true
  cache : o.cache = []
  loaded : o.loaded = []
  bindings : o.bindings = []

omit [Hosted σ] in
theorem Emptied.sheds {o o' : Orchestra σ} (h : Emptied o) (hs : o'.shutDown = true)
    (hd : Sheds o o') : Emptied o' where
  shutDown := hs
  cache := Table.eq_nil_of_get? fun key => (hd.entry key).elim (·.trans (h.cache ▸ rfl)) id
  loaded := Table.eq_nil_of_get? fun key => (hd.record key).elim (·.trans (h.loaded ▸ rfl)) id
  bindings := Table.eq_nil_of_get? fun key => (hd.bindings key).elim (·.trans (h.bindings ▸ rfl)) id

namespace Ensemble

/-- **A shutdown is final.** Take any run up to the first turn of the first shutdown, and any run
from there on in which the shutdown gets to its second turn. That turn is its last one. From then
on, whatever was under way and whatever is asked for, no artifact, no template and no binding is
held; a text is refused; a call is refused at its first turn and changes nothing, a further
shutdown among them; and no other shutdown is under way. -/
theorem shutdown_is_final {e : Ensemble σ} (he : e.Reached) {i : Nat}
    (hi : e.rest? i = some .shutDown) (hs : e.orchestra.shutDown = false)
    {meanwhile : List (Beat σ)}
    (hw : ((e.play (.turn i .go)).plays meanwhile).rest? i = some .closing) :
    let ended := ((e.play (.turn i .go)).plays meanwhile).play (.turn i .go)
    ended.rest? i = some (.done .nothing) ∧
    ∀ after, let e' := ended.plays after
      Emptied e'.orchestra ∧
      (∀ key text bound,
        e'.orchestra.loadText key text bound = (.error .shutDown, e'.orchestra)) ∧
      (∀ j (c : Call), e'.rest? j = some c.errand →
        (e'.play (.turn j .go)).rest? j = some (.done c.refusal) ∧
          (e'.play (.turn j .go)).orchestra = e'.orchestra) ∧
      ∀ j, e'.rest? j ≠ some .closing := by
  intro ended
  have hshut : (e.play (.turn i .go)).orchestra.shutDown = true := by
    rw [orchestra_turn hi, turn_shutDown hs]
  have hshut' : ended.orchestra.shutDown = true :=
    (grows_play _ _).shutDown ((grows_plays _ meanwhile).shutDown hshut)
  have hended : ended.rest? i = some (.done .nothing) := by
    rw [rest?_turn hw, if_pos (lt_of_rest? hw), if_pos rfl]
    rfl
  have hempty : Emptied ended.orchestra := by
    refine ⟨hshut', ?_, ?_, ?_⟩ <;>
    · rw [orchestra_turn hw]
      rfl
  refine ⟨hended, fun after => ?_⟩
  intro e'
  have hshut'' : e'.orchestra.shutDown = true := (grows_plays _ after).shutDown hshut'
  refine ⟨hempty.sheds hshut'' (sheds_plays hshut' after),
    fun key text bound => loadText_of_refused hshut'' key text bound, fun j c hj => ?_,
    fun j hj => ?_⟩
  · constructor
    · rw [rest?_turn hj, if_pos (lt_of_rest? hj), if_pos rfl, turn_of_refused hshut'']
      rfl
    · rw [orchestra_turn hj, turn_of_refused hshut'']
      rfl
  · have hj : ended.rest? j = some .closing := closing_of_plays hshut' hj
    have hj' : ((e.play (.turn i .go)).plays (meanwhile ++ [.turn i .go])).rest? j =
        some .closing := by
      rw [plays_append]
      exact hj
    obtain rfl := closing_unique he hi hs hj'
    cases hended.symm.trans hj

/-- A flight has its fingerprint when the shutdown begins, and reads its text when it is ended. -/
theorem shutdown_is_final_bare :
    let e := bare.plays [.call (.load "k"), .turn 0 .go, .turn 1 .go,
      .turn 1 (.fingerprint (.ok ⟨"1"⟩)), .call .shutDown]
    let ended := (e.play (.turn 2 .go)).play (.turn 2 .go)
    let later := ended.plays [.turn 1 (.text (.ok "")), .call (.load "k")]
    e.Reached ∧ e.rest? 2 = some .shutDown ∧ e.orchestra.shutDown = false ∧
      (e.play (.turn 2 .go)).rest? 2 = some .closing ∧
      Emptied later.orchestra ∧
      (later.play (.turn 3 .go)).rest? 3 = some (.done (.landed (.error .shutDown))) := by
  intro e ended later
  have he : e.Reached := ⟨_, _, _, _, rfl⟩
  have hi : e.rest? 2 = some .shutDown := rfl
  have hs : e.orchestra.shutDown = false := rfl
  have hw : ((e.play (.turn 2 .go)).plays []).rest? 2 = some .closing := rfl
  obtain ⟨hempty, -, hcalls, -⟩ := (shutdown_is_final he hi hs hw).2
    [.turn 1 (.text (.ok "")), .call (.load "k")]
  exact ⟨he, hi, hs, hw, hempty, (hcalls 3 (.load "k") rfl).1⟩

end Ensemble

end LivePanel.Orchestra
