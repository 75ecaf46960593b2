import LivePanel.Proofs.Orchestra.Reads
import LivePanel.Proofs.Orchestra.Recording

/-!
# Reloads and flights that are under way

A reload does not look into the cache, but it shares the flight of its key if there is one. How new
the text of its artifact is depends on how far that flight has come by then: up to the fingerprint
it has still to read the text, and from then on the text may be older than the reload.

## What is proved

* `read_of_landed`: a flight that comes home with an artifact, and has neither found it in the cache
  nor been left it by a source without the key, has read its text.
* `reload_reads_after_unless_shared`: a reload that launches a flight gives an artifact of a text
  read after it; one that shares a flight does so exactly if that was not yet reading.
* `reload_returns_earlier_text`: a reload may give an artifact of a text read before it.
* `reload_served_from_cache`: it may even be served from the cache, with nothing read at all.
-/

namespace LivePanel.Orchestra

variable {σ : Type}

/-- The source tells a flight of a key that it does not have the key. -/
def Beat.Lacks (key : String) (e : Ensemble σ) (b : Beat σ) : Prop :=
  ∃ i f cause, e.flightAt i = some f ∧ f.key = key ∧ cause.isNotFound = true ∧
    (b = .turn i (.fingerprint (.error cause)) ∨ b = .turn i (.text (.error cause)))

/-- A flight finds the artifact in the cache fresh, and goes no further. -/
def Beat.Serves (i : Nat) (e : Ensemble σ) (b : Beat σ) : Prop :=
  ∃ f entry r, e.rest? i = some (.comparingIn f entry) ∧ b = .turn i (.fingerprint r) ∧
    entry.isFresh r = true

/-- Only a source that does not have a key leaves an artifact to the flight that it fails. -/
theorem isNotFound_of_sourceFailed {o : Orchestra σ} {key : String} {cause : SourceError}
    {b : Built} (h : (o.sourceFailed key cause).1 = .ok b) : cause.isNotFound = true := by
  unfold sourceFailed at h
  split at h
  · rename_i entry hentry
    have hkept := (Option.filter_eq_some_iff.1 hentry).2
    rw [Bool.and_eq_true] at hkept
    exact hkept.1
  · cases h

namespace Ensemble

variable [Hosted σ]

section

variable {setup : Setup σ} {scene : Scene σ} {log : ActivityLog} {before after : List (Beat σ)}
  {i : Nat} {f : Flight} {b : Built}

/-- **A flight that comes home with an artifact has read the text of it**, unless it has found it in
the cache or has been left it by a source that does not have the key; and it began to read after a
beat exactly if it was not yet reading then. -/
theorem read_of_landed (hf : ((opening setup scene log).plays before).flightAt i = some f)
    (hsource : Along (fun e b => ¬ b.Lacks f.key e) ((opening setup scene log).plays before) after)
    (hserved : Along (fun e b => ¬ b.Serves i e) ((opening setup scene log).plays before) after)
    (hl : ((opening setup scene log).plays (before ++ after)).orchestra.landing? f.id =
      some (.ok b)) :
    ∃ m, ReadAt (opening setup scene log) (before ++ after) f.key b m ∧
      (before.length ≤ m ↔
        ∀ mark, ((opening setup scene log).plays before).rest? i ≠ some (.reading f mark)) := by
  have hs : Sound ((opening setup scene log).plays before) :=
    sound_plays (sound_opening setup scene log) before
  rw [plays_append] at hl
  obtain ⟨beats, s, later, t, rfl, ht, htf, hend⟩ := ends_of_landing? hs hf hl
  obtain ⟨-, hlacks, -⟩ := (along_append _ _ beats _).1 hsource
  obtain ⟨-, hserves, -⟩ := (along_append _ _ beats _).1 hserved
  have hflight := (flightAt_of_rest? ht).trans htf
  generalize hbuilt : (Except.ok b : Landing) = l at hend
  cases hend with
  | serves hr => exact absurd ⟨_, _, _, ht, rfl, hr⟩ hserves
  | unmarked =>
    exact absurd ⟨i, f, _, hflight, rfl, isNotFound_of_sourceFailed hbuilt.symm, .inl rfl⟩ hlacks
  | unread =>
    exact absurd ⟨i, f, _, hflight, rfl, isNotFound_of_sourceFailed hbuilt.symm, .inr rfl⟩ hlacks
  | @builds mark text =>
    obtain rfl := Except.ok.inj hbuilt
    rw [← plays_append] at ht ⊢
    obtain ⟨m, hm, hiff⟩ := readAt_of_reading ht text
    refine ⟨m, ?_, ?_⟩
    · have hrun := hm.append later
      rwa [List.append_assoc, List.append_assoc] at hrun
    · have hbefore := hiff before.length (by simp)
      rw [atBeat_append_length] at hbefore
      rw [← Nat.not_lt, hbefore, not_exists]
  | breaksOff => cases hbuilt

end

/-! ### Reloads -/

/-- A source that does not fail does not lack a key. -/
theorem along_not_lacks {beats : List (Beat σ)}
    (h : ∀ i cause, .turn i (.fingerprint (.error cause)) ∉ beats ∧
      .turn i (.text (.error cause)) ∉ beats) (e : Ensemble σ) (key : String) :
    Along (fun e b => ¬ b.Lacks key e) e beats := by
  induction beats generalizing e with
  | nil => trivial
  | cons b beats ih =>
    refine ⟨?_, ih (fun i cause => ?_) _⟩
    · rintro ⟨i, _, cause, -, -, -, rfl | rfl⟩
      · exact (h i cause).1 List.mem_cons_self
      · exact (h i cause).2 List.mem_cons_self
    · exact (h i cause).imp (mt (List.mem_cons_of_mem b)) (mt (List.mem_cons_of_mem b))

/-- A forced flight is never served. -/
theorem along_not_serves {e : Ensemble σ} (he : e.Reached) {i : Nat} {f : Flight}
    (hf : e.flightAt i = some f ∨ e.rest? i = some (.done .nothing)) (hforced : f.forced = true)
    (beats : List (Beat σ)) : Along (fun e b => ¬ b.Serves i e) e beats := by
  induction beats generalizing e with
  | nil => trivial
  | cons b beats ih =>
    refine ⟨?_, ih (he.plays [b]) (flightAt_plays hf [b])⟩
    rintro ⟨g, entry, _, hi, -, -⟩
    rcases hf with hf | hf
    · obtain rfl : g = f := Option.some.inj ((flightAt_of_rest? hi).symm.trans hf)
      cases hforced.symm.trans (he.unforced hi)
    · cases hf.symm.trans hi

section

variable {e : Ensemble σ} {i : Nat} {key : String}

/-- A reload that comes when all is shut down gives no artifact. -/
theorem running_of_reload (hi : e.rest? i = some (.reload key)) {after : List (Beat σ)} {b : Built}
    (hend : (e.plays (.turn i .go :: after)).rest? i = some (.done (.landed (.ok b)))) :
    e.orchestra.shutDown = false := by
  by_contra hs
  rw [Bool.not_eq_false] at hs
  have hrefused : (e.play (.turn i .go)).rest? i = some (.done (.landed (.error .shutDown))) := by
    rw [rest?_turn_self hi]
    unfold Errand.turn
    simp [hs, Turn.over]
  cases (done_plays hrefused after).symm.trans hend

/-- A task that has waited for a flight gives the artifact that the flight has brought home. -/
theorem landing?_of_joining (hs : Sound e) {id : Nat} (hi : e.rest? i = some (.joining id false))
    {beats : List (Beat σ)} {b : Built}
    (hend : (e.plays beats).rest? i = some (.done (.landed (.ok b)))) :
    (e.plays beats).orchestra.landing? id = some (.ok b) := by
  rcases joining_plays hs hi beats with h | ⟨l, hl, h⟩ | ⟨-, h⟩
  · cases h.symm.trans hend
  · obtain ⟨⟩ := h.symm.trans hend
    exact hl
  · cases h.symm.trans hend

theorem turn_reload (hs : e.orchestra.shutDown = false) :
    (Errand.reload key).turn .go e.orchestra = e.orchestra.join key true false := by
  simp [Errand.turn, hs]

/-- A reload that finds a flight on record waits for it and launches none. -/
theorem shares_of_reload (hi : e.rest? i = some (.reload key)) (hs : e.orchestra.shutDown = false)
    {id : Nat} (hid : e.orchestra.flights.get? key = some id) :
    (e.play (.turn i .go)).rest? i = some (.joining id false) ∧
      (e.play (.turn i .go)).flightAt = e.flightAt := by
  have hjoin := (turn_reload hs).trans (join_of_flight e.orchestra key hid true false)
  refine ⟨by rw [rest?_turn_self hi, hjoin], ?_⟩
  funext k
  rw [flightAt_turn hi .go (congrArg Turn.launched hjoin), hjoin]
  split
  · rename_i hk
    rw [hk, flightAt_of_rest? hi]
    rfl
  · rfl

end

/-- **A reload gives an artifact of a text that a flight has begun to read after it, unless it
shares a flight that is under way.** Take any run and a reload in it that gives an artifact, while
the source has the key whenever it is asked for it. If no flight of the key is on record when the
reload begins, the text of the artifact was begun to be read after that. If one is, no other is
launched, and its artifact is the one that is given; and unless the flight found it in the cache,
its text was begun to be read after the reload had begun exactly if the flight was not reading
then. -/
theorem reload_reads_after_unless_shared {setup : Setup σ} {scene : Scene σ} {log : ActivityLog}
    {before after : List (Beat σ)} {i : Nat} {key : String} {b : Built}
    (hi : ((opening setup scene log).plays before).rest? i = some (.reload key))
    (hsource : Along (fun e b => ¬ b.Lacks key e) ((opening setup scene log).plays before)
      (.turn i .go :: after))
    (hend : ((opening setup scene log).plays (before ++ .turn i .go :: after)).rest? i =
      some (.done (.landed (.ok b)))) :
    let e₀ := opening setup scene log
    let e := e₀.plays before
    let run := before ++ .turn i .go :: after
    (e.orchestra.flights.get? key = none → ∃ m, before.length ≤ m ∧ ReadAt e₀ run key b m) ∧
    ∀ id, e.orchestra.flights.get? key = some id →
      (e.play (.turn i .go)).flightAt = e.flightAt ∧
      (e₀.plays run).orchestra.landing? id = some (.ok b) ∧
      ∃ j f, e.flightAt j = some f ∧ f.key = key ∧ f.id = id ∧
        (Along (fun e b => ¬ b.Serves j e) e (.turn i .go :: after) →
          ∃ m, ReadAt e₀ run key b m ∧
            (before.length ≤ m ↔ ∀ mark, e.rest? j ≠ some (.reading f mark))) := by
  intro e₀ e run
  have he : e.Reached := ⟨_, _, _, _, rfl⟩
  have hrun : e₀.plays run = (e.play (.turn i .go)).plays after := plays_append ..
  have hend' := hend
  rw [plays_append] at hend'
  have hrunning : e.orchestra.shutDown = false := running_of_reload hi hend'
  have hjoins : ∀ id, (e.play (.turn i .go)).rest? i = some (.joining id false) →
      (e₀.plays run).orchestra.landing? id = some (.ok b) := by
    intro id hid
    rw [hrun]
    exact landing?_of_joining (sound_play he.sound _) hid hend'
  constructor
  · intro hnone
    obtain ⟨hwaits, hflies⟩ := awaits_of_join hi true hnone (turn_reload hrunning)
    have hlanded := hjoins _ hwaits
    have hsplit : run = (before ++ [.turn i .go]) ++ after := by simp [run]
    have hstart : e₀.plays (before ++ [.turn i .go]) = e.play (.turn i .go) := plays_concat ..
    rw [hsplit] at hlanded ⊢
    rw [← hstart] at hflies
    have hf := flightAt_of_rest? hflies
    have hreached : (e₀.plays (before ++ [.turn i .go])).Reached := ⟨_, _, _, _, rfl⟩
    obtain ⟨m, hm, hiff⟩ :=
      read_of_landed hf (hstart ▸ hsource.2) (along_not_serves hreached (.inl hf) rfl after) hlanded
    have hlt := hiff.2 fun mark h => by cases h.symm.trans hflies
    rw [List.length_append] at hlt
    exact ⟨m, by omega, hm⟩
  · intro id hid
    obtain ⟨hwaits, hnew⟩ := shares_of_reload hi hrunning hid
    have hlanded := hjoins id hwaits
    refine ⟨hnew, hlanded, ?_⟩
    rcases he.recorded.flight _ (Table.mem_of_get? hid) with ⟨j, f, hf, rfl, rfl⟩ | hbroken
    · refine ⟨j, f, hf, rfl, rfl, fun hserved => ?_⟩
      exact read_of_landed hf hsource hserved hlanded
    · have hl := landing?_plays he.sound (.turn i .go :: after) hbroken
      rw [show e.plays (.turn i .go :: after) = e₀.plays run from hrun.symm, hlanded] at hl
      cases hl

/-- When a flight has its text, those that wait for it have its artifact. -/
theorem landed_of_reading {e : Ensemble σ} {i j : Nat} {f : Flight} {mark : Fingerprint}
    (hj : e.rest? j = some (.reading f mark)) (hi : e.rest? i = some (.joining f.id false))
    (text : String) :
    (e.plays [.turn j (.text (.ok text)), .turn i .go]).rest? i =
      some (.done (.landed (.ok (e.orchestra.builtOf text)))) := by
  have hne : i ≠ j := by
    rintro rfl
    cases hi.symm.trans hj
  have hi' : (e.play (.turn j (.text (.ok text)))).rest? i = some (.joining f.id false) := by
    rw [rest?_turn hj, if_pos (lt_of_rest? hi), if_neg hne, hi]
  have hl : (e.play (.turn j (.text (.ok text)))).orchestra.landing? f.id =
      some (.ok (e.orchestra.builtOf text)) := by
    rw [orchestra_turn hj, turn_reading]
    exact landing?_land ..
  simp only [plays_cons, plays_nil]
  rw [rest?_turn_self hi', turn_joining hl]
  rfl

/-- The flight of task `j` comes home, and task `i` takes what it brings. -/
def comesHome (j i : Nat) : List (Beat Bridge) :=
  [.turn j .go, .turn j (.fingerprint (.ok ⟨"1"⟩)), .turn j (.text (.ok "")), .turn i .go]

/-- Task `i` is a reload that gives an artifact of a text read after it. -/
def ReloadsAnew (before : List (Beat Bridge)) (i : Nat) (after : List (Beat Bridge)) : Prop :=
  (bare.plays before).rest? i = some (.reload "k") ∧
    Along (fun e b => ¬ b.Lacks "k" e) (bare.plays before) (.turn i .go :: after) ∧
    ∃ b, (bare.plays (before ++ .turn i .go :: after)).rest? i = some (.done (.landed (.ok b))) ∧
      ∃ m, before.length ≤ m ∧ ReadAt bare (before ++ .turn i .go :: after) "k" b m

/-- One reload finds no flight, and another shares that of a load which has yet to read. -/
theorem reload_reads_after_bare :
    ReloadsAnew [.call (.reload "k")] 0 (comesHome 1 0) ∧
      ReloadsAnew [.call (.load "k"), .turn 0 .go, .call (.reload "k")] 2 (comesHome 1 2) := by
  have hsource (i j : Nat) (e : Ensemble Bridge) :
      Along (fun e b => ¬ b.Lacks "k" e) e (.turn i .go :: comesHome j i) :=
    along_not_lacks (by simp [comesHome]) _ _
  constructor
  · have hi : (bare.plays [.call (.reload "k")]).rest? 0 = some (.reload "k") := rfl
    have hreading : (bare.plays ([.call (.reload "k"), .turn 0 .go] ++
        (comesHome 1 0).take 2)).rest? 1 = some (.reading ⟨0, "k", true, 0⟩ ⟨"1"⟩) := rfl
    have hend := landed_of_reading hreading (i := 0) rfl ""
    rw [← plays_append] at hend
    exact ⟨hi, hsource .., _, hend,
      (reload_reads_after_unless_shared hi (hsource ..) hend).1 rfl⟩
  · let before : List (Beat Bridge) := [.call (.load "k"), .turn 0 .go, .call (.reload "k")]
    have hi : (bare.plays before).rest? 2 = some (.reload "k") := rfl
    have hbuild : (bare.plays before).rest? 1 = some (.build ⟨0, "k", false, 0⟩) := rfl
    have hreading : (bare.plays (before ++ .turn 2 .go :: (comesHome 1 2).take 2)).rest? 1 =
        some (.reading ⟨0, "k", false, 0⟩ ⟨"1"⟩) := rfl
    have hend := landed_of_reading hreading (i := 2) rfl ""
    rw [← plays_append] at hend
    obtain ⟨-, -, j, f, hf, -, hid, hread⟩ :=
      (reload_reads_after_unless_shared hi (hsource ..) hend).2 0 rfl
    have hsound : Sound (bare.plays before) := Reached.sound ⟨_, _, _, _, rfl⟩
    obtain rfl : j = 1 := hsound.apart hf (flightAt_of_rest? hbuild) hid
    have hserves : Along (fun e b => ¬ b.Serves 1 e) (bare.plays before)
        (.turn 2 .go :: comesHome 1 2) := by
      refine ⟨?_, ?_, ?_, ?_, ?_, trivial⟩ <;> rintro ⟨g, entry, answer, hcomparing, hb, -⟩
      all_goals cases hb
      cases hcomparing
    obtain ⟨m, hm, hiff⟩ := hread hserves
    have hlater : before.length ≤ m := hiff.2 fun mark h => by cases hbuild.symm.trans h
    exact ⟨hi, hsource .., _, hend, m, hlater, hm⟩

/-- **A reload may give an artifact of a text that was begun to be read before it was called.** It
shares the flight of a load that reads by then, and the source has the key all along. -/
theorem reload_returns_earlier_text :
    let before : List (Beat Bridge) := [.call (.load "k"), .turn 0 .go, .turn 1 .go,
      .turn 1 (.fingerprint (.ok ⟨"1"⟩))]
    let run := before ++ [.call (.reload "k"), .turn 2 .go, .turn 1 (.text (.ok "")), .turn 2 .go]
    Along (fun e b => ¬ b.Lacks "k" e) bare run ∧
      ∃ b, (bare.plays run).rest? 2 = some (.done (.landed (.ok b))) ∧
        (∃ m, ReadAt bare run "k" b m) ∧ ∀ m, ReadAt bare run "k" b m → m < before.length := by
  intro before run
  have hreading : (bare.plays (before ++ [.call (.reload "k"), .turn 2 .go])).rest? 1 =
      some (.reading ⟨0, "k", false, 0⟩ ⟨"1"⟩) := rfl
  have hend := landed_of_reading hreading (i := 2) rfl ""
  rw [← plays_append] at hend
  have hread : ReadAt bare run "k" _ 3 :=
    ⟨1, ⟨0, "k", false, 0⟩, ⟨"1"⟩, 6, rfl, ⟨rfl, rfl⟩, ⟨hreading, "", rfl, rfl⟩⟩
  refine ⟨along_not_lacks (by simp [run, before]) _ _, _, hend, ⟨3, hread⟩, fun m hm => ?_⟩
  rw [hm.unique hread]
  decide

/-- A load builds a text. The source is edited, so that a second load finds the artifact stale and
launches a flight. -/
def edited (text : String) : List (Beat Bridge) :=
  [.call (.load "k"), .turn 0 .go, .turn 1 .go, .turn 1 (.fingerprint (.ok ⟨"1"⟩)),
    .turn 1 (.text (.ok text)), .turn 0 .go, .call (.load "k"), .turn 2 .go,
    .turn 2 (.fingerprint (.ok ⟨"2"⟩))]

/-- **A reload may be served from the cache.** It joins the flight of a load that has not asked for
anything yet, but which may be served; the edit is undone before the flight asks for the
fingerprint, and the reload has the artifact that was there before, with nothing read since. -/
theorem reload_served_from_cache :
    let before := edited "name: a\nbootstrap: a\ncomponents: []"
    let run := before ++ [.call (.reload "k"), .turn 4 .go, .turn 3 .go,
      .turn 3 (.fingerprint (.ok ⟨"1"⟩)), .turn 4 .go]
    Along (fun e b => ¬ b.Lacks "k" e) bare run ∧
      (bare.plays before).rest? 3 = some (.build ⟨1, "k", false, 0⟩) ∧
      ∃ b, (bare.plays run).rest? 4 = some (.done (.landed (.ok b))) ∧
        (∃ m, ReadAt bare run "k" b m) ∧ ∀ m, ReadAt bare run "k" b m → m < before.length := by
  intro before run
  have hend : (bare.plays run).rest? 4 = some (.done (.landed (.ok
      ((bare.plays (before.take 4)).orchestra.builtOf
        "name: a\nbootstrap: a\ncomponents: []")))) := rfl
  have hreading : (bare.plays (before.take 4)).rest? 1 =
      some (.reading ⟨0, "k", false, 0⟩ ⟨"1"⟩) := rfl
  have hread : ReadAt bare run "k" _ 3 :=
    ⟨1, ⟨0, "k", false, 0⟩, ⟨"1"⟩, 4, rfl, ⟨rfl, rfl⟩, ⟨hreading, _, rfl, rfl⟩⟩
  refine ⟨along_not_lacks (by simp [run, before, edited]) _ _, rfl, _, hend, ⟨3, hread⟩,
    fun m hm => ?_⟩
  rw [hm.unique hread]
  decide

end Ensemble

end LivePanel.Orchestra
