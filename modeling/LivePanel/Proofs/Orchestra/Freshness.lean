import Mathlib.Data.List.Induction
import LivePanel.Proofs.Orchestra.Keeping
import LivePanel.Proofs.Orchestra.Overtaking

/-!
# Hits and the texts behind them

An artifact in the cache is served for as long as its source gives the fingerprint that the
artifact carries. The flight that built it has asked for the fingerprint first and for the text
afterwards, and the source may be edited at any time, so the text that was built need not be the
one that the fingerprint belongs to. Where fingerprints tell texts apart, an edit between the two
answers makes the artifact miss from then on, unless the edit is undone: then the artifact of the
other text is served.

## What is proved

* `fresh_append`: each artifact of a source goes back to two answers that its flight was given.
* `hit_current_unless_edited`: a hit gives the text for which its fingerprint stands if and only
  if the flight has read that text.
* `hit_stale_after_edit_undone`: a flight may have read another one.
-/

namespace LivePanel.Orchestra

variable {σ : Type}

/-! ### What the source held -/

/-- The beats of a run, each with the text that the source held under a key when it gave the answer
that the beat brings. -/
abbrev History (σ : Type) := List (Option String × Beat σ)

/-- What a source may answer that holds a text, or none, and has a fingerprint for each text. It may
fail at any time. -/
def Signal.Answers (φ : String → Fingerprint) (held : Option String) : Signal → Prop
  | .fingerprint (.ok mark) => held.map φ = some mark
  | .text (.ok s) => held = some s
  | _ => True

/-- What the source is asked for a key it answers by the text that it holds. -/
def Beat.Truthful (φ : String → Fingerprint) (key : String) (e : Ensemble σ)
    (held : Option String) (b : Beat σ) : Prop :=
  ∀ i s t, b = .turn i s → e.rest? i = some t → t.Touches e.orchestra.setup.keyOf? key →
    s.Answers φ held

/-- A run of an action of a key has a turn. -/
def Beat.Runs (key : String) (e : Ensemble σ) (b : Beat σ) : Prop :=
  ∃ i s t l, b = .turn i s ∧ e.rest? i = some t ∧ t.run? e.orchestra = some (key, l)

/-- The artifact of a key that an errand has found, and asks the source about. -/
def Errand.finds? (key : String) : Errand → Option CacheEntry
  | .comparing k entry => if k = key then some entry else none
  | .comparingIn f entry => if f.key = key then some entry else none
  | _ => none

/-- An artifact of a key is served from the cache. -/
def Beat.Hits (key : String) (entry : CacheEntry) (e : Ensemble σ) (b : Beat σ) : Prop :=
  ∃ i t r, b = .turn i (.fingerprint r) ∧ e.rest? i = some t ∧ t.finds? key = some entry ∧
    entry.isFresh r = true

/-- An errand waits for an answer of the source. -/
def Errand.Asks : Errand → Prop
  | .comparing .. => True
  | .comparingIn .. => True
  | .marking _ => True
  | .reading .. => True
  | _ => False

theorem Errand.asks_of_finds? {t : Errand} {key : String} {entry : CacheEntry}
    (h : t.finds? key = some entry) : t.Asks := by
  cases t <;> trivial

theorem Errand.touches_of_finds? {t : Errand} {keyOf? : String → Option String} {key : String}
    {entry : CacheEntry} (h : t.finds? key = some entry) : t.Touches keyOf? key := by
  cases t with
  | comparing | comparingIn =>
    simp only [finds?, Option.ite_none_right_eq_some] at h
    exact h.1
  | _ => cases h

/-! ### Where errands that ask the source come from -/

section

variable [Hosted σ]

/-- A flight that reads the text has had its fingerprint before. -/
theorem reading_of_turn {o : Orchestra σ} {t : Errand} {s : Signal} {f : Flight}
    {mark : Fingerprint} (h : (t.turn s o).errand = .reading f mark) :
    t = .reading f mark ∨ t = .marking f ∧ s = .fingerprint (.ok mark) := by
  have hc := course o t s
  generalize t.turn s o = turn at h hc
  cases hc with
  | unmoved => exact .inl h
  | marks =>
    cases h
    exact .inr ⟨rfl, rfl⟩
  | notes _ hr =>
    subst h
    exact hr.elim
  | _ => cases h

/-- The artifact that an errand asks about is the one in the cache when it began to ask. -/
theorem finds?_of_turn {o : Orchestra σ} {t : Errand} {s : Signal} {key : String}
    {entry : CacheEntry} (h : (t.turn s o).errand.finds? key = some entry) :
    t.finds? key = some entry ∨ o.cache.get? key = some entry := by
  have hc := course o t s
  generalize t.turn s o = turn at h hc
  cases hc with
  | unmoved => exact .inl h
  | compares he | comparesIn _ he =>
    simp only [Errand.finds?, Option.ite_none_right_eq_some] at h
    obtain ⟨rfl, heq⟩ := h
    exact .inr (he.trans heq)
  | @notes _ t' _ _ _ hr =>
    have ha := Errand.asks_of_finds? h
    cases t' <;> first | exact ha.elim | exact hr.elim
  | _ => cases h

end

namespace Ensemble

variable [Hosted σ]

/-- A task that has only begun has not asked the source for anything. -/
theorem not_asks_of_begun {e : Ensemble σ} {b : Beat σ} {i : Nat} {t : Errand}
    (h : e.rest? i = none) (h' : (e.play b).rest? i = some t) : ¬ t.Asks := by
  rcases begun_of_play h h' with ⟨c, rfl⟩ | ⟨f, rfl⟩
  · cases c <;> exact id
  · exact id

/-- A task that asks the source has done so before, or begins to do so with this turn. -/
theorem rest?_of_asks {e : Ensemble σ} {b : Beat σ} {i : Nat} {t : Errand}
    (h : (e.play b).rest? i = some t) (ha : t.Asks) :
    e.rest? i = some t ∨
      ∃ s t₀, b = .turn i s ∧ e.rest? i = some t₀ ∧ t = (t₀.turn s e.orchestra).errand := by
  cases hi : e.rest? i with
  | none => exact absurd ha (not_asks_of_begun hi h)
  | some t₀ =>
    rcases rest?_play hi b with h' | ⟨s, hb, h'⟩ | ⟨-, -, h'⟩
    · exact .inl (h'.symm.trans h)
    · exact .inr ⟨s, t₀, hb, rfl, Option.some.inj (h.symm.trans h')⟩
    · obtain rfl := Option.some.inj (h'.symm.trans h)
      exact ha.elim

/-! ### Histories -/

/-- Play the beats of a history. -/
def passes (e : Ensemble σ) (h : History σ) : Ensemble σ := e.plays (h.map Prod.snd)

/-- The ensemble before the `m`-th beat of a history. -/
def upTo (e : Ensemble σ) (h : History σ) (m : Nat) : Ensemble σ := e.passes (h.take m)

/-- A history in which the source answers by what it holds under a key, and no action of the key
runs. -/
def Witnessed (φ : String → Fingerprint) (key : String) : Ensemble σ → History σ → Prop
  | _, [] => True
  | e, (held, b) :: h =>
    (b.Truthful φ key e held ∧ ¬ b.Runs key e) ∧ Witnessed φ key (e.play b) h

section

variable (e : Ensemble σ) (h h' : History σ) (x : Option String × Beat σ)

theorem passes_append : e.passes (h ++ h') = (e.passes h).passes h' := by
  unfold passes
  rw [List.map_append, plays_append]

theorem passes_concat : e.passes (h ++ [x]) = (e.passes h).play x.2 := passes_append ..

theorem upTo_append {m : Nat} (hm : m ≤ h.length) : e.upTo (h ++ h') m = e.upTo h m := by
  unfold upTo
  rw [List.take_append_of_le_length hm]

theorem upTo_length : e.upTo h h.length = e.passes h := by
  unfold upTo
  rw [List.take_length]

theorem upTo_succ {m : Nat} (hx : h[m]? = some x) : e.upTo h (m + 1) = (e.upTo h m).play x.2 := by
  unfold upTo
  rw [List.take_add_one, hx]
  exact passes_concat ..

theorem grows_upTo {m n : Nat} (hmn : m ≤ n) :
    Grows (e.upTo h m).orchestra (e.upTo h n).orchestra := by
  obtain ⟨later, hlater⟩ := List.take_prefix_take_left (l := h) hmn
  unfold upTo
  rw [← hlater, passes_append]
  exact grows_plays ..

theorem witnessed_append (φ : String → Fingerprint) (key : String) :
    Witnessed φ key e (h ++ h') ↔ Witnessed φ key e h ∧ Witnessed φ key (e.passes h) h' := by
  induction h generalizing e with
  | nil => simp [Witnessed, passes]
  | cons y h ih =>
    simp only [List.cons_append, Witnessed, ih, and_assoc]
    rfl

end

/-! ### The two answers behind an artifact -/

variable (φ : String → Fingerprint) (e₀ : Ensemble σ) (h : History σ) (key : String)

/-- At beat `m` of a history, a flight of a key has the fingerprint of a text. -/
structure Marks (i : Nat) (f : Flight) (mark : Fingerprint) (text : String) (m : Nat) : Prop where
  key : f.key = key
  rest : (e₀.upTo h m).rest? i = some (.marking f)
  beat : h[m]? = some (some text, .turn i (.fingerprint (.ok mark)))
  mark : φ text = mark

/-- At beat `r` of a history, a flight has a text, and builds the artifact of an entry from it. -/
structure Reads (i : Nat) (f : Flight) (entry : CacheEntry) (text : String) (r : Nat) : Prop where
  rest : (e₀.upTo h r).rest? i = some (.reading f entry.fingerprint)
  beat : h[r]? = some (some text, .turn i (.text (.ok text)))
  built : entry.built = (e₀.upTo h r).orchestra.builtOf text

/-- The flight that has built an artifact of a key had the fingerprint of one text and then read a
text, which may be another one. -/
def Made (entry : CacheEntry) (marked read : String) : Prop :=
  ∃ i f m r, m < r ∧ Marks φ e₀ h key i f entry.fingerprint marked m ∧
    Reads e₀ h i f entry read r

section

variable {φ e₀ h key}

theorem Marks.lt {i m : Nat} {f : Flight} {mark : Fingerprint} {text : String}
    (hm : Marks φ e₀ h key i f mark text m) : m < h.length :=
  (List.getElem?_eq_some_iff.1 hm.beat).1

theorem Marks.append {i m : Nat} {f : Flight} {mark : Fingerprint} {text : String}
    (hm : Marks φ e₀ h key i f mark text m) (h' : History σ) :
    Marks φ e₀ (h ++ h') key i f mark text m where
  key := hm.key
  rest := (e₀.upTo_append h h' (Nat.le_of_lt hm.lt)).symm ▸ hm.rest
  beat := (List.getElem?_append_left hm.lt).trans hm.beat
  mark := hm.mark

theorem Reads.append {i r : Nat} {f : Flight} {entry : CacheEntry} {text : String}
    (hr : Reads e₀ h i f entry text r) (h' : History σ) :
    Reads e₀ (h ++ h') i f entry text r := by
  have hlt := (List.getElem?_eq_some_iff.1 hr.beat).1
  have heq := e₀.upTo_append h h' (Nat.le_of_lt hlt)
  exact ⟨heq ▸ hr.rest, (List.getElem?_append_left hlt).trans hr.beat, heq ▸ hr.built⟩

theorem Made.append {entry : CacheEntry} {marked read : String}
    (hm : Made φ e₀ h key entry marked read) (h' : History σ) :
    Made φ e₀ (h ++ h') key entry marked read := by
  obtain ⟨i, f, m, r, hmr, hmarks, hreads⟩ := hm
  exact ⟨i, f, m, r, hmr, hmarks.append h', hreads.append h'⟩

theorem Reads.serial {i r : Nat} {f : Flight} {entry : CacheEntry} {text : String}
    (hr : Reads e₀ h i f entry text r) :
    entry.built.serial = (e₀.upTo h r).orchestra.nextBuilt := congrArg Built.serial hr.built

/-- The number of an artifact is not given out again. -/
theorem Reads.nextBuilt_lt {i r r' : Nat} {f : Flight} {entry : CacheEntry} {text : String}
    (hr : Reads e₀ h i f entry text r) (hlt : r < r') :
    entry.built.serial < (e₀.upTo h r').orchestra.nextBuilt := by
  have hg : (e₀.upTo h (r + 1)).orchestra.nextBuilt ≤ (e₀.upTo h r').orchestra.nextBuilt :=
    (e₀.grows_upTo h hlt).nextBuilt
  have hl := ledger_buildText (e₀.upTo h r).orchestra f.key text entry.fingerprint .source
    f.generation true
  have hn : (e₀.upTo h (r + 1)).orchestra.nextBuilt = (e₀.upTo h r).orchestra.nextBuilt + 1 := by
    rw [e₀.upTo_succ h _ hr.beat, orchestra_turn hr.rest, turn_reading]
    exact congrArg Ledger.nextBuilt hl
  have hid := hr.serial
  omega

/-- An artifact was built from one text. -/
theorem Reads.unique {i i' r r' : Nat} {f f' : Flight} {entry : CacheEntry} {text text' : String}
    (hr : Reads e₀ h i f entry text r) (hr' : Reads e₀ h i' f' entry text' r') :
    text = text' := by
  rcases Nat.lt_trichotomy r r' with hlt | rfl | hlt
  · exact absurd hr'.serial (Nat.ne_of_lt (hr.nextBuilt_lt hlt))
  · have heq := Option.some.inj (hr.beat.symm.trans hr'.beat)
    exact Option.some.inj (congrArg Prod.fst heq)
  · exact absurd hr.serial (Nat.ne_of_lt (hr'.nextBuilt_lt hlt))

/-- Where fingerprints tell texts apart, the two texts behind an artifact are known. -/
theorem Made.unique (hφ : ∀ a b, φ a = φ b → a = b) {entry : CacheEntry}
    {marked read marked' read' : String} (hm : Made φ e₀ h key entry marked read)
    (hm' : Made φ e₀ h key entry marked' read') : marked' = marked ∧ read' = read := by
  obtain ⟨_, _, _, _, -, hmarks, hreads⟩ := hm
  obtain ⟨_, _, _, _, -, hmarks', hreads'⟩ := hm'
  exact ⟨hφ _ _ (hmarks'.mark.trans hmarks.mark.symm), hreads'.unique hreads⟩

end

/-! ### Artifacts along a history -/

variable {φ e₀ h key}

/-- Each flight that reads and each artifact of the source goes back to the answers that were given
for it. -/
structure Fresh (φ : String → Fingerprint) (e₀ : Ensemble σ) (h : History σ) (key : String) :
    Prop where
  flights : ∀ i f mark, (e₀.passes h).rest? i = some (.reading f mark) → f.key = key →
    ∃ text m, Marks φ e₀ h key i f mark text m
  entries : ∀ entry, (e₀.passes h).orchestra.cache.get? key = some entry →
    entry.origin = .source → ∃ marked read, Made φ e₀ h key entry marked read
  found : ∀ i t entry, (e₀.passes h).rest? i = some t → t.finds? key = some entry →
    entry.origin = .source → ∃ marked read, Made φ e₀ h key entry marked read

/-- A flight that reads had its fingerprint from the source. -/
theorem Fresh.marks (hf : Fresh φ e₀ h key) {held : Option String} {b : Beat σ}
    (ht : b.Truthful φ key (e₀.passes h) held) {i : Nat} {f : Flight} {mark : Fingerprint}
    (hi : ((e₀.passes h).play b).rest? i = some (.reading f mark)) (hk : f.key = key) :
    ∃ text m, Marks φ e₀ (h ++ [(held, b)]) key i f mark text m := by
  have old : (e₀.passes h).rest? i = some (.reading f mark) →
      ∃ text m, Marks φ e₀ (h ++ [(held, b)]) key i f mark text m := by
    intro hi
    obtain ⟨text, m, hm⟩ := hf.flights i f mark hi hk
    exact ⟨text, m, hm.append _⟩
  rcases rest?_of_asks hi trivial with hold | ⟨s, t, rfl, hold, heq⟩
  · exact old hold
  · rcases reading_of_turn heq.symm with rfl | ⟨rfl, rfl⟩
    · exact old hold
    · obtain ⟨text, rfl, hmark⟩ := Option.map_eq_some_iff.1 (ht i _ _ rfl hold hk)
      refine ⟨text, h.length, hk, ?_, by simp, hmark⟩
      rw [upTo_append _ _ _ (Nat.le_refl _), upTo_length]
      exact hold

/-- An artifact in the cache was built by a flight that the source has answered. -/
theorem Fresh.made (hf : Fresh φ e₀ h key) {held : Option String} {b : Beat σ}
    (ht : b.Truthful φ key (e₀.passes h) held) (hr : ¬ b.Runs key (e₀.passes h))
    {entry : CacheEntry}
    (hc : ((e₀.passes h).play b).orchestra.cache.get? key = some entry)
    (ho : entry.origin = .source) :
    ∃ marked read, Made φ e₀ (h ++ [(held, b)]) key entry marked read := by
  cases (e₀.passes h).keeps key b with
  | lessens hle =>
    cases hle with
    | same he =>
      obtain ⟨marked, read, hm⟩ := hf.entries entry (he ▸ hc) ho
      exact ⟨marked, read, hm.append _⟩
    | dropped he => cases he.symm.trans hc
  | @built i f mark text hi hb hk _ _ hst =>
    subst hb
    obtain rfl := Option.some.inj (hst.entry.symm.trans hc)
    obtain ⟨marked, m, hm⟩ := hf.flights i f mark hi hk
    obtain rfl : held = some text := ht i _ _ rfl hi hk
    refine ⟨marked, text, i, f, m, h.length, hm.lt, hm.append _, ?_, by simp, ?_⟩
    · rw [upTo_append _ _ _ (Nat.le_refl _), upTo_length]
      exact hi
    · rw [upTo_append _ _ _ (Nat.le_refl _), upTo_length]
  | given _ hst =>
    obtain rfl := Option.some.inj (hst.entry.symm.trans hc)
    cases ho
  | rebuilt hi hb hrun => exact absurd ⟨_, _, _, _, hb, hi, hrun⟩ hr

/-- **Every beat keeps what goes back to answers of the source.** -/
theorem fresh_append (hf : Fresh φ e₀ h key) {held : Option String} {b : Beat σ}
    (ht : b.Truthful φ key (e₀.passes h) held) (hr : ¬ b.Runs key (e₀.passes h)) :
    Fresh φ e₀ (h ++ [(held, b)]) key where
  flights := by
    intro i f mark hi hk
    rw [passes_concat] at hi
    exact hf.marks ht hi hk
  entries := by
    intro entry hc ho
    rw [passes_concat] at hc
    exact hf.made ht hr hc ho
  found := by
    intro i t entry hi hfinds ho
    rw [passes_concat] at hi
    have old : ∃ marked read, Made φ e₀ h key entry marked read := by
      rcases rest?_of_asks hi (Errand.asks_of_finds? hfinds) with hold | ⟨s, t₀, -, hold, rfl⟩
      · exact hf.found i t entry hold hfinds ho
      · rcases finds?_of_turn hfinds with hfinds | hc
        · exact hf.found i t₀ entry hold hfinds ho
        · exact hf.entries entry hc ho
    obtain ⟨marked, read, hm⟩ := old
    exact ⟨marked, read, hm.append _⟩

theorem fresh_passes {setup : Setup σ} {scene : Scene σ} {log : ActivityLog}
    (hw : Witnessed φ key (opening setup scene log) h) :
    Fresh φ (opening setup scene log) h key := by
  induction h using List.reverseRecOn with
  | nil =>
    constructor
    · intro i f mark hi
      simp [passes, opening, rest?] at hi
    · intro entry hc
      cases hc
    · intro i t entry hi
      simp [passes, opening, rest?] at hi
  | append_singleton h x ih =>
    obtain ⟨hw, ⟨ht, hr⟩, -⟩ := (witnessed_append _ h [x] φ key).1 hw
    exact fresh_append (ih hw) ht hr

/-! ### Hits -/

/-- What is served goes to the load that has asked, or to those that wait for the flight. -/
theorem answered_of_hits {e : Ensemble σ} {b : Beat σ} {entry : CacheEntry}
    (hb : b.Hits key entry e) :
    (∃ i, (e.play b).rest? i = some (.done (.landed (.ok entry.built)))) ∨
      ∃ i f, e.flightAt i = some f ∧ f.key = key ∧
        (e.play b).orchestra.landing? f.id = some (.ok entry.built) := by
  obtain ⟨i, t, r, rfl, hi, hfinds, hfresh⟩ := hb
  cases t with
  | comparing k entry' =>
    simp only [Errand.finds?, Option.ite_none_right_eq_some, Option.some.injEq] at hfinds
    obtain ⟨rfl, rfl⟩ := hfinds
    refine .inl ⟨i, ?_⟩
    rw [rest?_turn hi, if_pos (lt_of_rest? hi), if_pos rfl]
    unfold Errand.turn
    simp [hfresh, Turn.over]
  | comparingIn f entry' =>
    simp only [Errand.finds?, Option.ite_none_right_eq_some, Option.some.injEq] at hfinds
    obtain ⟨rfl, rfl⟩ := hfinds
    refine .inr ⟨i, f, flightAt_of_rest? hi, rfl, ?_⟩
    rw [orchestra_turn hi]
    unfold Errand.turn
    simp only [hfresh, if_true]
    exact landing?_land ..
  | _ => cases hfinds

omit [Hosted σ] in
/-- An artifact of a source is served only for the fingerprint that it carries. -/
theorem eq_of_isFresh {entry : CacheEntry} {r : Except SourceError Fingerprint}
    (h : entry.isFresh r = true) (ho : entry.origin = .source) : r = .ok entry.fingerprint := by
  cases r with
  | ok mark => exact congrArg Except.ok (of_decide_eq_true h)
  | error cause => simp [CacheEntry.isFresh, ho] at h

/-- **A hit gives the text for which its fingerprint stands if and only if the flight that built the
artifact has read that text.** Take any run in which no action of a key runs and the source answers
by what it holds under the key, with a fingerprint of its own for each text, however it is edited.
When an artifact of the source is served, to a load or to those that wait for a flight, the text
that the source held as it gave the answering fingerprint is the one that it held as the flight that
has built the artifact was given its own; the artifact is a build of the text that this flight has
read after that. The two are the same unless the source was edited in between, and then edited
back. -/
theorem hit_current_unless_edited (hφ : ∀ a b, φ a = φ b → a = b) {setup : Setup σ}
    {scene : Scene σ} {log : ActivityLog} (hw : Witnessed φ key (opening setup scene log) h)
    {held : Option String} {b : Beat σ} {entry : CacheEntry}
    (ht : b.Truthful φ key ((opening setup scene log).passes h) held)
    (hb : b.Hits key entry ((opening setup scene log).passes h)) (ho : entry.origin = .source) :
    let e₀ := opening setup scene log
    let e := e₀.passes h
    ((∃ i, (e.play b).rest? i = some (.done (.landed (.ok entry.built)))) ∨
      ∃ i f, e.flightAt i = some f ∧ f.key = key ∧
        (e.play b).orchestra.landing? f.id = some (.ok entry.built)) ∧
    ∃ text read, held = some text ∧ Made φ e₀ h key entry text read ∧
      (∃ o : Orchestra σ, o.setup = setup ∧ entry.built = o.builtOf read) ∧
      ((∃ marked, Made φ e₀ h key entry marked text) ↔ read = text) := by
  intro e₀ e
  refine ⟨answered_of_hits hb, ?_⟩
  obtain ⟨i, t, r, rfl, hi, hfinds, hfresh⟩ := hb
  obtain rfl := eq_of_isFresh hfresh ho
  obtain ⟨marked, read, hm⟩ := (fresh_passes hw).found i t entry hi hfinds ho
  obtain ⟨text, rfl, hmark⟩ :=
    Option.map_eq_some_iff.1 (ht i _ _ rfl hi (Errand.touches_of_finds? hfinds))
  have hsame : text = marked := by
    obtain ⟨_, _, _, _, -, hmarks, -⟩ := hm
    exact hφ _ _ (hmark.trans hmarks.mark.symm)
  subst hsame
  refine ⟨text, read, rfl, hm, ?_, ?_⟩
  · obtain ⟨_, _, _, r, -, -, hreads⟩ := hm
    exact ⟨_, (grows_plays e₀ _).setup, hreads.built⟩
  · constructor
    · rintro ⟨_, hm'⟩
      exact (hm.unique hφ hm').2.symm
    · rintro rfl
      exact ⟨read, hm⟩

/-! ### Edits that are undone -/

/-- A load that comes right after a flight has read a text is the next task. -/
theorem rest?_load_of_reading {e : Ensemble σ} {i : Nat} {f : Flight} {mark : Fingerprint}
    (hi : e.rest? i = some (.reading f mark)) (text : String) :
    ((e.play (.turn i (.text (.ok text)))).play (.call (.load f.key))).rest? e.tasks.length =
      some (.load f.key) := by
  have hlen : (e.play (.turn i (.text (.ok text)))).tasks.length = e.tasks.length := by
    rw [play_turn_of_eq hi (turn_reading e.orchestra f mark text) rfl, length_setRest,
      tasks_withOrchestra]
  rw [← hlen]
  exact rest?_call _ (.load f.key)

/-- It finds the artifact of that text, under the fingerprint that the flight had before. -/
theorem rest?_of_reading {e : Ensemble σ} {i : Nat} {f : Flight} {mark : Fingerprint}
    (hi : e.rest? i = some (.reading f mark)) (hs : e.orchestra.shutDown = false)
    (hg : e.orchestra.generation f.key = f.generation) (text : String) :
    (e.plays [.turn i (.text (.ok text)), .call (.load f.key), .turn e.tasks.length .go]).rest?
      e.tasks.length = some (.comparing f.key ⟨mark, e.orchestra.builtOf text, .source⟩) := by
  have hload := rest?_load_of_reading hi text
  have ho := (orchestra_turn hi (.text (.ok text))).trans
    (congrArg Turn.orchestra (turn_reading e.orchestra f mark text))
  simp only [plays_cons, plays_nil]
  generalize e.play (.turn i (.text (.ok text))) = e' at ho hload
  have hc : e'.orchestra.cache.get? f.key =
      some ⟨mark, e.orchestra.builtOf text, .source⟩ := by
    rw [ho, cache_land]
    exact entry_buildText_of_current _ _ _ _ _ _ hs hg
  have hs' : e'.orchestra.shutDown = false := by
    have hl := e.orchestra.ledger_buildText f.key text mark .source f.generation true
    rw [ho]
    exact (congrArg Ledger.shutDown hl).trans hs
  have ho' : (e'.play (.call (.load f.key))).orchestra = e'.orchestra := rfl
  rw [rest?_turn hload, if_pos (lt_of_rest? hload), if_pos rfl, ho']
  unfold Errand.turn
  simp only [hs', Bool.false_eq_true, if_false, hc]

/-- A load whose flight has the fingerprint of a text. -/
def fetched (marked : String) : History Bridge :=
  [(none, .call (.load "k")), (none, .turn 0 .go), (none, .turn 1 .go),
    (some marked, .turn 1 (.fingerprint (.ok ⟨marked⟩)))]

/-- The flight reads another text, and a second load asks for the fingerprint. -/
def revised (marked read : String) : History Bridge :=
  fetched marked ++ [(some read, .turn 1 (.text (.ok read))), (none, .call (.load "k")),
    (none, .turn 2 .go)]

/-- The second load finds the artifact of the text that was read. -/
theorem rest?_revised (marked read : String) :
    (bare.passes (revised marked read)).rest? 2 = some (.comparing "k"
      ⟨⟨marked⟩, (bare.passes (fetched marked)).orchestra.builtOf read, .source⟩) := by
  unfold revised
  rw [passes_append]
  exact rest?_of_reading (f := ⟨0, "k", false, 0⟩) rfl rfl rfl read

omit [Hosted σ] in
/-- A turn that brings an answer of the source is truthful if the answer is. -/
theorem truthful_turn {e : Ensemble σ} {i : Nat} {s : Signal} {held : Option String}
    (hs : s.Answers φ held) : (Beat.turn i s).Truthful φ key e held := by
  intro j s' t hb _ _
  cases hb
  exact hs

omit [Hosted σ] in
theorem truthful_call {e : Ensemble σ} {c : Call} {held : Option String} :
    (Beat.call c).Truthful φ key e held := by
  intro i s t hb
  cases hb

omit [Hosted σ] in
/-- A turn of an errand that is no run. -/
theorem not_runs_turn {e : Ensemble σ} {i : Nat} {s : Signal} {t : Errand}
    (hi : e.rest? i = some t) (ht : t.run? e.orchestra = none) :
    ¬ (Beat.turn i s).Runs key e := by
  rintro ⟨j, s', t', l, hb, hj, hr⟩
  cases hb
  obtain rfl := Option.some.inj (hi.symm.trans hj)
  cases ht.symm.trans hr

omit [Hosted σ] in
theorem not_runs_call {e : Ensemble σ} {c : Call} : ¬ (Beat.call c).Runs key e := by
  rintro ⟨_, _, _, _, hb, -⟩
  cases hb

theorem witnessed_fetched (marked : String) :
    Witnessed Fingerprint.mk "k" bare (fetched marked) :=
  ⟨⟨truthful_call, not_runs_call⟩, ⟨truthful_turn trivial, not_runs_turn rfl rfl⟩,
    ⟨truthful_turn trivial, not_runs_turn rfl rfl⟩, ⟨truthful_turn rfl, not_runs_turn rfl rfl⟩,
    trivial⟩

theorem witnessed_revised (marked read : String) :
    Witnessed Fingerprint.mk "k" bare (revised marked read) := by
  refine (witnessed_append ..).2 ⟨witnessed_fetched marked, ?_⟩
  have hi : (bare.passes (fetched marked)).rest? 1 =
      some (.reading ⟨0, "k", false, 0⟩ ⟨marked⟩) := rfl
  exact ⟨⟨truthful_turn rfl, not_runs_turn hi rfl⟩, ⟨truthful_call, not_runs_call⟩,
    ⟨truthful_turn trivial, not_runs_turn (rest?_load_of_reading hi read) rfl⟩, trivial⟩

/-- The second load is served if the source holds the first text again. -/
theorem hits_revised (marked read : String) :
    (Beat.turn 2 (.fingerprint (.ok ⟨marked⟩))).Hits "k"
      ⟨⟨marked⟩, (bare.passes (fetched marked)).orchestra.builtOf read, .source⟩
      (bare.passes (revised marked read)) :=
  ⟨2, _, _, rfl, rest?_revised marked read, rfl, by simp [CacheEntry.isFresh]⟩

omit [Hosted σ] in
/-- Where there are no blocks, the artifact of a text depends on nothing else. -/
theorem artifactOf_of_unstocked {o o' : Orchestra σ} (hs : o'.setup = o.setup)
    (hr : o.setup.registry = []) (text : String) : o'.artifactOf text = o.artifactOf text := by
  unfold artifactOf
  rw [hs, hr]
  unfold Build.text Build.outcome
  split <;> rfl

/-- A load that is served while the source stands still. -/
theorem hit_current_bare :
    let e := bare.passes (revised "" "")
    let hit : Beat Bridge := .turn 2 (.fingerprint (.ok ⟨""⟩))
    Witnessed Fingerprint.mk "k" bare (revised "" "") ∧
      ∃ entry, hit.Hits "k" entry e ∧ entry.origin = .source ∧
        Made Fingerprint.mk bare (revised "" "") "k" entry "" "" := by
  intro e hit
  have hφ : ∀ a b, Fingerprint.mk a = Fingerprint.mk b → a = b := fun _ _ h => by cases h; rfl
  have hw := witnessed_revised "" ""
  have ht : hit.Truthful Fingerprint.mk "k" e (some "") := truthful_turn rfl
  have hb := hits_revised "" ""
  obtain ⟨-, text, read, htext, hm, -⟩ := hit_current_unless_edited hφ hw ht hb rfl
  obtain rfl := Option.some.inj htext
  obtain ⟨_, _, _, _, -, -, hreads⟩ := id hm
  have hread : read = "" := by
    have hmem := List.mem_of_getElem? hreads.beat
    simp [revised, fetched] at hmem
    exact hmem.1
  rw [hread] at hm
  exact ⟨hw, _, hb, rfl, hm⟩

/-- **A load may be served an artifact of a text that the source no longer holds.** The source is
edited after a flight has its fingerprint and before it reads the text, and is edited back
afterwards; the next load has the artifact of the text in between. -/
theorem hit_stale_after_edit_undone :
    let a := "name: a\nbootstrap: a\ncomponents: []"
    let b := "name: b\nbootstrap: b\ncomponents: []"
    let e := bare.passes (revised a b)
    let hit : Beat Bridge := .turn 2 (.fingerprint (.ok ⟨a⟩))
    Witnessed Fingerprint.mk "k" bare (revised a b) ∧
      hit.Truthful Fingerprint.mk "k" e (some a) ∧
      ∃ entry, hit.Hits "k" entry e ∧ entry.origin = .source ∧
        (e.play hit).rest? 2 = some (.done (.landed (.ok entry.built))) ∧
        ∀ o : Orchestra Bridge, o.setup = bare.orchestra.setup →
          entry.built.artifact ≠ o.artifactOf a := by
  intro a b e hit
  refine ⟨witnessed_revised a b, truthful_turn rfl, _, hits_revised a b, rfl, ?_, ?_⟩
  · have hi := rest?_revised a b
    rw [rest?_turn hi, if_pos (lt_of_rest? hi), if_pos rfl, turn_comparing]
    rfl
  · intro o ho
    have hset : (bare.passes (fetched a)).orchestra.setup = bare.orchestra.setup :=
      (grows_plays bare _).setup
    have hne : (bare.orchestra.artifactOf b).errors.map Build.Error.text ≠
        (bare.orchestra.artifactOf a).errors.map Build.Error.text := by
      decide +kernel
    rw [artifact_builtOf, artifactOf_of_unstocked hset rfl, artifactOf_of_unstocked ho rfl]
    exact fun h => hne (congrArg (fun x => x.errors.map Build.Error.text) h)

end Ensemble

end LivePanel.Orchestra
