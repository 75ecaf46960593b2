import Mathlib.Data.List.Nodup
import LivePanel.Command.Session
import LivePanel.Proofs.Orchestra.Freshness
import LivePanel.Proofs.Orchestra.Recording
import LivePanel.Proofs.Orchestra.Sparing

/-!
# The flights of a session

The errands that a session keeps as flights, and what a turn of a flight or of another errand
does about one key.

## What is proved

* `Airborne.turn_flight`, `Airborne.turn_other`: the flights of a session have numbers of their
  own, and none has landed; a turn of a flight leaves it in the air or lands it, and another turn
  launches at most one.
* `flightTurn`: a turn of a flight spares a key, or is failed by the source, or leaves an
  artifact that is a build of the text that was read.
* `spared_of_mild`: what waits, looks for an artifact or asks for a directory spares all keys.
* `turn_notice`: a notice of a change drops the artifact of its key, and launches a flight if
  the key had an artifact or a template.
-/

namespace LivePanel.Orchestra

open Command

variable {σ : Type}

/-- The flights that errands are pieces of. -/
def inAir (ts : List Errand) : List Flight := ts.filterMap Errand.flight?

/-- Errands are flights under way: each has a number of its own that was given out, and none has
landed. -/
structure Airborne (o : Orchestra σ) (ts : List Errand) : Prop where
  flight : ∀ t ∈ ts, ∃ f, t.flight? = some f
  below : ∀ f ∈ inAir ts, f.id < o.nextFlight
  aloft : ∀ f ∈ inAir ts, o.landing? f.id = none
  apart : ((inAir ts).map (·.id)).Nodup
  landed : ∀ id l, o.landing? id = some l → id < o.nextFlight

theorem mem_inAir {ts : List Errand} {t : Errand} {f : Flight} (ht : t ∈ ts)
    (hf : t.flight? = some f) : f ∈ inAir ts := List.mem_filterMap.2 ⟨t, ht, hf⟩

theorem inAir_eq (ts : List Errand) : inAir ts = (ts.map Errand.flight?).filterMap id := by
  rw [inAir, List.filterMap_map]
  rfl

namespace Airborne

variable {o o' : Orchestra σ} {t : Errand} {ts ts' front back : List Errand}

/-- The flights go on as they are. -/
theorem goOn (h : Airborne o ts) (hf : ts'.map Errand.flight? = ts.map Errand.flight?)
    (hl : o'.landed = o.landed) (hx : o'.nextFlight = o.nextFlight) : Airborne o' ts' := by
  have hair : inAir ts' = inAir ts := by rw [inAir_eq, inAir_eq, hf]
  have hl := Ensemble.landing?_eq_of_landed hl
  refine ⟨fun t ht => ?_, ?_, ?_, hair ▸ h.apart, ?_⟩
  · have hm : t.flight? ∈ ts.map Errand.flight? := hf ▸ List.mem_map_of_mem ht
    obtain ⟨t', ht', heq⟩ := List.mem_map.1 hm
    exact heq ▸ h.flight t' ht'
  · rw [hair, hx]
    exact h.below
  · intro f hf
    rw [hl]
    exact h.aloft f (hair ▸ hf)
  · intro id l hid
    rw [hx]
    exact h.landed id l ((hl id).symm.trans hid)

/-- One flight lands. -/
theorem land (h : Airborne o (front ++ t :: back)) {f : Flight} (hf : t.flight? = some f)
    {l : Landing} (hl : o'.landed = (f.id, l) :: o.landed) (hx : o'.nextFlight = o.nextFlight) :
    Airborne o' (front ++ back) := by
  have hair : inAir (front ++ t :: back) = inAir front ++ f :: inAir back := by
    rw [inAir, List.filterMap_append, List.filterMap_cons_some hf]
    rfl
  have hair' : inAir (front ++ back) = inAir front ++ inAir back := List.filterMap_append
  have hl := Ensemble.landing?_of_landed hl
  have hsub : (inAir (front ++ back)).Sublist (inAir (front ++ t :: back)) := by
    rw [hair, hair']
    exact (List.Sublist.refl _).append (List.sublist_cons_self ..)
  refine ⟨fun t' ht' => h.flight t' ?_, fun g hg => hx ▸ h.below g (hsub.subset hg), ?_,
    h.apart.sublist (hsub.map _), ?_⟩
  · simp only [List.mem_append, List.mem_cons] at ht' ⊢
    exact ht'.imp id .inr
  · intro g hg
    have hne : g.id ≠ f.id := by
      have hapart := h.apart
      rw [hair, List.map_append, List.map_cons, List.nodup_middle, ← List.map_append,
        ← hair'] at hapart
      rintro heq
      exact (List.nodup_cons.1 hapart).1 (heq ▸ List.mem_map_of_mem hg)
    rw [hl, if_neg hne]
    exact h.aloft g (hsub.subset hg)
  · intro id l' hid
    rw [hx]
    rw [hl] at hid
    split at hid
    · rename_i heq
      exact heq ▸ h.below f (hair ▸ List.mem_append_right _ List.mem_cons_self)
    · exact h.landed id l' hid

/-- One flight is launched. -/
theorem launch (h : Airborne o ts) {f : Flight} (hf : f.id = o.nextFlight)
    (hl : o'.landed = o.landed) (hx : o'.nextFlight = o.nextFlight + 1) :
    Airborne o' (ts ++ [.build f]) := by
  have hair : inAir (ts ++ [.build f]) = inAir ts ++ [f] := List.filterMap_append
  have hl := Ensemble.landing?_eq_of_landed hl
  have hnew : o.landing? f.id = none := by
    cases hid : o.landing? f.id with
    | none => rfl
    | some l => exact absurd (h.landed _ l hid) (by omega)
  refine ⟨?_, ?_, ?_, ?_, ?_⟩
  · intro t ht
    rcases List.mem_append.1 ht with ht | ht
    · exact h.flight t ht
    · exact ⟨f, List.mem_singleton.1 ht ▸ rfl⟩
  · intro g hg
    rw [hair, List.mem_append, List.mem_singleton] at hg
    rcases hg with hg | rfl
    · have := h.below g hg
      omega
    · omega
  · intro g hg
    rw [hl]
    rw [hair, List.mem_append, List.mem_singleton] at hg
    rcases hg with hg | rfl
    · exact h.aloft g hg
    · exact hnew
  · rw [hair, List.map_append, List.nodup_append]
    refine ⟨h.apart, by simp, ?_⟩
    intro id hid id' hid'
    obtain ⟨g, hg, rfl⟩ := List.mem_map.1 hid
    obtain rfl := List.mem_singleton.1 hid'
    have hlt : g.id < f.id := hf ▸ h.below g hg
    exact Nat.ne_of_lt hlt
  · intro id l hid
    have := h.landed id l ((hl id).symm.trans hid)
    omega

variable [Hosted σ] {s : Signal} {turn : Turn σ}

/-- **A turn of an errand that is no flight may launch one.** -/
theorem turn_other (h : Airborne o ts) (hc : Course o t s turn) (ht : t.flight? = none) :
    Airborne turn.orchestra (ts ++ turn.launched) := by
  cases hc.flown with
  | goesOn _ hn hl hx => exact hn ▸ h.goOn (by simp) hl hx
  | lands hf => cases hf.symm.trans ht
  | launches _ _ hn hi _ hl hx => exact hn ▸ h.launch hi hl hx

end Airborne

/-! ### What a turn leaves of a key -/

/-- What is left of a flight that goes for the text of its key, whatever the cache may hold. -/
inductive Errand.WillRead (entry : Option CacheEntry) (f : Flight) : Errand → Prop where
  | build (h : f.forced = true ∨ entry = none) : WillRead entry f (.build f)
  | marking : WillRead entry f (.marking f)
  | reading (mark : Fingerprint) : WillRead entry f (.reading f mark)

theorem Errand.WillRead.flight? {entry : Option CacheEntry} {f : Flight} {t : Errand}
    (h : t.WillRead entry f) : t.flight? = some f := by
  cases h <;> rfl

/-- A flight of the current generation of a key goes for the text. -/
def Expects (o : Orchestra σ) (ts : List Errand) (key : String) (id : Nat) : Prop :=
  ∃ t ∈ ts, ∃ f, t.WillRead (o.cache.get? key) f ∧ f.key = key ∧ f.id = id ∧
    f.generation = o.generation key

/-- A flight that goes for the text goes on to do so, as long as the cache stays as it is. -/
theorem Expects.spared {o o' : Orchestra σ} {ts ts' : List Errand} {key : String} {id : Nat}
    (h : Expects o ts key id) (hs : Spared key o o')
    (hts : ∀ t ∈ ts, ∀ f, t.WillRead (o.cache.get? key) f → f.key = key →
      f.generation = o.generation key → ∃ t' ∈ ts', t'.WillRead (o.cache.get? key) f) :
    Expects o' ts' key id := by
  obtain ⟨t, ht, f, hr, hk, hid, hg⟩ := h
  obtain ⟨t', ht', hr'⟩ := hts t ht f hr hk hg
  exact ⟨t', ht', f, hs.entry ▸ hr', hk, hid, hg.trans hs.generation.symm⟩

/-- An artifact is a build of a text. -/
def IsBuildOfText (setup : Setup σ) (text : String) (a : Build.Artifact) : Prop :=
  ∃ host world, a = (Build.text setup.options setup.registry text host world).1

/-- The artifact of a key is a build of a text. -/
def Shows (o : Orchestra σ) (key text : String) : Prop :=
  ∃ entry, o.cache.get? key = some entry ∧ IsBuildOfText o.setup text entry.built.artifact

theorem Shows.spared {o o' : Orchestra σ} {key text : String} (h : Shows o key text)
    (hs : Spared key o o') : Shows o' key text := by
  obtain ⟨entry, he, hb⟩ := h
  exact ⟨entry, hs.entry.trans he, hs.setup ▸ hb⟩

section

variable (o : Orchestra σ) (key : String)

variable [Hosted σ]

end

/-- An errand that waits, or looks for an artifact, or watches: it neither builds nor drops. -/
def Errand.IsMild : Errand → Prop
  | .load _ => True
  | .comparing .. => True
  | .joining .. => True
  | .watch _ => True
  | .readying _ => True
  | _ => False

theorem Errand.IsMild.flight? {t : Errand} (h : t.IsMild) : t.flight? = none := by
  cases t <;> first | rfl | exact h.elim

section

variable [Hosted σ] {o : Orchestra σ} {key : String}

/-- A load of a key that has neither artifact nor flight launches one. -/
theorem turn_load (hs : o.shutDown = false) (he : o.cache.get? key = none)
    (hf : o.flights.get? key = none) :
    (Errand.load key).turn .go o =
      ⟨o.embark key, .joining o.nextFlight false, [.build (o.nextOf key false)]⟩ := by
  unfold Errand.turn
  simp only [hs, Bool.false_eq_true, if_false, he]
  exact join_of_none o key hf false false

/-- An errand waits for a flight that has not landed. -/
theorem turn_joining_of_none {id : Nat} {silent : Bool} (h : o.landing? id = none) :
    (Errand.joining id silent).turn .go o = ⟨o, .joining id silent, []⟩ := by
  unfold Errand.turn
  simp only [h]

end

end LivePanel.Orchestra
