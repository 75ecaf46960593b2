import LivePanel.Proofs.State.Refusing
import Mathlib.Data.List.Basic

/-!
# What a write changes

A write puts a value at one place of the state. Reading goes down a path with its own steps, and here
the two are held together: what is read at the written path and below it, and that another path which
at some container takes another slot (`Leaves`) is not touched, through arrays whose elements have
several names, through members that are null and through what the write has created.

## What is proved

* `atPath?_write`: below the written path is what was written.
* `get_after_set`: for stores and paths in text, this, and that elsewhere is what was there before.
-/

namespace LivePanel

namespace State

open Text

/-! ### Below the written path -/

variable {v target out : Value} {p : List String}

/-- **Below the written path is what was written.** -/
theorem atPath?_write (h : write v p target = .ok out) (q : List String) :
    out.atPath? (p ++ q) = v.atPath? q := by
  induction p generalizing target out with
  | nil =>
    cases h
    rfl
  | cons s rest ih =>
    cases written_of_write h with
    | member hw =>
      simp only [List.cons_append, Value.atPath?_cons, Value.child?, Table.get?_put_self,
        Option.bind_some]
      exact ih hw
    | item hi hw hitems =>
      simp only [List.cons_append, Value.atPath?_cons, Value.child?, hi, hitems, if_true,
        Option.bind_some]
      exact ih hw

/-- An object that is written into stays one. -/
theorem isObj_of_write (h : write v p target = .ok out) (hp : p ≠ [])
    (hobj : target.isObj = true) : out.isObj = true := by
  cases p with
  | nil => exact absurd rfl hp
  | cons s rest =>
    cases written_of_write h with
    | member => rfl
    | item => cases hobj

/-! ### Paths in text -/

/-- The segments by which a path is read; the empty path has none. -/
def segments (path : String) : List String :=
  if relative path = "" then [] else splitAtChar '.' (relative path)

theorem get?_eq (s : Store) (path : String) : s.get? path = s.value.atPath? (segments path) := by
  unfold Store.get? Value.lookup? segments
  by_cases h : relative path = ""
  · rw [if_pos h, h, Value.atPath?_nil]
    rfl
  · rw [if_neg h, if_neg (mt String.isEmpty_iff.1 h)]

/-- A write that succeeds goes by the segments of its path, and is counted. -/
theorem write_segments_of_set {s s' : Store} {path : String} (h : s.set path v = .ok s') :
    relative path ≠ "" ∧ segments path ≠ [] ∧ write v (segments path) s.value = .ok s'.value ∧
      s'.revision = s.revision + 1 := by
  by_cases hvalid : "" ∈ splitAtChar '.' (relative path)
  · rw [s.set_of_invalid v hvalid] at h
    cases h
  · have hne : relative path ≠ "" := by
      intro hempty
      rw [hempty] at hvalid
      exact hvalid (List.mem_singleton.2 rfl)
    have hsegments : segments path = splitAtChar '.' (relative path) := if_neg hne
    rw [s.set_of_valid v hvalid, ← hsegments] at h
    split at h
    · rename_i w hw
      cases h
      refine ⟨hne, fun hnil => ?_, hw, rfl⟩
      obtain ⟨piece, rest, hcut, -⟩ := exists_splitAtChar '.' (relative path)
      rw [hsegments, hcut] at hnil
      cases hnil
    · cases h

/-! ### Longer paths -/

/-- A path, without blanks at its end, that goes on with a point and more segments. -/
def extended (path more : String) : String :=
  String.ofList (trimEndChars path.toList) ++ "." ++ more

section

variable {path more : String}

theorem getLast?_not_blank {cs more : List Char} (hmore : more ≠ [])
    (hblank : ∀ c ∈ more, isBlank c = false) : ∀ c ∈ (cs ++ more).getLast?, isBlank c = false := by
  intro c hc
  rw [List.getLast?_append_of_ne_nil _ hmore] at hc
  exact hblank c (List.mem_of_getLast? hc)

/-- `state.` can only be in front of a longer path if it was, or the path is `state`. -/
theorem eq_state_of_append {t r : List Char}
    (h : t ++ '.' :: more.toList = "state.".toList ++ r) :
    t = "state".toList ∨ ∃ r', t = "state.".toList ++ r' := by
  rcases List.append_eq_append_iff.1 h with ⟨a, ha, hmore⟩ | ⟨a, ha, -⟩
  · cases a with
    | nil => exact .inr ⟨[], by simpa using ha.symm⟩
    | cons c a =>
      obtain ⟨rfl, -⟩ := List.cons.inj hmore
      have hdot : "state.".toList = ['s', 't', 'a', 't', 'e', '.'] := rfl
      rw [hdot] at ha
      have hboth : t = "state".toList ∧ a = [] := by simpa [List.cons_eq_append_iff] using ha
      exact .inl hboth.1
  · exact .inr ⟨a, ha⟩

/-- What an extended path says, unless the path is `state`. -/
theorem says_extended (hr : relative path ≠ "") (hstate : trim path ≠ "state") (hmore : more ≠ "")
    (hblank : ∀ c ∈ more.toList, isBlank c = false) :
    Says (extended path more) (relative path ++ "." ++ more) := by
  obtain ⟨t, htrims, ht⟩ := says_relative path
  have htrim : trim path = t := by rw [trim, trimChars_eq_iff.2 htrims, String.ofList_toList]
  obtain ⟨before, after, hpath, hbefore, hafter, hhead, hlast⟩ := htrims
  have hne : t.toList ≠ [] := by
    intro hnil
    rw [String.toList_eq_nil_iff] at hnil
    subst hnil
    rcases ht with ht | ⟨ht, -⟩
    · have := congrArg String.toList ht
      simp at this
    · exact hr ht
  have hmore' : more.toList ≠ [] := mt String.toList_eq_nil_iff.1 hmore
  have hend : trimEndChars path.toList = before ++ t.toList := by
    rw [hpath]
    exact trimEndChars_append hafter (by rwa [List.getLast?_append_of_ne_nil _ hne])
  refine ⟨t ++ "." ++ more, ⟨before, [], ?_, hbefore, by simp [Blanks], ?_, ?_⟩, ?_⟩
  · simp [extended, hend]
  · obtain ⟨c, cs, hcs⟩ := List.exists_cons_of_ne_nil hne
    simpa [hcs] using hhead
  · rw [String.toList_append]
    exact getLast?_not_blank hmore' hblank
  · rcases ht with ht | ⟨ht, hnot⟩
    · exact .inl (by rw [ht]; simp only [String.append_assoc])
    · refine .inr ⟨by rw [ht], fun r' hr' => ?_⟩
      have hchars : t.toList ++ '.' :: more.toList = "state.".toList ++ r'.toList := by
        simpa using congrArg String.toList hr'
      rcases eq_state_of_append hchars with h | ⟨a, ha⟩
      · exact hstate (htrim.trans (String.toList_inj.1 h))
      · exact hnot (.ofList a) (String.toList_inj.1 (by simpa using ha))

/-- With `state.` in front every path can be extended. -/
theorem says_prefixed (r : String) (hmore : more ≠ "")
    (hblank : ∀ c ∈ more.toList, isBlank c = false) :
    Says ("state." ++ r ++ "." ++ more) (r ++ "." ++ more) := by
  have hmore' : more.toList ≠ [] := mt String.toList_eq_nil_iff.1 hmore
  refine ⟨"state." ++ r ++ "." ++ more, ⟨[], [], by simp, by simp [Blanks], by simp [Blanks], ?_, ?_⟩,
    .inl (by simp only [String.append_assoc])⟩
  · simp
    decide
  · rw [String.toList_append]
    exact getLast?_not_blank hmore' hblank

/-- What was said by `r` and by `more` is said by both with a point between them. -/
theorem Says.get?_eq {s : Store} {longer r : String} (h : Says longer (r ++ "." ++ more)) :
    s.get? longer = s.value.atPath? (splitAtChar '.' r ++ splitAtChar '.' more) := by
  have hne : r ++ "." ++ more ≠ "" := by
    intro he
    have := congrArg String.toList he
    simp at this
  rw [State.get?_eq, segments, ← says_iff.1 h, if_neg hne, splitAtChar_append '.' "." rfl]

end

/-- **Reading after a write.** At the written path stands what was written, and below it what that
holds: the path without blanks at its end can be extended, unless it is `state`, and with `state.` in
front it always can. The root stays an object, one more write is counted, and every path that
leaves the written one reads what it read. -/
theorem get_after_set {s s' : Store} {path : String} {v : Value} (h : s.set path v = .ok s') :
    s'.get? path = some v ∧
    (∀ more, more ≠ "" → (∀ c ∈ more.toList, isBlank c = false) →
      (trim path ≠ "state" → s'.get? (extended path more) = v.lookup? more) ∧
      s'.get? ("state." ++ relative path ++ "." ++ more) = v.lookup? more) ∧
    (s.value.isObj = true → s'.value.isObj = true) ∧ s'.revision = s.revision + 1 ∧
    ∀ q, Leaves (some s.value) (segments path) (segments q) → s'.get? q = s.get? q := by
  obtain ⟨hr, hne, hw, hrevision⟩ := write_segments_of_set h
  have hbelow : ∀ longer more, more ≠ "" → Says longer (relative path ++ "." ++ more) →
      s'.get? longer = v.lookup? more := by
    intro longer more hmore hlonger
    have hlookup : v.lookup? more = v.atPath? (splitAtChar '.' more) :=
      if_neg (mt String.isEmpty_iff.1 hmore)
    have hsegments : segments path = splitAtChar '.' (relative path) := if_neg hr
    rw [hlonger.get?_eq, ← hsegments, atPath?_write hw, hlookup]
  refine ⟨?_, fun more hmore hblank => ⟨fun hstate => ?_, ?_⟩, isObj_of_write hw hne, hrevision,
    fun q hq => ?_⟩
  · have hself := atPath?_write hw []
    rwa [List.append_nil, Value.atPath?_nil, ← get?_eq] at hself
  · exact hbelow _ _ hmore (says_extended hr hstate hmore hblank)
  · exact hbelow _ _ hmore (says_prefixed _ hmore hblank)
  · rw [get?_eq, get?_eq]
    exact atPath?_write_of_leaves hw hq

/-- One element of an array has many names, and another path may go along by another one. -/
theorem get_after_set_element :
    let s : Store := ⟨.obj [("rows", .arr [.obj [("id", .ofNat 1), ("name", .str "a")]])], 0⟩
    let s' : Store := ⟨.obj [("rows", .arr [.obj [("id", .ofNat 2), ("name", .str "a")]])], 1⟩
    s.set " state.rows.00.id" (.ofNat 2) = .ok s' ∧
      s'.get? " state.rows.00.id" = some (.ofNat 2) ∧
      s'.get? "rows.+0.name" = s.get? "rows.+0.name" := by
  intro s s'
  have h : s.set " state.rows.00.id" (.ofNat 2) = .ok s' := rfl
  obtain ⟨hself, -, -, -, helse⟩ := get_after_set h
  refine ⟨h, hself, helse "rows.+0.name" ?_⟩
  have hpath : segments " state.rows.00.id" = ["rows", "00", "id"] := rfl
  have hother : segments "rows.+0.name" = ["rows", "+0", "name"] := rfl
  rw [hpath, hother]
  have hkeys : "id" ≠ "name" := by decide
  exact .along rfl (.along ⟨0, rfl, rfl⟩ (.here hkeys))

/-- A member called `state` can be written, but `state.b` is the member `b` of the root; and blanks
at the end of a path are taken off, but those before a further segment are not. -/
theorem extended_path_reads_elsewhere :
    (∃ s', Store.empty.set "state" (.obj [("b", .ofNat 1)]) = .ok s' ∧
      s'.get? ("state" ++ "." ++ "b") ≠ (Value.obj [("b", .ofNat 1)]).lookup? "b") ∧
    ∃ s', Store.empty.set "a " (.obj [("b", .ofNat 1)]) = .ok s' ∧
      s'.get? ("a " ++ "." ++ "b") ≠ (Value.obj [("b", .ofNat 1)]).lookup? "b" := by
  refine ⟨⟨⟨.obj [("state", .obj [("b", .ofNat 1)])], 1⟩, rfl, ?_⟩,
    ⟨⟨.obj [("a", .obj [("b", .ofNat 1)])], 1⟩, rfl, ?_⟩⟩
  · intro h
    cases h
  · intro h
    cases h

end State

end LivePanel
