import LivePanel.Proofs.State.Reading
import LivePanel.Proofs.Text.Cutting

/-!
# Writes that are refused

A write goes down its path and may find, at any depth, that there is no way on. What stands in its way
is told here by reading the state alone (`Bars`), without a writer.

The value of a store is in fact changed in place: on the way down objects are put where nothing was
and in place of null, and arrays grow, before it is known whether the way goes on. `writeInPlace`
works like this and tells what it leaves behind. Below what it has put there is nothing to stop it,
so a write that meets an obstacle has put nothing.

## What is proved

* `write_eq_error_iff`: a write meets an obstacle if and only if something bars its way, and it is
  this one.
* `writeInPlace_eq`: writing in place comes to the same, and leaves what there was if it fails.
* `set_fails_iff`: both for stores and paths in text.
-/

namespace LivePanel

namespace State

open Text

/-! ### What a path says -/

/-- `r` is what a path says: the path without blanks at its ends, and without `state.` in front. -/
def Says (path r : String) : Prop :=
  ∃ t : String, Trims path.toList t.toList ∧
    (t = "state." ++ r ∨ r = t ∧ ∀ r', t ≠ "state." ++ r')

theorem relative_eq_of_trim {path t : String} (h : trim path = t) :
    relative path = (dropPrefix? "state." t).getD t := by rw [relative, h]

theorem trims_trim (path : String) : Trims path.toList (trim path).toList := by
  rw [trim, String.toList_ofList]
  exact trimChars_eq_iff.1 rfl

theorem says_relative (path : String) : Says path (relative path) := by
  refine ⟨trim path, trims_trim path, ?_⟩
  rw [relative_eq_of_trim rfl]
  cases h : dropPrefix? "state." (trim path) with
  | some r => exact .inl (dropPrefix?_eq_some_iff.1 h)
  | none =>
    refine .inr ⟨rfl, fun r' hr' => ?_⟩
    rw [dropPrefix?_eq_some_iff.2 hr'] at h
    cases h

theorem Says.relative_eq {path r : String} (h : Says path r) : relative path = r := by
  obtain ⟨t, htrims, ht⟩ := h
  have htrim : trim path = t := by rw [trim, trimChars_eq_iff.2 htrims, String.ofList_toList]
  rw [relative_eq_of_trim htrim]
  rcases ht with ht | ⟨rfl, ht⟩
  · rw [dropPrefix?_eq_some_iff.2 ht, Option.getD_some]
  · cases hdrop : dropPrefix? "state." r with
    | none => rfl
    | some r' => exact absurd (dropPrefix?_eq_some_iff.1 hdrop) (ht r')

/-- A path says one thing, and this is what is left of it. -/
theorem says_iff {path r : String} : Says path r ↔ r = relative path :=
  ⟨fun h => h.relative_eq.symm, fun h => h ▸ says_relative path⟩

theorem segments?_eq (path : String) : segments? path =
    if "" ∈ splitAtChar '.' path then none else some (splitAtChar '.' path) := by
  have hany : (splitAtChar '.' path).any String.isEmpty = true ↔ "" ∈ splitAtChar '.' path := by
    simp
  simp only [segments?, hany]

/-! ### What bars the way -/

/-- What stands at `c` is a member of an object. -/
def IsMember (root : Value) (c : List String) : Prop :=
  ∃ c' k fields, c = c' ++ [k] ∧ root.atPath? c' = some (.obj fields)

/-- Whoever has come to `c` cannot go on to the segment `s` from there, because of the obstacle. -/
inductive Bars (root : Value) (c : List String) (s : String) : Obstacle → Prop where
  /-- There is a value, and it holds no others; null may be a member of an object. -/
  | scalar {w : Value} (h : root.atPath? c = some w) (hobj : w.isObj = false)
      (harr : ∀ items, w ≠ .arr items) (hnull : w = .null → ¬ IsMember root c) :
      Bars root c s (.scalar s)
  | notIndex {items : List Value} (h : root.atPath? c = some (.arr items))
      (hs : index? s.toList = none) : Bars root c s (.scalar s)
  /-- The index is beyond the place behind the last element. -/
  | beyond {items : List Value} {i : Nat} (h : root.atPath? c = some (.arr items))
      (hs : index? s.toList = some i) (hi : items.length < i) : Bars root c s (.beyond i)

/-- The obstacle is somewhere on the way along `p`. -/
def Barred (root : Value) (p : List String) (o : Obstacle) : Prop :=
  ∃ c s rest, p = c ++ s :: rest ∧ Bars root c s o

section

variable {root x : Value} {s t : String} {c rest : List String} {o : Obstacle}

theorem not_isMember_nil : ¬ IsMember root [] := by
  rintro ⟨c', k, fields, hc, -⟩
  simp at hc

theorem isMember_cons (hx : root.child? s = some x) : IsMember root (s :: c) ↔
    c = [] ∧ root.isObj = true ∨ IsMember x c := by
  constructor
  · rintro ⟨c', k, fields, hc, hat⟩
    cases c' with
    | nil =>
      rw [List.nil_append, List.cons.injEq] at hc
      rw [Value.atPath?_nil, Option.some.injEq] at hat
      exact .inl ⟨hc.2, hat ▸ rfl⟩
    | cons s' c' =>
      rw [List.cons_append, List.cons.injEq] at hc
      obtain ⟨rfl, rfl⟩ := hc
      rw [Value.atPath?_cons, hx, Option.bind_some] at hat
      exact .inr ⟨c', k, fields, rfl, hat⟩
  · rintro (⟨rfl, hobj⟩ | ⟨c', k, fields, rfl, hat⟩)
    · cases root with
      | obj fields => exact ⟨[], s, fields, rfl, Value.atPath?_nil _⟩
      | _ => cases hobj
    · exact ⟨s :: c', k, fields, rfl, by rw [Value.atPath?_cons, hx, Option.bind_some, hat]⟩

/-- What bars the way depends on what stands there, and for null on where it stands. -/
theorem Bars.congr {root' : Value} {c' : List String} (h : Bars root c t o)
    (hat : root'.atPath? c' = root.atPath? c)
    (hmember : root.atPath? c = some .null → IsMember root' c' → IsMember root c) :
    Bars root' c' t o := by
  cases h with
  | scalar h hobj harr hnull =>
    refine .scalar (hat.trans h) hobj harr fun hw => ?_
    subst hw
    exact mt (hmember h) (hnull rfl)
  | notIndex h hs => exact .notIndex (hat.trans h) hs
  | beyond h hs hi => exact .beyond (hat.trans h) hs hi

/-- What bars the way behind a slot bars the way through it, unless it is null in an object. -/
theorem bars_cons (hx : root.child? s = some x) (hnull : x = .null → root.isObj = false) :
    Bars root (s :: c) t o ↔ Bars x c t o := by
  have hat : root.atPath? (s :: c) = x.atPath? c := by
    rw [Value.atPath?_cons, hx, Option.bind_some]
  refine ⟨fun h => h.congr hat.symm fun _ hm => (isMember_cons hx).2 (.inr hm),
    fun h => h.congr hat fun hc hm => ((isMember_cons hx).1 hm).resolve_left ?_⟩
  rintro ⟨rfl, hobj⟩
  rw [Value.atPath?_nil, Option.some.injEq] at hc
  rw [hnull hc] at hobj
  cases hobj

/-- What bars the way is there, and it is no object, nor null in an object. -/
theorem Bars.exists_at (h : Bars root c t o) :
    ∃ w, root.atPath? c = some w ∧ w.isObj = false ∧ (w = .null → ¬ IsMember root c) := by
  cases h with
  | scalar h hobj _ hnull => exact ⟨_, h, hobj, hnull⟩
  | notIndex h => exact ⟨_, h, rfl, nofun⟩
  | beyond h => exact ⟨_, h, rfl, nofun⟩

theorem not_bars_of_none (hx : root.child? s = none) : ¬ Bars root (s :: c) t o := by
  intro h
  obtain ⟨w, hw, -⟩ := h.exists_at
  rw [Value.atPath?_cons, hx] at hw
  cases hw

theorem not_bars_obj (fields : Table Value) : ¬ Bars (.obj fields) [] t o := by
  intro h
  obtain ⟨w, hw, hobj, -⟩ := h.exists_at
  cases hw
  cases hobj

/-- Null that is a member of an object bars no way. -/
theorem not_bars_null {fields : Table Value} (hx : Table.get? fields s = some .null) :
    ¬ Bars (.obj fields) (s :: c) t o := by
  have hchild : (Value.obj fields).child? s = some .null := hx
  intro h
  obtain ⟨w, hw, -, hnull⟩ := h.exists_at
  rw [Value.atPath?_cons, hchild, Option.bind_some] at hw
  by_cases hc : c = []
  · subst hc
    cases hw
    exact hnull rfl ((isMember_cons hchild).2 (.inl ⟨rfl, rfl⟩))
  · cases (atPath?_null hc).symm.trans hw

/-! ### Obstacles on the way -/

theorem not_barred_nil : ¬ Barred root [] o := by
  rintro ⟨c, s, rest, hp, -⟩
  simp at hp

theorem barred_cons : Barred root (s :: rest) o ↔
    Bars root [] s o ∨ ∃ c t rest', rest = c ++ t :: rest' ∧ Bars root (s :: c) t o := by
  constructor
  · rintro ⟨c, t, rest', hp, h⟩
    cases c with
    | nil =>
      rw [List.nil_append, List.cons.injEq] at hp
      obtain ⟨rfl, -⟩ := hp
      exact .inl h
    | cons s' c =>
      rw [List.cons_append, List.cons.injEq] at hp
      obtain ⟨rfl, rfl⟩ := hp
      exact .inr ⟨c, t, rest', rfl, h⟩
  · rintro (h | ⟨c, t, rest', rfl, h⟩)
    · exact ⟨[], s, rest, rfl, h⟩
    · exact ⟨s :: c, t, rest', rfl, h⟩

theorem barred_cons_of_child (hx : root.child? s = some x) (hnull : x = .null → root.isObj = false) :
    Barred root (s :: rest) o ↔ Bars root [] s o ∨ Barred x rest o := by
  rw [barred_cons]
  simp only [bars_cons hx hnull, Barred]

/-- Nothing is in the way where nothing is. -/
theorem not_barred_obj_nil (p : List String) : ¬ Barred (.obj []) p o := by
  cases p with
  | nil => exact not_barred_nil
  | cons s rest =>
    rw [barred_cons]
    rintro (h | ⟨c, t, rest', -, h⟩)
    · exact not_bars_obj [] h
    · exact not_bars_of_none rfl h

theorem barred_obj (fields : Table Value) : Barred (.obj fields) (s :: rest) o ↔
    Barred (orObject (Table.get? fields s)) rest o := by
  have hroom : (∀ c t, ¬ Bars (.obj fields) (s :: c) t o) →
      (Barred (.obj fields) (s :: rest) o ↔ Barred (.obj []) rest o) := by
    intro h
    refine iff_of_false ?_ (not_barred_obj_nil rest)
    rw [barred_cons]
    rintro (h' | ⟨c, t, rest', -, h'⟩)
    · exact not_bars_obj fields h'
    · exact h c t h'
  have hslot : ∀ w, Table.get? fields s = some w → w ≠ .null →
      (Barred (.obj fields) (s :: rest) o ↔ Barred w rest o) := by
    intro w hw hne
    have hchild : (Value.obj fields).child? s = some w := hw
    rw [barred_cons_of_child hchild fun h => absurd h hne]
    exact or_iff_right (not_bars_obj fields)
  cases hx : Table.get? fields s with
  | none => exact hroom fun c t => not_bars_of_none hx
  | some w =>
    cases w with
    | null => exact hroom fun c t => not_bars_null hx
    | _ => exact hslot _ hx nofun

theorem bars_arr (items : List Value) : Bars (.arr items) [] s o ↔
    (index? s.toList = none ∧ o = .scalar s) ∨
      ∃ i, index? s.toList = some i ∧ items.length < i ∧ o = .beyond i := by
  constructor
  · intro h
    cases h with
    | scalar h _ harr => exact absurd (Option.some.inj h).symm (harr items)
    | notIndex h hs => exact .inl ⟨hs, rfl⟩
    | beyond h hs hi =>
      cases h
      exact .inr ⟨_, hs, hi, rfl⟩
  · rintro (⟨hs, rfl⟩ | ⟨i, hs, hi, rfl⟩)
    · exact .notIndex (Value.atPath?_nil _) hs
    · exact .beyond (Value.atPath?_nil _) hs hi

theorem barred_arr {items : List Value} {i : Nat} (hs : index? s.toList = some i) :
    Barred (.arr items) (s :: rest) o ↔
      (items.length < i ∧ o = .beyond i) ∨ Barred (items[i]?.getD (.obj [])) rest o := by
  have hchild : (Value.arr items).child? s = items[i]? := by simp only [Value.child?, hs]
  have hhere : Bars (.arr items) [] s o ↔ items.length < i ∧ o = .beyond i := by
    simp [bars_arr, hs]
  cases hslot : items[i]? with
  | none =>
    rw [barred_cons, hhere, Option.getD_none]
    simp only [not_barred_obj_nil, not_bars_of_none (hchild.trans hslot), and_false, exists_false]
  | some slot =>
    rw [barred_cons_of_child (hchild.trans hslot) fun _ => rfl, hhere, Option.getD_some]

theorem barred_scalar (hobj : root.isObj = false) (harr : ∀ items, root ≠ .arr items) :
    Barred root (s :: rest) o ↔ o = .scalar s := by
  rw [barred_cons]
  constructor
  · rintro (h | ⟨c, t, rest', -, h⟩)
    · cases h with
      | scalar => rfl
      | notIndex h => exact absurd (Option.some.inj h) (harr _)
      | beyond h => exact absurd (Option.some.inj h) (harr _)
    · exact absurd h (not_bars_of_none (Value.child?_eq_none hobj harr s))
  · rintro rfl
    exact .inl (.scalar (Value.atPath?_nil _) hobj harr fun _ => not_isMember_nil)

end

/-! ### Obstacles that a write meets -/

/-- **A write meets the obstacle that bars its way**, and if nothing does it succeeds. -/
theorem write_eq_error_iff {v root : Value} {p : List String} {o : Obstacle} :
    write v p root = .error o ↔ Barred root p o := by
  induction p generalizing root o with
  | nil => exact iff_of_false (by simp [write]) not_barred_nil
  | cons s rest ih =>
    cases root with
    | obj fields =>
      rw [barred_obj, ← ih, write]
      cases write v rest (orObject (Table.get? fields s)) <;> simp
    | arr items =>
      rw [write]
      cases hs : index? s.toList with
      | none =>
        have hchild : (Value.arr items).child? s = none := by simp only [Value.child?, hs]
        rw [barred_cons, bars_arr]
        simp [hs, not_bars_of_none hchild, eq_comm]
      | some i =>
        have hfresh : ∀ o, write v rest (.obj []) ≠ .error o := fun o h =>
          not_barred_obj_nil rest (ih.1 h)
        rw [barred_arr hs, ← ih]
        rcases Nat.lt_trichotomy i items.length with hlt | rfl | hlt
        · have hslot : items[i]? = some items[i] := List.getElem?_eq_getElem hlt
          simp only [if_neg (Nat.ne_of_lt hlt), hslot, Option.getD_some, Nat.lt_asymm hlt,
            false_and, false_or]
          cases write v rest items[i] <;> simp
        · have hslot : items[items.length]? = none := List.getElem?_eq_none (Nat.le_refl _)
          simp only [if_pos, hslot, Option.getD_none, Nat.lt_irrefl, false_and, false_or]
          cases write v rest (.obj []) <;> simp
        · have hslot : items[i]? = none := List.getElem?_eq_none (Nat.le_of_lt hlt)
          simp only [if_neg (Nat.ne_of_gt hlt), hslot, Option.getD_none, hlt, true_and, hfresh,
            or_false, Except.error.injEq, eq_comm]
    | _ =>
      rw [barred_scalar rfl (by simp)]
      simp [write, eq_comm]

theorem exists_write_obj_nil (v : Value) (p : List String) : ∃ w, write v p (.obj []) = .ok w := by
  cases h : write v p (.obj []) with
  | ok w => exact ⟨w, rfl⟩
  | error o => exact absurd (write_eq_error_iff.1 h) (not_barred_obj_nil p)

/-! ### Writing in place -/

/-- What is left in place of a value in which `v` is written at the segments, and the obstacle that
was met, if any. What is put on the way down is there whether the way goes on or not. -/
def writeInPlace (v : Value) : List String → Value → Value × Option Obstacle
  | [], _ => (v, none)
  | s :: rest, .obj fields =>
    let (left, met) := writeInPlace v rest (orObject (Table.get? fields s))
    (.obj (Table.put fields s left), met)
  | s :: rest, .arr items =>
    match index? s.toList with
    | none => (.arr items, some (.scalar s))
    | some i =>
      let items := if i = items.length then items ++ [.obj []] else items
      match items[i]? with
      | none => (.arr items, some (.beyond i))
      | some slot =>
        let (left, met) := writeInPlace v rest slot
        (.arr (items.set i left), met)
  | s :: _, target => (target, some (.scalar s))

/-- A write that fails behind a member has found the member there. -/
theorem get?_of_write_error {v : Value} {rest : List String} {x : Option Value} {o : Obstacle}
    (h : write v rest (orObject x) = .error o) : x = some (orObject x) := by
  obtain ⟨w, hw⟩ := exists_write_obj_nil v rest
  rcases goesOn_orObject x with hx | ⟨-, hx⟩
  · exact hx
  · rw [hx, hw] at h
    cases h

/-- **Writing in place comes to what writing comes to, and leaves what there was if it fails.** -/
theorem writeInPlace_eq (v : Value) (p : List String) {target : Value} (ht : target.Ordered) :
    writeInPlace v p target =
      match write v p target with
      | .ok w => (w, none)
      | .error o => (target, some o) := by
  induction p generalizing target with
  | nil => rfl
  | cons s rest ih =>
    cases target with
    | obj fields =>
      rw [writeInPlace, write, ih (ordered_orObject ht s)]
      cases h : write v rest (orObject (Table.get? fields s)) with
      | ok w => rfl
      | error o =>
        have hput : Table.put fields s (orObject (Table.get? fields s)) = fields :=
          Table.put_of_get? ht.keys (get?_of_write_error h)
        simp only [hput]
    | arr items =>
      rw [writeInPlace, write]
      cases hs : index? s.toList with
      | none => rfl
      | some i =>
        by_cases hi : i = items.length
        · subst hi
          obtain ⟨w, hw⟩ := exists_write_obj_nil v rest
          have hempty := ih (.obj Table.ordered_nil (by simp))
          simp [hempty, hw]
        · simp only [if_neg hi]
          cases hslot : items[i]? with
          | none => rfl
          | some slot =>
            simp only [ih (ht.item hslot)]
            cases write v rest slot with
            | ok w => rfl
            | error o =>
              obtain ⟨hlt, rfl⟩ := List.getElem?_eq_some_iff.1 hslot
              simp only [List.set_getElem_self]
    | _ => rfl

/-! ### Stores -/

/-- The error that tells of an obstacle. -/
def Obstacle.error (path : String) : Obstacle → WriteError
  | .scalar s => .notAContainer path s
  | .beyond i => .indexOutOfBounds path i

namespace Store

/-- A write at a path is refused, and why. -/
inductive Refuses (s : Store) (path : String) : WriteError → Prop where
  | invalidPath (h : "" ∈ splitAtChar '.' (relative path)) :
      Refuses s path (.invalidPath (relative path))
  | obstacle {o : Obstacle} (h : "" ∉ splitAtChar '.' (relative path))
      (ho : Barred s.value (splitAtChar '.' (relative path)) o) : Refuses s path (o.error path)

/-- What is left of a store in which `v` is written at a path, in place, and the error if the write
fails. Only a write that succeeds is counted. -/
def setInPlace (s : Store) (path : String) (v : Value) : Store × Option WriteError :=
  match segments? (relative path) with
  | none => (s, some (.invalidPath (relative path)))
  | some p =>
    match writeInPlace v p s.value with
    | (left, none) => (⟨left, s.revision + 1⟩, none)
    | (left, some o) => (⟨left, s.revision⟩, some (o.error path))

theorem set_of_invalid (s : Store) {path : String} (v : Value)
    (h : "" ∈ splitAtChar '.' (relative path)) :
    s.set path v = .error (.invalidPath (relative path)) := by
  unfold set
  rw [segments?_eq, if_pos h]

theorem set_of_valid (s : Store) {path : String} (v : Value)
    (h : "" ∉ splitAtChar '.' (relative path)) :
    s.set path v =
      match write v (splitAtChar '.' (relative path)) s.value with
      | .ok w => .ok ⟨w, s.revision + 1⟩
      | .error o => .error (o.error path) := by
  unfold set
  simp only [segments?_eq, if_neg h]
  cases write v (splitAtChar '.' (relative path)) s.value with
  | ok w => rfl
  | error o => cases o <;> rfl

/-- A write fails with the error that tells why it is refused. -/
theorem set_eq_error_iff (s : Store) (path : String) (v : Value) (e : WriteError) :
    s.set path v = .error e ↔ s.Refuses path e := by
  by_cases hvalid : "" ∈ splitAtChar '.' (relative path)
  · rw [set_of_invalid s v hvalid, Except.error.injEq]
    constructor
    · rintro rfl
      exact .invalidPath hvalid
    · rintro (h | ⟨h, -⟩)
      · rfl
      · exact absurd hvalid h
  · rw [set_of_valid s v hvalid]
    constructor
    · intro h
      split at h
      · cases h
      · rename_i o ho
        cases h
        exact .obstacle hvalid (write_eq_error_iff.1 ho)
    · rintro (h | ⟨-, ho⟩)
      · exact absurd h hvalid
      · rw [write_eq_error_iff.2 ho]

theorem setInPlace_eq {s : Store} (hs : s.value.Ordered) (path : String) (v : Value) :
    s.setInPlace path v =
      match s.set path v with
      | .ok s' => (s', none)
      | .error e => (s, some e) := by
  by_cases hvalid : "" ∈ splitAtChar '.' (relative path)
  · rw [set_of_invalid s v hvalid]
    unfold setInPlace
    rw [segments?_eq, if_pos hvalid]
  · rw [set_of_valid s v hvalid]
    unfold setInPlace
    rw [segments?_eq, if_neg hvalid]
    simp only [writeInPlace_eq v _ hs]
    cases write v (splitAtChar '.' (relative path)) s.value <;> rfl

end Store

/-- **When a write fails, and what it leaves.** It fails if and only if what the path says is empty,
has an empty segment, or leads past something that bars its way; the error tells which of these it
is. A write in place of a value in order comes to the same as `set`: if it fails, the value and the
count of writes are what they were. -/
theorem set_fails_iff (s : Store) (path : String) (v : Value) :
    (∀ r, Says path r ↔ r = relative path) ∧
    ((∃ e, s.set path v = .error e) ↔
      relative path = "" ∨ "" ∈ splitAtChar '.' (relative path) ∨
        ∃ c t rest o, splitAtChar '.' (relative path) = c ++ t :: rest ∧ Bars s.value c t o) ∧
    (∀ e, s.set path v = .error e ↔ s.Refuses path e) ∧
    (s.value.Ordered → s.setInPlace path v =
      match s.set path v with
      | .ok s' => (s', none)
      | .error e => (s, some e)) := by
  refine ⟨fun r => says_iff, ?_, s.set_eq_error_iff path v, fun hs => Store.setInPlace_eq hs path v⟩
  simp only [Store.set_eq_error_iff]
  constructor
  · rintro ⟨e, h | ⟨-, c, t, rest, hp, hbars⟩⟩
    · exact .inr (.inl h)
    · exact .inr (.inr ⟨c, t, rest, _, hp, hbars⟩)
  · intro h
    by_cases hvalid : "" ∈ splitAtChar '.' (relative path)
    · exact ⟨_, .invalidPath hvalid⟩
    · rcases h with hempty | h | ⟨c, t, rest, o, hp, hbars⟩
      · rw [hempty] at hvalid
        exact absurd (List.mem_singleton.2 rfl) hvalid
      · exact absurd h hvalid
      · exact ⟨_, .obstacle hvalid ⟨c, t, rest, hp, hbars⟩⟩

/-- Null that is an element bars the way, null that is a member does not. -/
theorem set_fails_iff_null :
    let s : Store := ⟨.obj [("rows", .arr [.null]), ("user", .null)], 3⟩
    s.value.Ordered ∧
      s.Refuses "state.rows.+0.id" (.notAContainer "state.rows.+0.id" "id") ∧
      s.setInPlace "state.rows.+0.id" .null =
        (s, some (.notAContainer "state.rows.+0.id" "id")) ∧
      ¬ ∃ e, s.Refuses "state.user.id" e := by
  intro s
  have hs : s.value.Ordered := by
    refine .obj (List.pairwise_pair.2 (by decide)) ?_
    exact List.forall_mem_cons.2 ⟨.arr (List.forall_mem_singleton.2 .null),
      List.forall_mem_singleton.2 .null⟩
  obtain ⟨-, -, hrows, hplace⟩ := set_fails_iff s "state.rows.+0.id" .null
  obtain ⟨-, -, huser, -⟩ := set_fails_iff s "state.user.id" .null
  have hfails : s.set "state.rows.+0.id" .null =
      .error (.notAContainer "state.rows.+0.id" "id") := rfl
  have hleft := hplace hs
  rw [hfails] at hleft
  refine ⟨hs, (hrows _).1 hfails, hleft, ?_⟩
  rintro ⟨e, he⟩
  cases (huser e).2 he

end State

end LivePanel
