import LivePanel.Build.Pass
import LivePanel.Proofs.Value.Merge
import LivePanel.Run.Step

/-!
# Reading what was written

Steps and builds do not read the store itself, they see it laid over the state that the template
declares, its defaults. A write goes to the store alone: on its way it creates objects where the
store has nothing or null, whatever the defaults have there.

A path that at some container goes on to another slot than the written one leaves it (`Leaves`). An
element of an array may have several names, and the two paths may have come there by different ones.

## What is proved

* `atPath?_write_of_leaves`: in the store, a path that leaves the written one reads what it read.
* `atPath?_merge_write`, `atPath?_merge_write_of_leaves`: what is read over the defaults at the
  written path and elsewhere.
* `read_after_set`: both for what steps and builds see of a store.
-/

namespace LivePanel

namespace State

/-- Two segments select the same slot of what is there: of an array by the index that both spell, of
anything else, and of what is not there yet, by the key that both are. -/
def SameSlot : Option Value → String → String → Prop
  | some (.arr _), a, b => ∃ i, Text.index? a.toList = some i ∧ Text.index? b.toList = some i
  | _, a, b => a = b

/-- The second path leaves the first one: up to some container both go through the same slots, and
there they go on to different ones. -/
inductive Leaves : Option Value → List String → List String → Prop where
  | here {x : Option Value} {a b : String} {p q : List String} (h : ¬ SameSlot x a b) :
      Leaves x (a :: p) (b :: q)
  | along {x : Option Value} {a b : String} {p q : List String} (h : SameSlot x a b)
      (hrest : Leaves (x.bind fun v => v.child? a) p q) : Leaves x (a :: p) (b :: q)

/-- Two paths go through the same slots along what the first one begins with. -/
inductive Together : Option Value → List String → List String → List String → Prop where
  | nil {x : Option Value} {p q : List String} : Together x p q []
  | cons {x : Option Value} {a b : String} {p q r : List String} (h : SameSlot x a b)
      (hrest : Together (x.bind fun v => v.child? a) p q r) : Together x (a :: p) (b :: q) (a :: r)

/-- What of the defaults lies under a place that is written: members of objects under members of
objects, where null and what is absent become objects on the way. -/
def beneath : Value → Value → List String → Option Value
  | d, _, [] => some d
  | .obj below, .obj above, s :: rest =>
    (Table.get? below s).bind fun b => beneath b (orObject (Table.get? above s)) rest
  | _, _, _ :: _ => none

/-- A write through `r` shows at other places too: it lays an object over an array of the defaults,
or puts one for a null that an object of the defaults lay under. -/
def Unsettles (d target : Value) (r : List String) : Prop :=
  (target.atPath? r = none ∧ ∃ items, beneath d target r = some (.arr items)) ∨
    (target.atPath? r = some .null ∧ ∃ fields, beneath d target r = some (.obj fields))

/-- What a write of `v` at `s :: rest` does to the container that it goes through. -/
inductive Written (v : Value) (s : String) (rest : List String) : Value → Value → Prop where
  | member {fields : Table Value} {w : Value}
      (h : write v rest (orObject (Table.get? fields s)) = .ok w) :
      Written v s rest (.obj fields) (.obj (Table.put fields s w))
  | item {items items' : List Value} {i : Nat} {w : Value} (hi : Text.index? s.toList = some i)
      (h : write v rest (items[i]?.getD (.obj [])) = .ok w)
      (hw : ∀ j, items'[j]? = if j = i then some w else items[j]?) :
      Written v s rest (.arr items) (.arr items')

theorem getElem?_concat (items : List Value) (w : Value) (j : Nat) :
    (items ++ [w])[j]? = if j = items.length then some w else items[j]? := by
  rw [List.getElem?_append]
  split
  · rw [if_neg (by omega)]
  · rename_i hj
    split
    · simp [*]
    · rw [List.getElem?_eq_none (by simp; omega), List.getElem?_eq_none (by omega)]

theorem getElem?_set_of_some {items : List Value} {i : Nat} {slot : Value}
    (h : items[i]? = some slot) (w : Value) (j : Nat) :
    (items.set i w)[j]? = if j = i then some w else items[j]? := by
  have hi : i < items.length := (List.getElem?_eq_some_iff.1 h).1
  rw [List.getElem?_set]
  by_cases hj : j = i
  · simp [hj, hi]
  · simp [hj, Ne.symm hj]

/-- A write goes through a container, and changes there one slot alone. -/
theorem written_of_write {v : Value} {s : String} {rest : List String} {target out : Value}
    (h : write v (s :: rest) target = .ok out) : Written v s rest target out := by
  cases target with
  | obj fields =>
    simp only [write] at h
    split at h
    · rename_i w hw
      cases h
      exact .member hw
    · cases h
  | arr items =>
    simp only [write] at h
    split at h
    · cases h
    · rename_i i hi
      split at h
      · rename_i hlen
        split at h
        · rename_i w hw
          cases h
          refine .item hi (by simpa [hlen] using hw) fun j => ?_
          rw [hlen]
          exact getElem?_concat items w j
        · cases h
      · split at h
        · cases h
        · rename_i slot hslot
          split at h
          · rename_i w hw
            cases h
            refine .item hi (by simpa [hslot] using hw) fun j => ?_
            exact getElem?_set_of_some hslot w j
          · cases h
  | _ => cases h

/-! ### Going on with a write -/

theorem atPath?_obj_nil {q : List String} (hq : q ≠ []) : (Value.obj []).atPath? q = none := by
  cases q with
  | nil => exact absurd rfl hq
  | cons => rfl

theorem atPath?_null {q : List String} (hq : q ≠ []) : Value.null.atPath? q = none := by
  cases q with
  | nil => exact absurd rfl hq
  | cons => rfl

/-- The value that a write goes on with in a slot: what is there, or an empty object in place of
null or of nothing. -/
def GoesOn (slot : Option Value) (v : Value) : Prop :=
  slot = some v ∨ (slot.getD .null = .null ∧ v = .obj [])

theorem goesOn_orObject (x : Option Value) : GoesOn x (orObject x) := by
  cases x with
  | none => exact .inr ⟨rfl, rfl⟩
  | some v =>
    cases v with
    | null => exact .inr ⟨rfl, rfl⟩
    | _ => exact .inl rfl

theorem goesOn_getD (x : Option Value) : GoesOn x (x.getD (.obj [])) := by
  cases x with
  | none => exact .inr ⟨rfl, rfl⟩
  | some v => exact .inl rfl

theorem GoesOn.atPath? {x : Option Value} {v : Value} (h : GoesOn x v) {q : List String}
    (hq : q ≠ []) : (x.bind fun w => w.atPath? q) = v.atPath? q := by
  rcases h with rfl | ⟨hx, rfl⟩
  · rfl
  · rw [atPath?_obj_nil hq]
    cases x with
    | none => rfl
    | some w =>
      cases hx
      exact atPath?_null hq

theorem GoesOn.atPath?_of_ne {x : Option Value} {v : Value} (h : GoesOn x v) {r : List String}
    {o : Option Value} (ho : o ≠ some (.obj [])) (hr : v.atPath? r = o) :
    (x.bind fun w => w.atPath? r) = o := by
  by_cases hnil : r = []
  · subst hnil
    rcases h with rfl | ⟨-, rfl⟩
    · exact hr
    · exact absurd (hr.symm.trans (Value.atPath?_nil _)) ho
  · exact (h.atPath? hnil).trans hr

theorem GoesOn.sameSlot {x : Option Value} {v : Value} (h : GoesOn x v) (a b : String) :
    SameSlot x a b ↔ SameSlot (some v) a b := by
  rcases h with rfl | ⟨hx, rfl⟩
  · rfl
  · cases x with
    | none => rfl
    | some w =>
      cases hx
      rfl

theorem GoesOn.child? {x : Option Value} {v : Value} (h : GoesOn x v) (a : String) :
    (x.bind fun w => w.child? a) = v.child? a := by
  rcases h with rfl | ⟨hx, rfl⟩
  · rfl
  · cases x with
    | none => rfl
    | some w =>
      cases hx
      rfl

theorem Leaves.ne_nil {x : Option Value} {p q : List String} (h : Leaves x p q) : q ≠ [] := by
  cases h <;> simp

/-- Where nothing is or null, paths part as they do in an empty object. -/
theorem Leaves.goesOn {x : Option Value} {v : Value} {p q : List String} (h : Leaves x p q)
    (hx : GoesOn x v) : Leaves (some v) p q := by
  cases h with
  | here h => exact .here (mt (hx.sameSlot ..).2 h)
  | along h hrest =>
    rw [hx.child?] at hrest
    exact .along ((hx.sameSlot ..).1 h) hrest

theorem Together.of_goesOn {x : Option Value} {v : Value} {p q r : List String}
    (h : Together (some v) p q r) (hx : GoesOn x v) : Together x p q r := by
  cases h with
  | nil => exact .nil
  | cons h hrest =>
    rw [Option.bind_some, ← hx.child?] at hrest
    exact .cons ((hx.sameSlot ..).2 h) hrest

theorem GoesOn.ordered {x : Option Value} {v : Value} (h : GoesOn x v)
    (hx : ∀ w, x = some w → w.Ordered) : v.Ordered := by
  rcases h with rfl | ⟨-, rfl⟩
  · exact hx v rfl
  · exact .obj Table.ordered_nil (by simp)

theorem ordered_orObject {fields : Table Value} (h : (Value.obj fields).Ordered) (s : String) :
    (orObject (Table.get? fields s)).Ordered :=
  (goesOn_orObject _).ordered fun _ => h.field

theorem ordered_slot {items : List Value} (h : (Value.arr items).Ordered) (i : Nat) :
    (items[i]?.getD (.obj [])).Ordered :=
  (goesOn_getD _).ordered fun _ => h.item

/-! ### Where the paths part -/

/-- **Elsewhere is what was there before.** The induction is on the written path: as long as the
other path goes along, the two are compared below the slot that the write goes on with. -/
theorem atPath?_write_of_leaves {v : Value} {p q : List String} {target out : Value}
    (h : write v p target = .ok out) (hq : Leaves (some target) p q) : out.atPath? q = target.atPath? q := by
  induction p generalizing target out q with
  | nil => cases hq
  | cons s rest ih =>
    cases hq with
    | here hne =>
      rename_i b q
      simp only [Value.atPath?_cons]
      congr 1
      cases written_of_write h with
      | member hw => exact Table.get?_put_of_ne _ _ hne
      | item hi hw hitems =>
        rename_i items items' i w
        simp only [Value.child?]
        cases hj : Text.index? b.toList with
        | none => rfl
        | some j =>
          have hij : j ≠ i := fun hij => hne ⟨i, hi, hj.trans (congrArg some hij)⟩
          simp only [hitems, if_neg hij]
    | along hslot hrest =>
      rename_i b q
      have hne := hrest.ne_nil
      rw [Option.bind_some] at hrest
      cases written_of_write h with
      | member hw =>
        rename_i fields w
        obtain rfl : s = b := hslot
        have hgo := goesOn_orObject (Table.get? fields s)
        simp only [Value.atPath?_cons, Value.child?, Table.get?_put_self, Option.bind_some]
        rw [ih hw (hrest.goesOn hgo), hgo.atPath? hne]
      | item hi hw hitems =>
        rename_i items items' i w
        obtain ⟨j, ha, hb⟩ := hslot
        obtain rfl : i = j := Option.some.inj (hi.symm.trans ha)
        have hgo := goesOn_getD items[i]?
        simp only [Value.child?, hi] at hrest
        simp only [Value.atPath?_cons, Value.child?, hb, hitems, if_true, Option.bind_some]
        rw [ih hw (hrest.goesOn hgo), hgo.atPath? hne]

/-! ### The path that is written -/

theorem beneath_null (target : Value) (p : List String) :
    (beneath .null target p).getD .null = .null := by cases p <;> rfl

theorem beneath_arr (d : Value) (items : List Value) (s : String) (rest : List String) :
    beneath d (.arr items) (s :: rest) = none := by cases d <;> rfl

theorem getD_beneath (d : Value) (fields : Table Value) (s : String) (rest : List String) :
    (beneath d (.obj fields) (s :: rest)).getD .null =
      (beneath (d.member s) (orObject (Table.get? fields s)) rest).getD .null := by
  cases d with
  | obj below =>
    simp only [beneath, Value.member, Value.field?]
    cases Table.get? below s with
    | none => exact (beneath_null _ rest).symm
    | some b => rfl
  | _ => exact (beneath_null _ rest).symm

/-- **A written path is read as what was written, laid over what the defaults have beneath it.** -/
theorem atPath?_merge_write {v : Value} {p : List String} {target out : Value}
    (ht : target.Ordered) (h : write v p target = .ok out) (d : Value) :
    (d.merge out).atPath? p = some (((beneath d target p).getD .null).merge v) := by
  induction p generalizing d target out with
  | nil =>
    cases h
    simp [beneath]
  | cons s rest ih =>
    cases written_of_write h with
    | member hw =>
      rw [Value.atPath?_cons, Value.child?_merge_obj d (Table.ordered_put ht.keys ..),
        Table.get?_put_self, getD_beneath]
      exact ih (ordered_orObject ht s) hw _
    | item hi hw hitems =>
      rename_i items items' i w
      have hrest := ih (ordered_slot ht i) hw .null
      rw [Value.null_merge, beneath_null] at hrest
      simp [Value.child?, hi, hitems, hrest, beneath_arr]

/-! ### Other paths -/

theorem beneath_of_member {d : Value} {fields : Table Value} {s : String} {r : List String}
    {w : Value} (hw : w ≠ .null)
    (h : beneath (d.member s) (orObject (Table.get? fields s)) r = some w) :
    beneath d (.obj fields) (s :: r) = some w := by
  have hne : ∀ x, beneath .null x r = some w → False := by
    intro x hx
    have := beneath_null x r
    rw [hx] at this
    exact hw this
  cases d with
  | obj below =>
    simp only [Value.member, Value.field?] at h
    cases hb : Table.get? below s with
    | none =>
      rw [hb] at h
      exact (hne _ h).elim
    | some b =>
      rw [hb] at h
      simp only [beneath, hb]
      exact h
  | _ => exact (hne _ h).elim

/-- A write that unsettles other places further down unsettles them from above. -/
theorem Unsettles.member {d : Value} {fields : Table Value} {s : String} {r : List String}
    (h : Unsettles (d.member s) (orObject (Table.get? fields s)) r) :
    Unsettles d (.obj fields) (s :: r) := by
  rcases h with ⟨hr, items, hb⟩ | ⟨hr, g, hb⟩
  · exact .inl ⟨(goesOn_orObject _).atPath?_of_ne (by simp) hr, items, beneath_of_member (by simp) hb⟩
  · exact .inr ⟨(goesOn_orObject _).atPath?_of_ne (by simp) hr, g, beneath_of_member (by simp) hb⟩

theorem beneath_singleton (d : Value) (fields : Table Value) (s : String) :
    beneath d (.obj fields) [s] = d.field? s := by
  cases d with
  | obj below => simp [beneath, Value.field?]
  | _ => rfl

/-- An empty object hides what is no object, and nothing of an object. -/
theorem atPath?_merge_obj_nil {b : Value} (hb : ∀ items, b ≠ .arr items) {q : List String}
    (hq : q ≠ []) : (b.merge (.obj [])).atPath? q = b.atPath? q := by
  cases hobj : b.isObj with
  | true =>
    cases b with
    | obj g => rfl
    | _ => cases hobj
  | false =>
    rw [Value.merge_obj_of_not_obj hobj, atPath?_obj_nil hq]
    cases q with
    | nil => exact absurd rfl hq
    | cons t rest => rw [Value.atPath?_cons, Value.child?_eq_none hobj hb, Option.bind_none]

/-- What is read below a member that a write goes through is what was read before, where the write
does not unsettle it. -/
theorem atPath?_merge_orObject {d : Value} {fields : Table Value} (hf : fields.Ordered)
    {s : String} (hs : ¬ Unsettles d (.obj fields) [s]) {q : List String} (hq : q ≠ []) :
    ((d.member s).merge (orObject (Table.get? fields s))).atPath? q =
      (d.merge (.obj fields)).atPath? (s :: q) := by
  rw [Value.atPath?_cons, Value.child?_merge_obj d hf]
  have hat : (Value.obj fields).atPath? [s] = Table.get? fields s := by
    simp [Value.child?]
  cases hx : Table.get? fields s with
  | none =>
    cases hm : d.field? s with
    | none => simp [Value.member, hm, orObject, atPath?_obj_nil hq]
    | some b =>
      simp only [Value.member, hm, orObject, Option.getD_some, Option.bind_some]
      refine atPath?_merge_obj_nil (fun items hitems => hs (.inl ⟨hat.trans hx, items, ?_⟩)) hq
      rw [beneath_singleton, hm, hitems]
  | some x =>
    cases x with
    | null =>
      have hobj : (d.member s).isObj = false := by
        cases hm : d.member s with
        | obj g =>
          refine absurd (.inr ⟨hat.trans hx, g, ?_⟩) hs
          rw [beneath_singleton]
          cases hfield : d.field? s with
          | none => simp [Value.member, hfield] at hm
          | some b => simpa [Value.member, hfield] using hm
        | _ => rfl
      simp only [orObject, Value.merge_obj_of_not_obj hobj, atPath?_obj_nil hq, Option.bind_some]
      rw [Value.merge_of_not_obj _ rfl, atPath?_null hq]
    | _ => rfl

/-- **A write is not seen where another path has left its own**, unless it unsettles what is above
the place where they part. -/
theorem atPath?_merge_write_of_leaves {v : Value} {p q : List String} {target out : Value}
    (ht : target.Ordered) (h : write v p target = .ok out) (d : Value)
    (hq : Leaves (some target) p q)
    (hc : ∀ r, Together (some target) p q r → ¬ Unsettles d target r) :
    (d.merge out).atPath? q = (d.merge target).atPath? q := by
  induction p generalizing d target out q with
  | nil => cases hq
  | cons s rest ih =>
    cases written_of_write h with
    | item =>
      rw [Value.merge_arr, Value.merge_arr]
      exact atPath?_write_of_leaves h hq
    | member hw =>
      rename_i fields w
      have hout : (Table.put fields s w).Ordered := Table.ordered_put ht.keys ..
      cases hq with
      | here hne =>
        rw [Value.atPath?_cons, Value.atPath?_cons, Value.child?_merge_obj d hout,
          Table.get?_put_of_ne _ _ hne, Value.child?_merge_obj d ht.keys]
      | along hslot hrest =>
        rename_i b q
        obtain rfl : s = b := hslot
        have hgo := goesOn_orObject (Table.get? fields s)
        have hs : ¬ Unsettles d (.obj fields) [s] := hc [s] (.cons rfl .nil)
        have hbelow := ih (ordered_orObject ht s) hw (d.member s) (hrest.goesOn hgo)
          fun r hr hu => hc (s :: r) (.cons rfl (hr.of_goesOn hgo)) hu.member
        rw [← atPath?_merge_orObject ht.keys hs hrest.ne_nil, ← hbelow, Value.atPath?_cons,
          Value.child?_merge_obj d hout, Table.get?_put_self, Option.bind_some]

/-- The segments of a path select what the path does. -/
theorem lookup?_of_segments {path : String} {p : List String} (h : segments? path = some p)
    (v : Value) : v.lookup? path = v.atPath? p := by
  simp only [segments?] at h
  split at h
  · cases h
  · rename_i hany
    obtain rfl := Option.some.inj h
    unfold Value.lookup?
    split
    · rename_i hempty
      rw [String.isEmpty_iff.1 hempty] at hany
      exact absurd rfl hany
    · rfl

/-- A write that succeeds has written at the segments of its path. -/
theorem write_of_set {s s' : Store} {path : String} {v : Value} (h : s.set path v = .ok s') :
    ∃ p, segments? (relative path) = some p ∧ write v p s.value = .ok s'.value := by
  unfold Store.set at h
  split at h
  · cases h
  · rename_i p hp
    split at h
    · rename_i w hw
      cases h
      exact ⟨p, hp, hw⟩
    · cases h
    · cases h

/-- **What steps and builds see after a write.** They read at its path what was written, laid over
what the defaults have beneath it: what was written and nothing else, unless both are objects. At
any other path that leaves this one they read what they read before, unless the write unsettles
something at the place where the paths part, or above it. -/
theorem read_after_set (t : Template) {s s' : Store} {path : String} {v : Value}
    (hs : s.value.Ordered) (h : s.set path v = .ok s') (response : Option Value) :
    ∃ p, segments? (relative path) = some p ∧
      let before := (t.program.scope s response).state
      let after := (t.program.scope s' response).state
      after = (Build.scopeOf t s'.value).state ∧
      after.lookup? (relative path) =
        some (((beneath t.state s.value p).getD .null).merge v) ∧
      (v.isObj = false ∨ (∀ b, beneath t.state s.value p = some b → b.isObj = false) →
        after.lookup? (relative path) = some v) ∧
      ∀ q, q ≠ "" → Leaves (some s.value) p (Text.splitAtChar '.' q) →
        (∀ r, Together (some s.value) p (Text.splitAtChar '.' q) r →
          ¬ Unsettles t.state s.value r) → after.lookup? q = before.lookup? q := by
  obtain ⟨p, hp, hw⟩ := write_of_set h
  have hread : (t.state.merge s'.value).lookup? (relative path) =
      some (((beneath t.state s.value p).getD .null).merge v) :=
    (lookup?_of_segments hp _).trans (atPath?_merge_write hs hw t.state)
  refine ⟨p, hp, rfl, hread, fun hv => hread.trans ?_, fun q hq hleaves hc => ?_⟩
  · rcases hv with hv | hb
    · rw [Value.merge_of_not_obj _ hv]
    · cases hbelow : beneath t.state s.value p with
      | none => rw [Option.getD_none, Value.null_merge]
      | some b =>
        cases v with
        | obj fields => rw [Option.getD_some, Value.merge_obj_of_not_obj (hb b hbelow)]
        | _ => rfl
  · have hempty : q.isEmpty = false := Bool.eq_false_iff.2 fun he => hq (String.isEmpty_iff.1 he)
    simp only [Value.lookup?, hempty, Bool.false_eq_true, if_false]
    exact atPath?_merge_write_of_leaves hs hw t.state hleaves hc

/-- A template that declares no more than a state. -/
def declaring (state : Value) : Template :=
  { name := "t", version := Template.defaultVersion, bootstrap := ⟨"panel", []⟩, state := state }

theorem read_after_set_member :
    let s : Store := ⟨.obj [("user", .obj [("age", .ofNat 1)])], 0⟩
    let s' : Store := ⟨.obj [("user", .obj [("age", .ofNat 2)])], 1⟩
    let t := declaring (.obj [("user", .obj [("name", .str "ada")])])
    s.value.Ordered ∧ s.set "state.user.age" (.ofNat 2) = .ok s' ∧
      (t.program.scope s' none).state.lookup? "user.age" = some (.ofNat 2) ∧
      (t.program.scope s' none).state.lookup? "user.name" =
        (t.program.scope s none).state.lookup? "user.name" := by
  intro s s' t
  have hs : s.value.Ordered :=
    .obj (List.pairwise_singleton ..) (by
      simpa using Value.Ordered.obj (List.pairwise_singleton ..) (by simpa using .num _))
  have h : s.set "state.user.age" (.ofNat 2) = .ok s' := rfl
  obtain ⟨p, hp, -, -, hv, hq⟩ := read_after_set t hs h none
  obtain rfl : ["user", "age"] = p := Option.some.inj hp
  have hkeys : "age" ≠ "name" := by decide
  refine ⟨hs, h, hv (.inl rfl), hq "user.name" (by decide) (.along rfl (.here hkeys)) fun r hr => ?_⟩
  cases hr with
  | nil => rintro (⟨hn, -⟩ | ⟨hn, -⟩) <;> cases hn
  | cons _ hr =>
    cases hr with
    | nil => rintro (⟨hn, -⟩ | ⟨hn, -⟩) <;> cases hn
    | cons hslot => exact absurd hslot hkeys

/-- Defaults show through an object that is written, an object in place of an array of theirs hides
its elements, and an object in place of null lets theirs come through. -/
theorem defaults_meet_writes :
    (∃ s', Store.empty.set "user" (.obj []) = .ok s' ∧
      ((declaring (.obj [("user", .obj [("name", .str "ada")])])).program.scope s'
        none).state.lookup? "user" ≠ some (.obj [])) ∧
    (∃ s', Store.empty.set "rows.0" (.str "new") = .ok s' ∧
      Leaves (some Store.empty.value) ["rows", "0"] ["rows", "1"] ∧
      let t := declaring (.obj [("rows", .arr [.str "a", .str "b"])])
      (t.program.scope s' none).state.lookup? "rows.1" ≠
        (t.program.scope Store.empty none).state.lookup? "rows.1") ∧
    ∃ s', (Store.ofValue (.obj [("user", .null)])).set "user.age" (.ofNat 1) = .ok s' ∧
      Leaves (some (.obj [("user", .null)])) ["user", "age"] ["user", "name"] ∧
      let t := declaring (.obj [("user", .obj [("name", .str "ada")])])
      (t.program.scope s' none).state.lookup? "user.name" ≠
        (t.program.scope (Store.ofValue (.obj [("user", .null)])) none).state.lookup?
          "user.name" := by
  refine ⟨⟨⟨.obj [("user", .obj [])], 1⟩, rfl, ?_⟩,
    ⟨⟨.obj [("rows", .obj [("0", .str "new")])], 1⟩, rfl, ?_, ?_⟩,
    ⟨⟨.obj [("user", .obj [("age", .ofNat 1)])], 1⟩, rfl, ?_, ?_⟩⟩
  · intro h
    cases h
  · exact .along rfl (.here (show "0" ≠ "1" by decide))
  · intro t h
    cases h
  · exact .along rfl (.here (show "age" ≠ "name" by decide))
  · intro t h
    cases h

end State

end LivePanel
