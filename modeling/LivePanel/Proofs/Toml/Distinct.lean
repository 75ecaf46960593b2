import LivePanel.Proofs.Value.Ordered
import LivePanel.Toml.Document
import LivePanel.Toml.Resolved

/-!
# Each key once

A table that is built up by setting keys has each of them once, in the order in which they came.
The tables of a document are built so: those of its headers and dotted keys while the document is
read, and those in line by the same writer. What stands under the keys of a finished document is
therefore told by looking them up.

## What is proved

* `Table.Sound`: a table with each key once, whose values have a property; kept by `set` and
  `erase`.
* `Branch.sound_place?`, `Branch.sound_reach?`: writing below a path and changing what is there
  keep this.
* `distinct_ofText?`: the tree of a document has each key once in all its tables.
-/

namespace LivePanel

namespace Table

variable {β : Type u} {p : β → Prop} {t : Table β}

theorem get?_set (t : Table β) (k k' : String) (v : β) :
    (t.set k v).get? k' = if k = k' then some v else t.get? k' := by
  induction t with
  | nil => rfl
  | cons e rest ih =>
    obtain ⟨key, w⟩ := e
    rw [set]
    split
    · rename_i hk
      subst hk
      simp only [get?]
      split <;> rfl
    · rename_i hk
      simp only [get?, ih]
      by_cases hk' : k = k'
      · subst hk'
        simp [hk]
      · simp [hk']

/-- To set what is there changes nothing. -/
theorem set_of_get? {k : String} {v : β} (h : t.get? k = some v) : t.set k v = t := by
  induction t with
  | nil => cases h
  | cons e rest ih =>
    obtain ⟨key, w⟩ := e
    rw [get?] at h
    rw [set]
    split at h
    · rename_i hk
      cases h
      rw [if_pos hk, hk]
    · rename_i hk
      rw [if_neg hk, ih h]

theorem keys_set (t : Table β) (k : String) (v : β) :
    (t.set k v).keys = if k ∈ t.keys then t.keys else t.keys ++ [k] := by
  induction t with
  | nil => rfl
  | cons e rest ih =>
    obtain ⟨key, w⟩ := e
    rw [set]
    by_cases hk : key = k
    · subst hk
      rw [if_pos rfl, keys_cons, keys_cons, if_pos (List.mem_cons_self ..)]
    · rw [if_neg hk, keys_cons, keys_cons, ih]
      by_cases hm : k ∈ keys rest
      · rw [if_pos hm, if_pos (List.mem_cons_of_mem _ hm)]
      · rw [if_neg hm, if_neg (by simp [hm, Ne.symm hk]), List.cons_append]

theorem nodup_set (h : t.keys.Nodup) (k : String) (v : β) : (t.set k v).keys.Nodup := by
  rw [keys_set]
  split
  · exact h
  · rename_i hk
    refine List.nodup_append.2 ⟨h, by simp, fun a ha b hb heq => ?_⟩
    exact hk (List.mem_singleton.1 hb ▸ heq ▸ ha)

theorem mem_of_mem_set {e : String × β} {k : String} {v : β} (h : e ∈ t.set k v) :
    e = (k, v) ∨ e ∈ t := by
  induction t with
  | nil => exact .inl (List.mem_singleton.1 h)
  | cons a rest ih =>
    rw [set] at h
    split at h
    · exact (List.mem_cons.1 h).imp id (List.mem_cons_of_mem _)
    · rcases List.mem_cons.1 h with rfl | h
      · exact .inr (List.mem_cons_self ..)
      · exact (ih h).imp id (List.mem_cons_of_mem _)

/-- Each key is there once, and the values have a property. -/
structure Sound (p : β → Prop) (t : Table β) : Prop where
  nodup : t.keys.Nodup
  all : ∀ e ∈ t, p e.2

namespace Sound

theorem nil : Sound p ([] : Table β) := ⟨List.nodup_nil, fun _ h => absurd h List.not_mem_nil⟩

theorem get? (h : Sound p t) {k : String} {v : β} (hv : t.get? k = some v) : p v :=
  h.all _ (mem_of_get? hv)

theorem set (h : Sound p t) {v : β} (hv : p v) (k : String) : Sound p (t.set k v) where
  nodup := nodup_set h.nodup k v
  all e he := (mem_of_mem_set he).elim (fun heq => heq ▸ hv) (h.all e)

theorem erase (h : Sound p t) (k : String) : Sound p (t.erase k) where
  nodup := h.nodup.sublist (List.filter_sublist.map _)
  all e he := h.all e (List.mem_filter.1 he).1

end Sound

end Table

namespace Toml

open Table

/-- All tables in a tree have each key once. -/
inductive Datum.Distinct : Datum → Prop where
  | text (s : String) : Distinct (.text s)
  | whole (n : Int) : Distinct (.whole n)
  | real (d : Double) : Distinct (.real d)
  | flag (b : Bool) : Distinct (.flag b)
  | moment (m : Moment) : Distinct (.moment m)
  | list {items : List Datum} (h : ∀ d ∈ items, Distinct d) : Distinct (.list items)
  | table {members : Table Datum} (hkeys : members.keys.Nodup)
      (h : ∀ e ∈ members, Distinct e.2) : Distinct (.table members)

theorem Datum.Distinct.members {members : Table Datum} (h : (Datum.table members).Distinct) :
    Sound Datum.Distinct members := by
  cases h with
  | table hkeys h => exact ⟨hkeys, h⟩

/-- All tables at a branch have each key once. -/
inductive Branch.Distinct : Branch → Prop where
  | value {d : Datum} (h : d.Distinct) : Distinct (.value d)
  | table {origin : Origin} {members : Table Branch} (hkeys : members.keys.Nodup)
      (h : ∀ e ∈ members, Distinct e.2) : Distinct (.table origin members)
  | rows {rows : List (Table Branch)} (hkeys : ∀ row ∈ rows, row.keys.Nodup)
      (h : ∀ row ∈ rows, ∀ e ∈ row, Distinct e.2) : Distinct (.rows rows)

namespace Branch

variable {t t' inner row : Table Branch} {origin : Origin} {older : List (Table Branch)}

theorem Distinct.members (h : (Branch.table origin inner).Distinct) : Sound Branch.Distinct inner := by
  cases h with
  | table hkeys h => exact ⟨hkeys, h⟩

theorem Distinct.newest (h : (Branch.rows (row :: older)).Distinct) : Sound Branch.Distinct row := by
  cases h with
  | rows hkeys h => exact ⟨hkeys _ (List.mem_cons_self ..), h _ (List.mem_cons_self ..)⟩

theorem distinct_table (h : Sound Branch.Distinct inner) (origin : Origin) :
    (Branch.table origin inner).Distinct := .table h.nodup h.all

/-- A row is added, or put in place of the newest. -/
theorem distinct_rows (h : Sound Branch.Distinct row) (hold : (Branch.rows older).Distinct) :
    (Branch.rows (row :: older)).Distinct := by
  cases hold with
  | rows hkeys hall =>
    exact .rows (List.forall_mem_cons.2 ⟨h.nodup, hkeys⟩) (List.forall_mem_cons.2 ⟨h.all, hall⟩)

theorem Distinct.others (h : (Branch.rows (row :: older)).Distinct) :
    (Branch.rows older).Distinct := by
  cases h with
  | rows hkeys hall =>
    exact .rows (List.forall_mem_cons.1 hkeys).2 (List.forall_mem_cons.1 hall).2

/-! ### Writing into a document -/

/-- **Writing a value below a path keeps each key once.** -/
theorem sound_place? {key : String} {d : Datum} (hd : d.Distinct) {path : List String}
    (h : Sound Branch.Distinct t) (ht : place? key d path t = some t') :
    Sound Branch.Distinct t' := by
  induction path generalizing t t' with
  | nil =>
    rw [place?] at ht
    split at ht
    · cases ht
    · cases ht
      exact h.set (.value hd) key
  | cons k path ih =>
    rw [place?] at ht
    split at ht
    · obtain ⟨inner, hinner, rfl⟩ := Option.map_eq_some_iff.1 ht
      exact h.set (distinct_table (ih .nil hinner) _) k
    · rename_i hget
      obtain ⟨inner, hinner, rfl⟩ := Option.map_eq_some_iff.1 ht
      exact h.set (distinct_table (ih (h.get? hget).members hinner) _) k
    · rename_i hget
      split at ht
      · cases ht
      · obtain ⟨inner, hinner, rfl⟩ := Option.map_eq_some_iff.1 ht
        exact h.set (distinct_table (ih (h.get? hget).members hinner) _) k
    · rename_i hget
      split at ht
      · cases ht
      · obtain ⟨row, hrow, rfl⟩ := Option.map_eq_some_iff.1 ht
        have hrows := h.get? hget
        exact h.set (distinct_rows (ih hrows.newest hrow) hrows.others) k
    · cases ht

/-- **Changing what lies at a path keeps each key once** if the change does. -/
theorem sound_reach? {f : Table Branch → Option (Table Branch)}
    (hf : ∀ {t t'}, Sound Branch.Distinct t → f t = some t' → Sound Branch.Distinct t')
    {path : List String} (h : Sound Branch.Distinct t) (ht : reach? f path t = some t') :
    Sound Branch.Distinct t' := by
  induction path generalizing t t' with
  | nil => exact hf h ht
  | cons k path ih =>
    rw [reach?] at ht
    split at ht
    · obtain ⟨inner, hinner, rfl⟩ := Option.map_eq_some_iff.1 ht
      exact h.set (distinct_table (ih .nil hinner) _) k
    · rename_i hget
      obtain ⟨inner, hinner, rfl⟩ := Option.map_eq_some_iff.1 ht
      exact h.set (distinct_table (ih (h.get? hget).members hinner) _) k
    · rename_i hget
      obtain ⟨row, hrow, rfl⟩ := Option.map_eq_some_iff.1 ht
      have hrows := h.get? hget
      exact h.set (distinct_rows (ih hrows.newest hrow) hrows.others) k
    · cases ht

theorem sound_openTable? {last : String} (h : Sound Branch.Distinct t)
    (ht : openTable? last t = some t') : Sound Branch.Distinct t' := by
  unfold openTable? at ht
  split at ht
  · cases ht
    exact h.set (distinct_table .nil _) last
  · rename_i hget
    cases ht
    exact (h.erase last).set (distinct_table (h.get? hget).members _) last
  · cases ht

theorem sound_openRow? {last : String} (h : Sound Branch.Distinct t)
    (ht : openRow? last t = some t') : Sound Branch.Distinct t' := by
  unfold openRow? at ht
  split at ht
  · cases ht
    exact h.set (distinct_rows .nil (.rows (by simp) (by simp))) last
  · rename_i hget
    cases ht
    exact h.set (distinct_rows .nil (h.get? hget)) last
  · cases ht

theorem sound_inside? {f : Table Branch → Option (Table Branch)}
    (hf : ∀ {t t'}, Sound Branch.Distinct t → f t = some t' → Sound Branch.Distinct t')
    {last : String} (h : Sound Branch.Distinct t) (ht : inside? f last t = some t') :
    Sound Branch.Distinct t' := by
  unfold inside? at ht
  split at ht
  · rename_i hget
    obtain ⟨inner, hinner, rfl⟩ := Option.map_eq_some_iff.1 ht
    exact h.set (distinct_table (hf (h.get? hget).members hinner) _) last
  · rename_i hget
    obtain ⟨row, hrow, rfl⟩ := Option.map_eq_some_iff.1 ht
    have hrows := h.get? hget
    exact h.set (distinct_rows (hf hrows.newest hrow) hrows.others) last
  · cases ht

/-! ### What a document says -/

theorem keys_memberData (t : Table Branch) : (memberData t).map (·.1) = t.keys := by
  induction t with
  | nil => rfl
  | cons e rest ih => rw [memberData, List.map_cons, ih]; rfl

mutual

theorem distinct_datum : (b : Branch) → b.Distinct → b.datum.Distinct
  | .value d, h => by
    cases h with
    | value h => exact h
  | .table origin members, h => by
    have hs := sound_memberData members h.members.nodup h.members.all
    exact .table hs.nodup hs.all
  | .rows newestFirst, h => by
    cases h with
    | rows hkeys h =>
      exact .list fun d hd => distinct_rowData newestFirst hkeys h d (List.mem_reverse.1 hd)

theorem sound_memberData : (t : Table Branch) → t.keys.Nodup → (∀ e ∈ t, e.2.Distinct) →
    Sound Datum.Distinct (memberData t)
  | [], _, _ => .nil
  | (k, b) :: rest, hkeys, h => by
    obtain ⟨hb, hrest⟩ := List.forall_mem_cons.1 h
    have hs := sound_memberData rest (List.nodup_cons.1 hkeys).2 hrest
    refine ⟨?_, List.forall_mem_cons.2 ⟨distinct_datum b hb, hs.all⟩⟩
    rw [Table.keys, keys_memberData]
    exact hkeys

theorem distinct_rowData : (rows : List (Table Branch)) → (∀ row ∈ rows, row.keys.Nodup) →
    (∀ row ∈ rows, ∀ e ∈ row, e.2.Distinct) → ∀ d ∈ rowData rows, d.Distinct
  | [], _, _ => fun _ hd => absurd hd List.not_mem_nil
  | row :: rest, hkeys, h => by
    obtain ⟨hrow, hrest⟩ := List.forall_mem_cons.1 h
    obtain ⟨hkrow, hkrest⟩ := List.forall_mem_cons.1 hkeys
    have hs := sound_memberData row hkrow hrow
    exact List.forall_mem_cons.2 ⟨.table hs.nodup hs.all, distinct_rowData rest hkrest hrest⟩

end

end Branch

/-! ### Values in line -/

theorem distinct_scalar? {cs r : List Char} {d : Datum} (h : scalar? cs = some (d, r)) :
    d.Distinct := by
  unfold scalar? at h
  split at h
  · cases h
  · split at h
    · obtain ⟨x, -, hx⟩ := Option.map_eq_some_iff.1 h
      cases hx
      exact .text _
    · split at h
      · obtain ⟨x, -, hx⟩ := Option.map_eq_some_iff.1 h
        cases hx
        exact .flag _
      · split at h
        · obtain ⟨x, -, hx⟩ := Option.map_eq_some_iff.1 h
          cases hx
          exact .flag _
        · split at h
          · cases h
            exact .moment _
          · split at h
            · cases h
              exact .real _
            · obtain ⟨x, -, hx⟩ := Option.map_eq_some_iff.1 h
              cases hx
              exact .whole _

/-- What is read of a value, of the elements of a list and of the members of an inline table. -/
theorem distinct_read (fuel : Nat) :
    (∀ {depth cs d r}, value? fuel depth cs = some (d, r) → d.Distinct) ∧
    (∀ {depth acc cs ds r}, (∀ d ∈ acc, Datum.Distinct d) →
      items? fuel depth acc cs = some (ds, r) → ∀ d ∈ ds, d.Distinct) ∧
    ∀ {depth acc cs t r}, Sound Branch.Distinct acc →
      members? fuel depth acc cs = some (t, r) → Sound Branch.Distinct t := by
  induction fuel with
  | zero =>
    refine ⟨fun h => ?_, fun _ h => ?_, fun _ h => ?_⟩
    · rw [value?] at h
      cases h
    · rw [items?] at h
      cases h
    · rw [members?] at h
      cases h
  | succ fuel ih =>
    obtain ⟨ihvalue, ihitems, ihmembers⟩ := ih
    refine ⟨fun h => ?_, fun hacc h => ?_, fun hacc h => ?_⟩
    · unfold value? at h
      split at h
      · split at h
        · cases h
        · cases h
        · obtain ⟨x, hx, hd⟩ := Option.map_eq_some_iff.1 h
          cases hd
          exact .list (ihitems (fun _ hd => absurd hd List.not_mem_nil) hx)
      · split at h
        · cases h
        · cases h
        · split at h
          · cases h
            exact .table List.nodup_nil fun _ he => absurd he List.not_mem_nil
          · obtain ⟨x, hx, hd⟩ := Option.map_eq_some_iff.1 h
            cases hd
            have hs := ihmembers .nil hx
            have hdata := Branch.sound_memberData _ hs.nodup hs.all
            exact .table hdata.nodup hdata.all
      · exact distinct_scalar? h
    · rw [items?] at h
      split at h
      · cases h
      · cases h
        exact fun d hd => hacc d (List.mem_reverse.1 hd)
      · split at h
        · cases h
        · rename_i hd
          have hall := List.forall_mem_cons.2 ⟨ihvalue hd, hacc⟩
          split at h
          · cases h
            exact fun d hd => hall d (List.mem_reverse.1 hd)
          · exact ihitems hall h
          · cases h
    · rw [members?] at h
      split at h
      · split at h
        · cases h
        · rename_i hd
          split at h
          · cases h
          · rename_i hplace
            have hs := Branch.sound_place? (ihvalue hd) hacc hplace
            split at h
            · cases h
              exact hs
            · exact ihmembers hs h
            · cases h
      · cases h

/-! ### Documents -/

/-- The value that a statement writes has each key once. -/
def Statement.Distinct : Statement → Prop
  | .pair _ _ d => d.Distinct
  | _ => True

theorem distinct_statement? {fuel : Nat} {cs r : List Char} {s : Statement}
    (h : statement? fuel cs = some (s, r)) : s.Distinct := by
  unfold statement? at h
  split at h
  · split at h
    · obtain ⟨x, -, hx⟩ := Option.map_eq_some_iff.1 h
      cases hx
      trivial
    · cases h
  · split at h
    · obtain ⟨x, -, hx⟩ := Option.map_eq_some_iff.1 h
      cases hx
      trivial
    · cases h
  · split at h
    · split at h
      · rename_i hd
        obtain ⟨x, -, hx⟩ := Option.map_eq_some_iff.1 h
        cases hx
        exact (distinct_read _).1 hd
      · cases h
    · cases h

theorem distinct_statements? {fuel : Nat} {acc ss : List Statement} {cs : List Char}
    (hacc : ∀ s ∈ acc, s.Distinct) (h : statements? fuel acc cs = some ss) :
    ∀ s ∈ ss, s.Distinct := by
  induction fuel generalizing acc cs with
  | zero =>
    rw [statements?] at h
    cases h
  | succ fuel ih =>
    rw [statements?] at h
    split at h
    · cases h
      exact fun s hs => hacc s (List.mem_reverse.1 hs)
    · split at h
      · split at h
        · exact ih hacc h
        · cases h
      · split at h
        · rename_i hs
          exact ih (List.forall_mem_cons.2 ⟨distinct_statement? hs, hacc⟩) h
        · cases h

/-- Taking up a statement keeps each key of a document once. -/
theorem Draft.sound_add? {d d' : Draft} {s : Statement} (hs : s.Distinct)
    (h : Sound Branch.Distinct d.root) (hd : d.add? s = some d') :
    Sound Branch.Distinct d'.root := by
  cases s with
  | header path last =>
    obtain ⟨root, hroot, rfl⟩ := Option.map_eq_some_iff.1 hd
    exact Branch.sound_reach? Branch.sound_openTable? h hroot
  | row path last =>
    obtain ⟨root, hroot, rfl⟩ := Option.map_eq_some_iff.1 hd
    exact Branch.sound_reach? Branch.sound_openRow? h hroot
  | pair path key v =>
    unfold Draft.add? at hd
    dsimp only at hd
    split at hd
    · obtain ⟨root, hroot, rfl⟩ := Option.map_eq_some_iff.1 hd
      exact Branch.sound_place? hs h hroot
    · obtain ⟨root, hroot, rfl⟩ := Option.map_eq_some_iff.1 hd
      exact Branch.sound_reach? (Branch.sound_inside? (Branch.sound_place? hs)) h hroot

theorem Draft.sound_foldlM {ss : List Statement} (hss : ∀ s ∈ ss, s.Distinct) {d d' : Draft}
    (h : Sound Branch.Distinct d.root) (hd : ss.foldlM Draft.add? d = some d') :
    Sound Branch.Distinct d'.root := by
  induction ss generalizing d with
  | nil =>
    cases hd
    exact h
  | cons s rest ih =>
    obtain ⟨hs, hrest⟩ := List.forall_mem_cons.1 hss
    rw [List.foldlM_cons] at hd
    obtain ⟨next, hnext, hd⟩ := Option.bind_eq_some_iff.1 hd
    exact ih hrest (sound_add? hs h hnext) hd

/-- **The tree of a document has each key once in all its tables.** -/
theorem distinct_ofText? {s : String} {d : Datum} (h : ofText? s = some d) : d.Distinct := by
  obtain ⟨t, ht, rfl⟩ := Option.map_eq_some_iff.1 h
  obtain ⟨ss, hss, ht⟩ := Option.bind_eq_some_iff.1 ht
  obtain ⟨draft, hdraft, rfl⟩ := Option.map_eq_some_iff.1 ht
  have hall := distinct_statements? (fun _ hs => absurd hs List.not_mem_nil) hss
  have hroot := Draft.sound_foldlM hall (d := {}) .nil hdraft
  have hdata := Branch.sound_memberData _ hroot.nodup hroot.all
  exact .table hdata.nodup hdata.all

/-! ### Tables in place of moments -/

namespace Datum

mutual

/-- **Reading moments out of a tree keeps each key once.** -/
theorem distinct_resolved? {alone : Bool} : (d : Datum) → {d' : Datum} → d.Distinct →
    d.resolved? alone = some d' → d'.Distinct
  | .table [], _, h, heq => by
    cases heq
    exact h
  | .table ((k, d) :: rest), d', h, heq => by
    have hs := h.members
    unfold resolved? at heq
    split at heq
    · split at heq
      · split at heq
        · cases heq
        · obtain ⟨m, -, rfl⟩ := Option.map_eq_some_iff.1 heq
          exact .moment m
      · cases heq
    · obtain ⟨first, hfirst, heq⟩ := Option.bind_eq_some_iff.1 heq
      obtain ⟨others, hothers, heq⟩ := Option.bind_eq_some_iff.1 heq
      cases heq
      obtain ⟨hd, hrest⟩ := List.forall_mem_cons.1 hs.all
      obtain ⟨hkeys, hall⟩ := distinct_resolvedMembers? rest hrest hothers
      refine .table ?_ (List.forall_mem_cons.2 ⟨distinct_resolved? d hd hfirst, hall⟩)
      rw [keys, List.map_cons, ← keys, hkeys]
      exact hs.nodup
  | .list items, d', h, heq => by
    cases h with
    | list h =>
      obtain ⟨ds, hds, rfl⟩ := Option.map_eq_some_iff.1 heq
      exact .list (distinct_resolvedItems? items h hds)
  | .text _, _, h, heq => by
    cases heq
    exact h
  | .whole _, _, h, heq => by
    cases heq
    exact h
  | .real _, _, h, heq => by
    cases heq
    exact h
  | .flag _, _, h, heq => by
    cases heq
    exact h
  | .moment _, _, h, heq => by
    cases heq
    exact h

theorem distinct_resolvedItems? {alone : Bool} : (items : List Datum) → {items' : List Datum} →
    (∀ d ∈ items, d.Distinct) → resolvedItems? alone items = some items' →
    ∀ d ∈ items', d.Distinct
  | [], _, h, heq => by
    cases heq
    exact h
  | d :: rest, items', h, heq => by
    obtain ⟨first, hfirst, heq⟩ := Option.bind_eq_some_iff.1 heq
    obtain ⟨others, hothers, heq⟩ := Option.bind_eq_some_iff.1 heq
    cases heq
    obtain ⟨hd, hrest⟩ := List.forall_mem_cons.1 h
    exact List.forall_mem_cons.2
      ⟨distinct_resolved? d hd hfirst, distinct_resolvedItems? rest hrest hothers⟩

theorem distinct_resolvedMembers? {alone : Bool} : (members : List (String × Datum)) →
    {members' : List (String × Datum)} → (∀ e ∈ members, e.2.Distinct) →
    resolvedMembers? alone members = some members' →
    keys members' = keys members ∧ ∀ e ∈ members', e.2.Distinct
  | [], _, h, heq => by
    cases heq
    exact ⟨rfl, h⟩
  | (k, d) :: rest, members', h, heq => by
    obtain ⟨first, hfirst, heq⟩ := Option.bind_eq_some_iff.1 heq
    obtain ⟨others, hothers, heq⟩ := Option.bind_eq_some_iff.1 heq
    cases heq
    obtain ⟨hd, hrest⟩ := List.forall_mem_cons.1 h
    obtain ⟨hkeys, hall⟩ := distinct_resolvedMembers? rest hrest hothers
    exact ⟨congrArg (k :: ·) hkeys,
      List.forall_mem_cons.2 ⟨distinct_resolved? d hd hfirst, hall⟩⟩

end

end Datum

end Toml

end LivePanel
