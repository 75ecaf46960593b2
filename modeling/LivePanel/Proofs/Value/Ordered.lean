import LivePanel.Value.Basic

/-!
# Tables and values in order

A table that is built with `put` alone has its keys in ascending order, each of them once. A value
is in order where all objects in it are such tables; the values that are read from text or written
piece by piece are of this kind. Any other value can be put in order (`Value.sorted`).
-/

namespace LivePanel

section

variable {ε α β γ : Type}

theorem ok_of_map {x : Except ε α} {f : α → β} {b : β} (h : x.map f = .ok b) :
    ∃ a, x = .ok a ∧ f a = b := by
  cases x with
  | error e => cases h
  | ok a => exact ⟨a, rfl, Except.ok.inj h⟩

theorem ok_of_bind {x : Except ε α} {f : α → Except ε β} {b : β} (h : (x >>= f) = .ok b) :
    ∃ a, x = .ok a ∧ f a = .ok b := by
  cases x with
  | error e => cases h
  | ok a => exact ⟨a, rfl, h⟩

/-- What is read of items, written as `w` does, is what `g` makes of them. -/
theorem map_eq_of_mapM {f : α → Option β} {w : β → γ} {g : α → γ} {as : List α} {bs : List β}
    (h : as.mapM f = some bs) (hf : ∀ a ∈ as, ∀ b, f a = some b → w b = g a) :
    bs.map w = as.map g := by
  induction as generalizing bs with
  | nil =>
    cases h
    rfl
  | cons a rest ih =>
    obtain ⟨ha, hrest⟩ := List.forall_mem_cons.1 hf
    rw [List.mapM_cons] at h
    obtain ⟨b, hb, h⟩ := Option.bind_eq_some_iff.1 h
    obtain ⟨others, hothers, h⟩ := Option.bind_eq_some_iff.1 h
    cases h
    rw [List.map_cons, List.map_cons, ha b hb, ih hothers hrest]

theorem exists_of_mapM {f : α → Option β} {as : List α} {bs : List β} (h : as.mapM f = some bs)
    {b : β} (hb : b ∈ bs) : ∃ a ∈ as, f a = some b := by
  induction as generalizing bs with
  | nil =>
    cases h
    exact absurd hb List.not_mem_nil
  | cons a rest ih =>
    rw [List.mapM_cons] at h
    obtain ⟨first, hfirst, h⟩ := Option.bind_eq_some_iff.1 h
    obtain ⟨others, hothers, h⟩ := Option.bind_eq_some_iff.1 h
    cases h
    rcases List.mem_cons.1 hb with rfl | hb
    · exact ⟨a, List.mem_cons_self .., hfirst⟩
    · obtain ⟨a', ha', hf⟩ := ih hothers hb
      exact ⟨a', List.mem_cons_of_mem _ ha', hf⟩

theorem mapM_eq_some_map {f : α → Option β} {g : α → β} {as : List α}
    (h : ∀ a ∈ as, f a = some (g a)) : as.mapM f = some (as.map g) := by
  induction as with
  | nil => rfl
  | cons a rest ih =>
    obtain ⟨ha, hrest⟩ := List.forall_mem_cons.1 h
    rw [List.mapM_cons, ha, ih hrest]
    rfl

/-- Written items that are read as they were are read together. -/
theorem mapM_map_eq_some {f : α → Option β} {w : β → α} {bs : List β}
    (h : ∀ b ∈ bs, f (w b) = some b) : (bs.map w).mapM f = some bs := by
  have hmap := mapM_eq_some_map (f := f ∘ w) (g := id) h
  rwa [← List.mapM_map, List.map_id] at hmap

end

namespace Table

variable {β : Type u}

/-- The keys ascend. -/
def Ordered (t : Table β) : Prop := t.Pairwise fun a b => a.1 < b.1

instance (t : Table β) : Decidable t.Ordered :=
  inferInstanceAs (Decidable (t.Pairwise fun a b => a.1 < b.1))

@[simp] theorem ordered_nil : Ordered ([] : Table β) := List.Pairwise.nil

theorem ordered_cons {e : String × β} {t : Table β} :
    Ordered (e :: t) ↔ (∀ a ∈ t, e.1 < a.1) ∧ Ordered t := List.pairwise_cons

theorem lt_of_not_lt {k k' : String} (hne : k' ≠ k) (h : ¬ k < k') : k' < k := by
  apply Decidable.byContradiction
  intro h'
  exact hne (String.le_antisymm (String.not_lt.1 h) (String.not_lt.1 h'))

theorem get?_eq_none_of_lt {t : Table β} {k : String} (h : ∀ e ∈ t, k < e.1) :
    t.get? k = none := by
  induction t with
  | nil => rfl
  | cons e rest ih =>
    have hne : e.1 ≠ k := fun heq => String.lt_irrefl k (heq ▸ h e (List.mem_cons_self ..))
    simp only [get?, hne, if_false]
    exact ih fun a ha => h a (List.mem_cons_of_mem _ ha)

theorem mem_of_get? {t : Table β} {k : String} {v : β} (h : t.get? k = some v) : (k, v) ∈ t := by
  induction t with
  | nil => simp at h
  | cons e rest ih =>
    obtain ⟨k', v'⟩ := e
    simp only [get?] at h
    split at h
    · rename_i hk
      cases h
      exact hk ▸ List.mem_cons_self ..
    · exact List.mem_cons_of_mem _ (ih h)

theorem has_of_mem {t : Table β} {e : String × β} (h : e ∈ t) : t.has e.1 = true := by
  induction t with
  | nil => exact absurd h List.not_mem_nil
  | cons a rest ih =>
    obtain ⟨k, v⟩ := a
    simp only [has, get?]
    split
    · rfl
    · rcases List.mem_cons.1 h with rfl | h
      · exact absurd rfl ‹_›
      · exact ih h

/-- A table without a value is empty. -/
theorem eq_nil_of_get? {t : Table β} (h : ∀ k, t.get? k = none) : t = [] := by
  rw [List.eq_nil_iff_forall_not_mem]
  intro e he
  have hhas := has_of_mem he
  rw [has, h e.1] at hhas
  cases hhas

theorem mem_put {t : Table β} {k : String} {v : β} {e : String × β} (h : e ∈ t.put k v) :
    e = (k, v) ∨ e ∈ t := by
  induction t with
  | nil => exact .inl (List.mem_singleton.1 h)
  | cons a rest ih =>
    simp only [put] at h
    split at h
    · rcases List.mem_cons.1 h with he | he
      · exact .inl he
      · exact .inr (List.mem_cons_of_mem _ he)
    · split at h
      · rcases List.mem_cons.1 h with he | he
        · exact .inl he
        · exact .inr he
      · rcases List.mem_cons.1 h with he | he
        · exact .inr (he ▸ List.mem_cons_self ..)
        · exact (ih he).imp_right (List.mem_cons_of_mem _)

/-- Setting a value keeps the keys in order. -/
theorem ordered_put {t : Table β} (h : t.Ordered) (k : String) (v : β) : (t.put k v).Ordered := by
  induction t with
  | nil => exact List.pairwise_singleton ..
  | cons a rest ih =>
    obtain ⟨hall, hrest⟩ := ordered_cons.1 h
    simp only [put]
    split
    · rename_i hk
      exact ordered_cons.2 ⟨fun e he => hk ▸ hall e he, hrest⟩
    · rename_i hne
      split
      · rename_i hlt
        refine ordered_cons.2 ⟨fun e he => ?_, h⟩
        rcases List.mem_cons.1 he with rfl | he
        · exact hlt
        · exact String.lt_trans hlt (hall e he)
      · rename_i hlt
        refine ordered_cons.2 ⟨fun e he => ?_, ih hrest⟩
        rcases mem_put he with rfl | he
        · exact lt_of_not_lt hne hlt
        · exact hall e he

/-- To put what is there changes nothing. -/
theorem put_of_get? {t : Table β} (h : t.Ordered) {k : String} {v : β} (hv : t.get? k = some v) :
    t.put k v = t := by
  induction t with
  | nil => cases hv
  | cons a rest ih =>
    obtain ⟨k', v'⟩ := a
    obtain ⟨hall, hrest⟩ := ordered_cons.1 h
    simp only [get?] at hv
    simp only [put]
    split at hv
    · rename_i hk
      cases hv
      rw [if_pos hk, hk]
    · rename_i hne
      have hlt : k' < k := hall _ (mem_of_get? hv)
      rw [if_neg hne, if_neg (String.lt_asymm hlt), ih hrest hv]

/-- A key behind all others is put at the end. -/
theorem put_of_all_lt {t : Table β} {k : String} (h : ∀ e ∈ t, e.1 < k) (v : β) :
    t.put k v = t ++ [(k, v)] := by
  induction t with
  | nil => rfl
  | cons a rest ih =>
    have ha : a.1 < k := h a (List.mem_cons_self ..)
    have hne : a.1 ≠ k := fun heq => String.lt_irrefl k (heq ▸ ha)
    simp only [put, hne, String.lt_asymm ha, if_false, List.cons_append, List.cons.injEq, true_and]
    exact ih fun e he => h e (List.mem_cons_of_mem _ he)

/-! ### Keys -/

theorem keys_cons (e : String × β) (t : Table β) : keys (e :: t) = e.1 :: t.keys := rfl

theorem get?_eq_none_of_not_mem {t : Table β} {k : String} (h : k ∉ t.keys) : t.get? k = none := by
  induction t with
  | nil => rfl
  | cons e rest ih =>
    rw [keys_cons, List.mem_cons, not_or] at h
    rw [get?, if_neg (Ne.symm h.1)]
    exact ih h.2

theorem nodup_of_ordered {t : Table β} (h : t.Ordered) : t.keys.Nodup := by
  rw [keys, List.Nodup, List.pairwise_map]
  refine List.Pairwise.imp ?_ h
  intro a b hlt heq
  exact String.lt_irrefl b.1 (heq ▸ hlt)

theorem has_iff_mem_keys {t : Table β} {k : String} : t.has k = true ↔ k ∈ t.keys := by
  constructor
  · intro h
    obtain ⟨v, hv⟩ := Option.isSome_iff_exists.1 h
    exact List.mem_map.2 ⟨_, mem_of_get? hv, rfl⟩
  · intro h
    obtain ⟨e, he, rfl⟩ := List.mem_map.1 h
    exact has_of_mem he

/-- In a table with each key once each entry is the one of its key. -/
theorem get?_of_mem_of_nodup {t : Table β} (h : t.keys.Nodup) {e : String × β} (he : e ∈ t) :
    t.get? e.1 = some e.2 := by
  induction t with
  | nil => exact absurd he List.not_mem_nil
  | cons a rest ih =>
    obtain ⟨hnot, hrest⟩ := List.nodup_cons.1 h
    simp only [get?]
    rcases List.mem_cons.1 he with rfl | he
    · exact if_pos rfl
    · have hne : a.1 ≠ e.1 := fun heq => hnot (List.mem_map.2 ⟨e, he, heq.symm⟩)
      rw [if_neg hne]
      exact ih hrest he

/-- In a table whose keys ascend each entry is the one of its key. -/
theorem get?_of_mem {t : Table β} (h : t.Ordered) {e : String × β} (he : e ∈ t) :
    t.get? e.1 = some e.2 := get?_of_mem_of_nodup (nodup_of_ordered h) he

theorem ordered_foldl_put (pairs : List (String × β)) {t : Table β} (h : t.Ordered) :
    (pairs.foldl (fun t e => t.put e.1 e.2) t).Ordered := by
  induction pairs generalizing t with
  | nil => exact h
  | cons e rest ih => exact ih (ordered_put h e.1 e.2)

theorem ordered_ofPairs (pairs : List (String × β)) : (ofPairs pairs).Ordered :=
  ordered_foldl_put pairs ordered_nil

/-- Pairs with distinct keys are found in their table as they are. -/
theorem get?_ofPairs {pairs : Table β} (h : pairs.keys.Nodup) (k : String) :
    (ofPairs pairs).get? k = pairs.get? k := by
  have hfold : ∀ t : Table β, (pairs.foldl (fun t e => t.put e.1 e.2) t).get? k =
      (pairs.get? k).or (t.get? k) := by
    induction pairs with
    | nil => exact fun t => rfl
    | cons e rest ih =>
      intro t
      obtain ⟨hnot, hrest⟩ := List.nodup_cons.1 h
      rw [List.foldl_cons, ih hrest, get?_put, get?]
      by_cases hk : e.1 = k
      · rw [if_pos hk, if_pos hk, get?_eq_none_of_not_mem (hk ▸ hnot)]
        rfl
      · rw [if_neg hk, if_neg hk]
  rw [ofPairs, hfold, get?_nil, Option.or_none]

theorem get?_append (s t : Table β) (k : String) : get? (s ++ t) k = (s.get? k).or (t.get? k) := by
  induction s with
  | nil => rfl
  | cons e rest ih =>
    rw [List.cons_append, get?, get?]
    split
    · rfl
    · exact ih

theorem mem_foldl_put (pairs : List (String × β)) {t : Table β} {e : String × β}
    (h : e ∈ pairs.foldl (fun t e => t.put e.1 e.2) t) : e ∈ t ∨ e ∈ pairs := by
  induction pairs generalizing t with
  | nil => exact .inl h
  | cons a rest ih =>
    rcases ih h with h | h
    · exact (mem_put h).symm.imp id fun heq : e = a => heq ▸ List.mem_cons_self ..
    · exact .inr (List.mem_cons_of_mem _ h)

theorem mem_of_mem_ofPairs {pairs : List (String × β)} {e : String × β} (h : e ∈ ofPairs pairs) :
    e ∈ pairs := (mem_foldl_put pairs h).resolve_left List.not_mem_nil

/-- Pairs in order are their table. -/
theorem ofPairs_of_ordered {t : Table β} (h : t.Ordered) : ofPairs t = t := by
  have hfold : ∀ before : Table β, Ordered (before ++ t) →
      t.foldl (fun t e => t.put e.1 e.2) before = before ++ t := by
    clear h
    induction t with
    | nil => simp
    | cons e rest ih =>
      intro before h
      have hlt : ∀ a ∈ before, a.1 < e.1 := fun a ha =>
        (List.pairwise_append.1 h).2.2 a ha e (List.mem_cons_self ..)
      rw [List.foldl_cons, put_of_all_lt hlt, ih, List.append_assoc, List.singleton_append]
      rwa [List.append_assoc, List.singleton_append]
  exact hfold [] h

end Table

namespace Value

/-- A property holds of every value if arrays have it from their elements, objects from the values
under their keys, and all else without more. -/
@[elab_as_elim]
theorem induction {motive : Value → Prop} (null : motive .null)
    (bool : ∀ b, motive (.bool b)) (num : ∀ n, motive (.num n)) (str : ∀ s, motive (.str s))
    (arr : ∀ items, (∀ v ∈ items, motive v) → motive (.arr items))
    (obj : ∀ fields : Table Value, (∀ v ∈ fields.values, motive v) → motive (.obj fields))
    (v : Value) : motive v :=
  @Value.rec motive (fun items => ∀ v ∈ items, motive v)
    (fun fields => ∀ v ∈ Table.values fields, motive v) (fun field => motive field.2)
    null bool num str arr obj
    (fun _ h => nomatch h) (fun _ _ hv hitems => List.forall_mem_cons.2 ⟨hv, hitems⟩)
    (fun _ h => nomatch h) (fun _ _ hfield hfields => List.forall_mem_cons.2 ⟨hfield, hfields⟩)
    (fun _ _ hv => hv) v

/-- Every object in the value has its keys in ascending order. -/
inductive Ordered : Value → Prop where
  | null : Ordered null
  | bool (b : Bool) : Ordered (bool b)
  | num (n : Number) : Ordered (num n)
  | str (s : String) : Ordered (str s)
  | arr {items : List Value} (h : ∀ v ∈ items, Ordered v) : Ordered (arr items)
  | obj {fields : Table Value} (hk : fields.Ordered) (h : ∀ e ∈ fields, Ordered e.2) :
      Ordered (obj fields)

theorem Ordered.keys {fields : Table Value} (h : (Value.obj fields).Ordered) : fields.Ordered := by
  cases h
  assumption

theorem Ordered.field {fields : Table Value} (h : (Value.obj fields).Ordered) {k : String} {v : Value}
    (hv : fields.get? k = some v) : v.Ordered := by
  cases h with
  | obj _ hall => exact hall _ (Table.mem_of_get? hv)

theorem Ordered.item {items : List Value} (h : (Value.arr items).Ordered) {i : Nat} {v : Value}
    (hv : items[i]? = some v) : v.Ordered := by
  cases h with
  | arr hall => exact hall _ (List.mem_of_getElem? hv)

/-! ### Values in order -/

mutual
/-- The value with the members of each object in the order of their keys. -/
def sorted : Value → Value
  | arr items => arr (sortedItems items)
  | obj fields => obj (Table.ofPairs (sortedFields fields))
  | v => v

/-- The elements, in order each. -/
def sortedItems : List Value → List Value
  | [] => []
  | v :: rest => v.sorted :: sortedItems rest

/-- The members, with their values in order each. -/
def sortedFields : List (String × Value) → List (String × Value)
  | [] => []
  | (k, v) :: rest => (k, v.sorted) :: sortedFields rest
end

theorem sortedItems_eq_map (items : List Value) : sortedItems items = items.map sorted := by
  induction items with
  | nil => rfl
  | cons v rest ih => rw [sortedItems, ih, List.map_cons]

theorem sortedFields_eq_map (fields : Table Value) :
    sortedFields fields = fields.map fun e => (e.1, e.2.sorted) := by
  induction fields with
  | nil => rfl
  | cons e rest ih => rw [sortedFields, ih, List.map_cons]

theorem keys_sortedFields (fields : Table Value) :
    Table.keys (sortedFields fields) = fields.keys := by
  rw [sortedFields_eq_map, Table.keys, List.map_map]
  rfl

theorem get?_sortedFields (fields : Table Value) (k : String) :
    Table.get? (sortedFields fields) k = (fields.get? k).map sorted := by
  induction fields with
  | nil => rfl
  | cons e rest ih =>
    obtain ⟨key, v⟩ := e
    rw [sortedFields, Table.get?, Table.get?]
    split
    · rfl
    · exact ih

theorem sorted_arr (items : List Value) : (arr items).sorted = arr (items.map sorted) := by
  rw [sorted, sortedItems_eq_map]

theorem sorted_obj (fields : Table Value) :
    (obj fields).sorted = obj (Table.ofPairs (sortedFields fields)) := by
  rw [sorted]

/-- What stands under a key of an object in order is what stood there, in order. -/
theorem get?_sorted {fields : Table Value} (h : fields.keys.Nodup) (k : String) :
    Table.get? (Table.ofPairs (sortedFields fields)) k = (fields.get? k).map sorted := by
  rw [Table.get?_ofPairs (by rwa [keys_sortedFields]), get?_sortedFields]

theorem ordered_sorted (v : Value) : v.sorted.Ordered := by
  induction v using Value.induction with
  | null => exact .null
  | bool b => exact .bool b
  | num n => exact .num n
  | str s => exact .str s
  | arr items ih =>
    rw [sorted_arr]
    exact .arr (List.forall_mem_map.2 ih)
  | obj fields ih =>
    rw [sorted_obj]
    refine .obj (Table.ordered_ofPairs _) fun e he => ?_
    have hmem := Table.mem_of_mem_ofPairs he
    rw [sortedFields_eq_map] at hmem
    obtain ⟨a, ha, rfl⟩ := List.mem_map.1 hmem
    exact ih a.2 (List.mem_map.2 ⟨a, ha, rfl⟩)

/-- A value in order stays as it is. -/
theorem sorted_of_ordered {v : Value} (h : v.Ordered) : v.sorted = v := by
  induction h with
  | arr _ ih => rw [sorted_arr, List.map_congr_left ih, List.map_id']
  | @obj fields hk _ ih =>
    have hfields : sortedFields fields = fields := by
      calc sortedFields fields = fields.map id := by
            rw [sortedFields_eq_map]
            exact List.map_congr_left fun e he => Prod.ext rfl (ih e he)
        _ = fields := List.map_id fields
    rw [sorted_obj, hfields, Table.ofPairs_of_ordered hk]
  | null => rfl
  | bool b => rfl
  | num n => rfl
  | str s => rfl

end Value

end LivePanel
