import LivePanel.Proofs.Value.Ordered
import LivePanel.Value.Members
import LivePanel.Value.Merge

/-!
# What a merged value selects

One value laid over another, seen through the paths into it: a member of the upper object is laid
over the member of the lower one, where the lower one has it; members of the lower object that the
upper one lacks show through; whatever is no object hides what lies under it.
-/

namespace LivePanel.Value

theorem merge_of_not_obj (base : Value) {v : Value} (h : v.isObj = false) : base.merge v = v := by
  cases v with
  | obj fields => simp [isObj] at h
  | _ => rfl

theorem merge_obj_of_not_obj {base : Value} (h : base.isObj = false) (upper : Table Value) :
    base.merge (obj upper) = obj upper := by
  cases base with
  | obj fields => simp [isObj] at h
  | _ => rfl

@[simp] theorem merge_obj_obj (fields upper : Table Value) :
    (obj fields).merge (obj upper) = obj (mergeFields fields upper) := rfl

@[simp] theorem merge_arr (base : Value) (items : List Value) : base.merge (arr items) = arr items :=
  rfl

/-- Nothing shows through where the lower value is null. -/
@[simp] theorem null_merge (v : Value) : null.merge v = v := by cases v <;> rfl

theorem mergeFields_cons (fields : Table Value) (k : String) (v : Value) (rest : Table Value) :
    mergeFields fields ((k, v) :: rest) =
      mergeFields (Table.put fields k (((Table.get? fields k).getD .null).merge v)) rest := by
  rw [mergeFields]
  cases Table.get? fields k with
  | none => simp
  | some below => rfl

/-- **Members of merged objects**: a member of the upper one over that of the lower one. -/
theorem get?_mergeFields {upper : Table Value} (h : upper.Ordered) (fields : Table Value)
    (k : String) :
    Table.get? (mergeFields fields upper) k =
      match Table.get? upper k with
      | some v => some (((Table.get? fields k).getD .null).merge v)
      | none => Table.get? fields k := by
  induction upper generalizing fields with
  | nil => rfl
  | cons e rest ih =>
    obtain ⟨k', v⟩ := e
    obtain ⟨hall, hrest⟩ := Table.ordered_cons.1 h
    rw [mergeFields_cons, ih hrest, Table.get?_put]
    by_cases hk : k' = k
    · subst hk
      simp [Table.get?, Table.get?_eq_none_of_lt hall]
    · simp [Table.get?, hk]

theorem ordered_mergeFields (upper : Table Value) {fields : Table Value} (h : fields.Ordered) :
    Table.Ordered (mergeFields fields upper) := by
  induction upper generalizing fields with
  | nil => exact h
  | cons e rest ih =>
    rw [mergeFields_cons]
    exact ih (Table.ordered_put h _ _)

/-- Members that change nothing where they are laid over what is there change nothing together. -/
theorem mergeFields_of_idle {upper fields : Table Value} (h : fields.Ordered)
    (hidle : ∀ e ∈ upper, ∃ b, fields.get? e.1 = some b ∧ b.merge e.2 = b) :
    mergeFields fields upper = fields := by
  induction upper with
  | nil => rfl
  | cons e rest ih =>
    obtain ⟨⟨b, hb, hmerge⟩, hrest⟩ := List.forall_mem_cons.1 hidle
    rw [mergeFields_cons, hb, Option.getD_some, hmerge, Table.put_of_get? h hb]
    exact ih hrest

/-- **What a segment selects in a value with an object laid over it.** -/
theorem child?_merge_obj (base : Value) {upper : Table Value} (h : upper.Ordered) (k : String) :
    (base.merge (obj upper)).child? k =
      match Table.get? upper k with
      | some v => some ((base.member k).merge v)
      | none => base.field? k := by
  cases base with
  | obj fields => exact get?_mergeFields h fields k
  | _ =>
    rw [merge_obj_of_not_obj rfl, child?]
    cases Table.get? upper k <;> simp [member, field?]

@[simp] theorem atPath?_nil (v : Value) : v.atPath? [] = some v := by cases v <;> rfl

@[simp] theorem atPath?_cons (v : Value) (s : String) (rest : List String) :
    v.atPath? (s :: rest) = (v.child? s).bind fun w => w.atPath? rest := by cases v <;> rfl

/-- A value that is no container selects nothing. -/
theorem child?_eq_none {v : Value} (ho : v.isObj = false) (ha : ∀ items, v ≠ arr items)
    (s : String) : v.child? s = none := by
  cases v with
  | obj fields => simp [isObj] at ho
  | arr items => exact absurd rfl (ha items)
  | _ => rfl

end LivePanel.Value
