import LivePanel.Proofs.Toml.Distinct
import LivePanel.Toml.Merge

/-!
# Merged trees of documents

A tree laid over another, seen through the members of its tables: a member of the upper table is laid
over that of the lower one, where there is one, and the others of the lower one stay in their places.
-/

namespace LivePanel

open Table

namespace Toml.Datum

/-- A value with another laid over it, either of which may be missing. -/
def lay (below above : Option Datum) : Option Datum :=
  match above with
  | none => below
  | some d =>
    match below with
    | none => some d
    | some b => some (b.merge d)

theorem merge_of_not_table {d : Datum} (h : ∀ members, d ≠ .table members) (b : Datum) :
    b.merge d = d := by
  cases d with
  | table members => exact absurd rfl (h members)
  | _ => rw [merge]; exact h

theorem lay_none (v : Option Datum) : lay none v = v := by
  cases v <;> rfl

theorem lay_of_not_table {d : Datum} (h : ∀ members, d ≠ .table members) (v : Option Datum) :
    lay v (some d) = some d := by
  cases v with
  | none => rfl
  | some b => rw [lay, merge_of_not_table h]

/-- A merged member is the upper one over the lower one. -/
theorem get?_mergeMembers {upper : Table Datum} (h : upper.keys.Nodup) (members : Table Datum)
    (k : String) : get? (mergeMembers members upper) k = lay (members.get? k) (upper.get? k) := by
  induction upper generalizing members with
  | nil =>
    rw [mergeMembers]
    rfl
  | cons e rest ih =>
    obtain ⟨key, d⟩ := e
    obtain ⟨hnot, hrest⟩ := List.nodup_cons.1 h
    rw [mergeMembers, ih hrest, get?_set, get?]
    by_cases hk : key = k
    · subst hk
      rw [if_pos rfl, if_pos rfl, get?_eq_none_of_not_mem hnot]
      cases members.get? key <;> rfl
    · rw [if_neg hk, if_neg hk]

theorem nodup_mergeMembers (upper : Table Datum) {members : Table Datum}
    (h : members.keys.Nodup) : (keys (mergeMembers members upper)).Nodup := by
  induction upper generalizing members with
  | nil =>
    rw [mergeMembers]
    exact h
  | cons e rest ih =>
    rw [mergeMembers]
    exact ih (nodup_set h _ _)

/-- Members that change nothing where they are laid over what is there change nothing together. -/
theorem mergeMembers_of_idle {upper members : Table Datum}
    (hidle : ∀ e ∈ upper, ∃ b, members.get? e.1 = some b ∧ b.merge e.2 = b) :
    mergeMembers members upper = members := by
  induction upper with
  | nil => rw [mergeMembers]
  | cons e rest ih =>
    obtain ⟨⟨b, hb, hmerge⟩, hrest⟩ := List.forall_mem_cons.1 hidle
    rw [mergeMembers, hb]
    dsimp only
    rw [hmerge, set_of_get? hb]
    exact ih hrest

theorem mergeMembers_of_disjoint {upper members : Table Datum}
    (h : (keys (members ++ upper)).Nodup) : mergeMembers members upper = members ++ upper := by
  induction upper generalizing members with
  | nil => rw [mergeMembers, List.append_nil]
  | cons e rest ih =>
    obtain ⟨key, d⟩ := e
    have hkey : key ∉ members.keys := by
      rw [keys, List.map_append, List.nodup_append] at h
      exact fun hm => h.2.2 key hm key (List.mem_cons_self ..) rfl
    have hset : members.set key d = members ++ [(key, d)] := by
      clear h ih
      induction members with
      | nil => rfl
      | cons a others ih =>
        rw [keys_cons, List.mem_cons, not_or] at hkey
        rw [Table.set, if_neg (Ne.symm hkey.1), ih hkey.2, List.cons_append]
    rw [mergeMembers, get?_eq_none_of_not_mem hkey]
    dsimp only
    rw [hset, ih, List.append_assoc, List.singleton_append]
    rwa [List.append_assoc, List.singleton_append]

/-- The members of a table, if there is one. -/
def membersOf (v : Option Datum) : Table Datum :=
  match v with
  | some (.table members) => members
  | _ => []

/-- A table is laid over the members of a table; over anything else it stands as it is. -/
theorem lay_table {upper : Table Datum} (h : upper.keys.Nodup) (v : Option Datum) :
    lay v (some (.table upper)) = some (.table (mergeMembers (membersOf v) upper)) := by
  have halone : mergeMembers [] upper = upper := mergeMembers_of_disjoint h
  cases v with
  | none => exact congrArg (fun m => some (Datum.table m)) halone.symm
  | some b => cases b <;> simp [lay, merge, membersOf, halone]

end Toml.Datum

end LivePanel
