/-!
# Tables

Finite maps with text keys, as lists of pairs. `put` keeps keys in ascending
order of code points (the order of their UTF-8 bytes), so a table that is built
with `put` alone is sorted and has one entry a key; the laws of `get?` below hold
of every list of pairs.
-/

namespace LivePanel

/-- A finite map with text keys. -/
abbrev Table (β : Type u) := List (String × β)

namespace Table

variable {β : Type u}

/-- The value under `k`. -/
def get? : Table β → String → Option β
  | [], _ => none
  | (k', v) :: rest, k => if k' = k then some v else get? rest k

/-- Whether there is a value under `k`. -/
def has (t : Table β) (k : String) : Bool := (t.get? k).isSome

/-- Set the value under `k`. -/
def put (t : Table β) (k : String) (v : β) : Table β :=
  match t with
  | [] => [(k, v)]
  | (k', v') :: rest =>
    if k' = k then (k, v) :: rest
    else if k < k' then (k, v) :: (k', v') :: rest
    else (k', v') :: put rest k v

/-- Set the value under `k` where it stands, or at the end; a table that is built with `set` alone
has its keys in the order in which they came. -/
def set (t : Table β) (k : String) (v : β) : Table β :=
  match t with
  | [] => [(k, v)]
  | (k', v') :: rest => if k' = k then (k, v) :: rest else (k', v') :: set rest k v

/-- Remove what is under `k`. -/
def erase (t : Table β) (k : String) : Table β := t.filter fun e => e.1 != k

/-- The keys in order. -/
def keys (t : Table β) : List String := t.map (·.1)

/-- The values in order of their keys. -/
def values (t : Table β) : List β := t.map (·.2)

/-- The table of the pairs, a later one winning over an earlier one. -/
def ofPairs (pairs : List (String × β)) : Table β :=
  pairs.foldl (fun t e => t.put e.1 e.2) []

@[simp] theorem get?_nil (k : String) : get? ([] : Table β) k = none := rfl

@[simp] theorem get?_put_self (t : Table β) (k : String) (v : β) : (t.put k v).get? k = some v := by
  induction t with
  | nil => simp [put, get?]
  | cons e rest ih =>
    simp only [put]
    split
    · simp [get?]
    · split
      · simp [get?]
      · rename_i h _
        simp [get?, h, ih]

theorem get?_put_of_ne (t : Table β) {k k' : String} (v : β) (h : k ≠ k') :
    (t.put k v).get? k' = t.get? k' := by
  induction t with
  | nil => simp [put, get?, h]
  | cons e rest ih =>
    simp only [put]
    split
    · rename_i he
      simp [get?, h, he]
    · split
      · simp [get?, h]
      · simp only [get?, ih]

theorem get?_put (t : Table β) (k k' : String) (v : β) :
    (t.put k v).get? k' = if k = k' then some v else t.get? k' := by
  split
  · rename_i h
    subst h
    simp
  · rename_i h
    exact get?_put_of_ne t v h

theorem get?_erase (t : Table β) (k k' : String) :
    (t.erase k).get? k' = if k = k' then none else t.get? k' := by
  induction t with
  | nil => simp [erase, get?]
  | cons e rest ih =>
    simp only [erase, List.filter_cons] at ih ⊢
    by_cases he : e.1 = k
    · simp only [he, bne_self_eq_false, Bool.false_eq_true, if_false, ih]
      by_cases hk : k = k'
      · simp [hk]
      · simp [get?, he, hk]
    · simp only [bne_iff_ne.2 he, if_true, get?, ih]
      by_cases hk : e.1 = k'
      · subst hk
        simp [Ne.symm he]
      · simp [hk]

end Table

end LivePanel
