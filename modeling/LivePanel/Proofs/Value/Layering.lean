import LivePanel.Proofs.Toml.Merge
import LivePanel.Proofs.Value.Merge
import LivePanel.Value.Decode

/-!
# One tree laid over another, told by paths

The state of a template and the settings of a program are put together in the same way: a tree is laid
over another one, branch over branch, and what is no branch replaces or is replaced. What comes of it
is told here by paths alone. Let `r` be the longest part of a path `q`, from its start, along which
there is something in the upper tree. The upper tree hides the lower one at `r` if it has no branch
there, or the lower one has none at `r` or on the way to it. At `q` there is then what the upper tree
has; and otherwise what the lower one has, or a branch with the keys of both.

## The model

`Layering` is what the two kinds of trees have in common: the members of a branch, and one law for
each way in which a tree can meet another. All that is said about paths follows from these laws, by
induction on the path; that laying the same tree once more changes nothing follows by induction on
the tree.

## What is proved

* `Layering.layered`: what there is at each path of a tree laid over another.
* `Layering.lay_again`: a tree that is laid over another twice comes to the same as once.
* `merge_layered`: both of objects and their members, and of tables and theirs.
-/

namespace LivePanel

/-- Trees whose branches are tables, and what it is to lay one of them over another. -/
structure Layering (α : Type) where
  /-- The members of a branch. -/
  members? : α → Option (Table α)
  /-- The lower tree with the upper one over it. -/
  lay : α → α → α
  /-- The tables that there are in a tree. -/
  Proper : Table α → Prop
  nodup : ∀ {m}, Proper m → m.keys.Nodup
  /-- Only a branch lets something show through, and only a branch shows through. -/
  lay_bare : ∀ {base upper}, members? base = none ∨ members? upper = none → lay base upper = upper
  /-- A branch over a branch is a branch. -/
  lay_branch : ∀ {base upper m n}, members? base = some m → members? upper = some n → Proper n →
    ∃ s, members? (lay base upper) = some s ∧ (Proper m → Proper s) ∧
      ∀ k, s.get? k = match n.get? k with
        | none => m.get? k
        | some u => match m.get? k with
          | none => some u
          | some b => some (lay b u)
  /-- A branch changes nothing if its members change nothing. -/
  lay_idle : ∀ {base upper m n}, members? base = some m → members? upper = some n → Proper m →
    (∀ e ∈ n, ∃ b, m.get? e.1 = some b ∧ lay b e.2 = b) → lay base upper = base

namespace Layering

variable {α : Type} (L : Layering α)

/-- All tables in a tree are proper. -/
inductive Sound : α → Prop where
  | leaf {t : α} (h : L.members? t = none) : Sound t
  | branch {t : α} {m : Table α} (h : L.members? t = some m) (hm : L.Proper m)
      (hall : ∀ e ∈ m, Sound e.2) : Sound t

/-- What there is under a key. -/
def child? (t : α) (k : String) : Option α := (L.members? t).bind fun m => m.get? k

/-- What there is at a path of keys. -/
def at? (t : α) : List String → Option α
  | [] => some t
  | k :: q => (L.child? t k).bind fun u => at? u q

/-- The members of the branch at a path, if there is one. -/
def branchAt? (t : α) (q : List String) : Option (Table α) := (L.at? t q).bind L.members?

/-- `r` is the longest part of the path `q`, from its start, along which there is something. -/
structure Longest (t : α) (q r : List String) : Prop where
  along : r <+: q
  present : (L.at? t r).isSome
  longest : ∀ p, p <+: q → (L.at? t p).isSome → p <+: r

/-- The upper tree has no branch at `r`, or the lower one has none there or on the way. -/
def Hidden (base upper : α) (r : List String) : Prop :=
  L.branchAt? upper r = none ∨ ∃ p, p <+: r ∧ L.branchAt? base p = none

/-- **What there is at the path `q`** of a tree that was laid over another, where `r` is what the
upper tree has of the path. -/
structure Layered (base upper merged : α) (q r : List String) : Prop where
  /-- What the upper tree has, where it hides the lower one. -/
  hidden : L.Hidden base upper r → L.at? merged q = L.at? upper q
  /-- What the lower tree has, where the upper one ends on the way. -/
  through : ¬ L.Hidden base upper r → r ≠ q → L.at? merged q = L.at? base q
  /-- A branch with the keys of both, where both have a branch. -/
  joined : ¬ L.Hidden base upper r → r = q →
    ∃ m n s, L.branchAt? base q = some m ∧ L.branchAt? upper q = some n ∧
      L.branchAt? merged q = some s ∧ ∀ k, k ∈ s.keys ↔ k ∈ m.keys ∨ k ∈ n.keys

section

variable {L} {base upper t b u : α} {m n : Table α} {k : String} {q r : List String}

theorem child?_of_branch (ht : L.members? t = some m) (k : String) : L.child? t k = m.get? k := by
  rw [child?, ht, Option.bind_some]

theorem child?_of_leaf (ht : L.members? t = none) (k : String) : L.child? t k = none := by
  rw [child?, ht, Option.bind_none]

theorem Sound.child (h : L.Sound t) (hu : L.child? t k = some u) : L.Sound u := by
  cases h with
  | leaf ht =>
    rw [child?_of_leaf ht] at hu
    cases hu
  | branch ht _ hall =>
    rw [child?_of_branch ht] at hu
    exact hall _ (Table.mem_of_get? hu)

theorem Sound.proper (h : L.Sound t) (ht : L.members? t = some m) : L.Proper m := by
  cases h with
  | leaf hnone => cases hnone.symm.trans ht
  | branch hm hproper _ =>
    cases hm.symm.trans ht
    exact hproper

/-! ### Paths into a tree -/

theorem branchAt?_nil (L : Layering α) (t : α) : L.branchAt? t [] = L.members? t := rfl

theorem at?_cons (hu : L.child? t k = some u) (q : List String) :
    L.at? t (k :: q) = L.at? u q := by
  rw [at?, hu, Option.bind_some]

theorem at?_cons_of_absent (hu : L.child? t k = none) (q : List String) :
    L.at? t (k :: q) = none := by
  rw [at?, hu, Option.bind_none]

theorem branchAt?_cons (hu : L.child? t k = some u) (q : List String) :
    L.branchAt? t (k :: q) = L.branchAt? u q := by
  rw [branchAt?, at?_cons hu, branchAt?]

theorem branchAt?_of_leaf (ht : L.members? t = none) (q : List String) : L.branchAt? t q = none := by
  cases q with
  | nil => exact ht
  | cons k q => rw [branchAt?, at?_cons_of_absent (child?_of_leaf ht k), Option.bind_none]

/-- Where there is nothing under its first key, nothing of a path is present. -/
theorem longest_of_absent (hu : L.child? t k = none) : L.Longest t (k :: q) r ↔ r = [] := by
  have hnil : ∀ p, p <+: k :: q → (L.at? t p).isSome → p = [] := by
    intro p hp hsome
    rcases List.prefix_cons_iff.1 hp with rfl | ⟨p, rfl, -⟩
    · rfl
    · rw [at?_cons_of_absent hu] at hsome
      cases hsome
  constructor
  · exact fun h => hnil r h.along h.present
  · rintro rfl
    exact ⟨List.nil_prefix, rfl, fun p hp hsome => hnil p hp hsome ▸ List.nil_prefix⟩

/-- Where there is something under its first key, a path goes on in what is there. -/
theorem longest_cons (hu : L.child? t k = some u) :
    L.Longest t (k :: q) r ↔ ∃ r', r = k :: r' ∧ L.Longest u q r' := by
  constructor
  · intro h
    have hk : [k] <+: r :=
      h.longest [k] (List.cons_prefix_cons.2 ⟨rfl, List.nil_prefix⟩) (by rw [at?_cons hu]; rfl)
    obtain ⟨r', rfl⟩ := hk
    refine ⟨r', rfl, (List.cons_prefix_cons.1 h.along).2, ?_, fun p hp hsome => ?_⟩
    · rw [← at?_cons hu]
      exact h.present
    · have hp' := h.longest (k :: p) (List.cons_prefix_cons.2 ⟨rfl, hp⟩)
        (by rw [at?_cons hu]; exact hsome)
      exact (List.cons_prefix_cons.1 hp').2
  · rintro ⟨r', rfl, h⟩
    refine ⟨List.cons_prefix_cons.2 ⟨rfl, h.along⟩, ?_, fun p hp hsome => ?_⟩
    · rw [at?_cons hu]
      exact h.present
    · rcases List.prefix_cons_iff.1 hp with rfl | ⟨p, rfl, hp'⟩
      · exact List.nil_prefix
      · rw [at?_cons hu] at hsome
        exact List.cons_prefix_cons.2 ⟨rfl, h.longest p hp' hsome⟩

/-- Every path has a longest part along which there is something. -/
theorem exists_longest (L : Layering α) (t : α) (q : List String) : ∃ r, L.Longest t q r := by
  induction q generalizing t with
  | nil => exact ⟨[], List.nil_prefix, rfl, fun p hp _ => hp⟩
  | cons k q ih =>
    cases hu : L.child? t k with
    | none => exact ⟨[], (longest_of_absent hu).2 rfl⟩
    | some u =>
      obtain ⟨r, hr⟩ := ih u
      exact ⟨k :: r, (longest_cons hu).2 ⟨r, rfl, hr⟩⟩

/-! ### Laying one tree over another -/

/-- A tree hides what it does not meet branch on branch. -/
theorem hidden_of_bare (h : L.members? base = none ∨ L.members? upper = none) (r : List String) :
    L.Hidden base upper r := by
  rcases h with h | h
  · exact .inr ⟨[], List.nil_prefix, h⟩
  · exact .inl (branchAt?_of_leaf h r)

theorem bare_or_branches (L : Layering α) (base upper : α) :
    (L.members? base = none ∨ L.members? upper = none) ∨
      ∃ m n, L.members? base = some m ∧ L.members? upper = some n := by
  cases L.members? base with
  | none => exact .inl (.inl rfl)
  | some m =>
    cases L.members? upper with
    | none => exact .inl (.inr rfl)
    | some n => exact .inr ⟨m, n, rfl, rfl⟩

/-- A branch over a branch hides nothing at the root. -/
theorem not_hidden_nil (hm : L.members? base = some m) (hn : L.members? upper = some n) :
    ¬ L.Hidden base upper [] := by
  rintro (h | ⟨p, hp, h⟩)
  · cases hn.symm.trans h
  · rw [List.prefix_nil.1 hp] at h
    cases hm.symm.trans h

/-- Below a key that both trees have it is the trees there that hide one another. -/
theorem hidden_cons (hm : L.members? base = some m) (hb : L.child? base k = some b)
    (hu : L.child? upper k = some u) :
    L.Hidden base upper (k :: r) ↔ L.Hidden b u r := by
  rw [Hidden, Hidden, branchAt?_cons hu]
  refine or_congr_right ⟨?_, ?_⟩
  · rintro ⟨p, hp, hnone⟩
    rcases List.prefix_cons_iff.1 hp with rfl | ⟨p, rfl, hp'⟩
    · rw [branchAt?_nil, hm] at hnone
      cases hnone
    · exact ⟨p, hp', by rw [← branchAt?_cons hb, hnone]⟩
  · rintro ⟨p, hp, hnone⟩
    exact ⟨k :: p, List.cons_prefix_cons.2 ⟨rfl, hp⟩, by rw [branchAt?_cons hb, hnone]⟩

theorem layered_of_hidden {merged : α} (h : L.Hidden base upper r)
    (hq : L.at? merged q = L.at? upper q) : L.Layered base upper merged q r :=
  ⟨fun _ => hq, fun hnot => absurd h hnot, fun hnot => absurd h hnot⟩

/-- What there is under a key of a branch that was laid over a branch. -/
theorem child?_lay (hm : L.members? base = some m) (hn : L.members? upper = some n)
    (hs : L.Sound upper) (k : String) :
    L.child? (L.lay base upper) k = match L.child? upper k with
      | none => L.child? base k
      | some u => match L.child? base k with
        | none => some u
        | some b => some (L.lay b u) := by
  obtain ⟨s, hlay, -, hget⟩ := L.lay_branch hm hn (hs.proper hn)
  rw [child?_of_branch hlay, child?_of_branch hm, child?_of_branch hn, hget]

theorem layered_of_bare (h : L.members? base = none ∨ L.members? upper = none) (q r : List String) :
    L.Layered base upper (L.lay base upper) q r :=
  layered_of_hidden (hidden_of_bare h r) (by rw [L.lay_bare h])

/-- A branch over a branch has the keys of both. -/
theorem layered_root (hm : L.members? base = some m) (hn : L.members? upper = some n)
    (hs : L.Sound upper) : L.Layered base upper (L.lay base upper) [] [] where
  hidden h := absurd h (not_hidden_nil hm hn)
  through _ hne := absurd rfl hne
  joined _ _ := by
    obtain ⟨s, hlay, -, hget⟩ := L.lay_branch hm hn (hs.proper hn)
    refine ⟨m, n, s, hm, hn, hlay, fun k => ?_⟩
    rw [← Table.has_iff_mem_keys, ← Table.has_iff_mem_keys, ← Table.has_iff_mem_keys, Table.has,
      Table.has, Table.has, hget]
    cases n.get? k with
    | none => simp
    | some u => cases m.get? k <;> simp

/-- Below a key that both trees have, what there is comes of the trees there. -/
theorem layered_cons {merged w : α} (hm : L.members? base = some m) (hb : L.child? base k = some b)
    (hu : L.child? upper k = some u) (hw : L.child? merged k = some w)
    (h : L.Layered b u w q r) : L.Layered base upper merged (k :: q) (k :: r) where
  hidden hh := by
    rw [at?_cons hw, at?_cons hu]
    exact h.hidden ((hidden_cons hm hb hu).1 hh)
  through hh hne := by
    rw [at?_cons hw, at?_cons hb]
    exact h.through (mt (hidden_cons hm hb hu).2 hh) fun heq => hne (congrArg (k :: ·) heq)
  joined hh heq := by
    rw [branchAt?_cons hw, branchAt?_cons hb, branchAt?_cons hu]
    exact h.joined (mt (hidden_cons hm hb hu).2 hh) (List.cons.inj heq).2

/-- **What there is in a tree laid over another**, at each path. -/
theorem layered (base : α) (hs : L.Sound upper) (hr : L.Longest upper q r) :
    L.Layered base upper (L.lay base upper) q r := by
  induction q generalizing base upper r with
  | nil =>
    obtain rfl : r = [] := List.prefix_nil.1 hr.along
    rcases L.bare_or_branches base upper with hbare | ⟨m, n, hm, hn⟩
    · exact layered_of_bare hbare ..
    · exact layered_root hm hn hs
  | cons k q ih =>
    rcases L.bare_or_branches base upper with hbare | ⟨m, n, hm, hn⟩
    · exact layered_of_bare hbare ..
    have hlay := child?_lay hm hn hs k
    cases hu : L.child? upper k with
    | none =>
      -- the upper tree ends here, so the lower one shows through from here on
      obtain rfl : r = [] := (longest_of_absent hu).1 hr
      rw [hu] at hlay
      refine ⟨fun hh => absurd hh (not_hidden_nil hm hn), fun _ _ => ?_, fun _ heq => by cases heq⟩
      rw [at?, at?, hlay]
    | some u =>
      obtain ⟨r', rfl, hr'⟩ := (longest_cons hu).1 hr
      rw [hu] at hlay
      cases hb : L.child? base k with
      | none =>
        rw [hb] at hlay
        refine layered_of_hidden (.inr ⟨[k], ?_, ?_⟩) ?_
        · exact List.cons_prefix_cons.2 ⟨rfl, List.nil_prefix⟩
        · rw [branchAt?, at?_cons_of_absent hb, Option.bind_none]
        · rw [at?, at?, hlay, hu]
      | some b =>
        rw [hb] at hlay
        exact layered_cons hm hb hu hlay (ih b (hs.child hu) hr')

/-! ### Laying the same tree once more -/

theorem lay_self (hs : L.Sound t) : L.lay t t = t := by
  induction hs with
  | leaf h => exact L.lay_bare (.inl h)
  | branch h hm _ ih =>
    exact L.lay_idle h h hm fun e he =>
      ⟨e.2, Table.get?_of_mem_of_nodup (L.nodup hm) he, ih e he⟩

/-- **To lay a tree over another a second time changes nothing.** -/
theorem lay_again (hb : L.Sound base) (hu : L.Sound upper) :
    L.lay (L.lay base upper) upper = L.lay base upper := by
  induction hu generalizing base with
  | leaf h => rw [L.lay_bare (.inr h), L.lay_bare (.inr h)]
  | branch h hn hall ih =>
    cases hm : L.members? base with
    | none =>
      rw [L.lay_bare (.inl hm)]
      exact lay_self (.branch h hn hall)
    | some m =>
      obtain ⟨s, hs, hproper, hget⟩ := L.lay_branch hm h hn
      refine L.lay_idle hs h (hproper (hb.proper hm)) fun e he => ?_
      rw [hget, Table.get?_of_mem_of_nodup (L.nodup hn) he]
      cases hbelow : m.get? e.1 with
      | none => exact ⟨e.2, rfl, lay_self (hall e he)⟩
      | some b => exact ⟨_, rfl, ih e he (hb.child ((child?_of_branch hm e.1).trans hbelow))⟩

/-- To lay an empty branch over a branch changes nothing. -/
theorem lay_empty (upper : α) (hb : L.Sound base) (hm : L.members? base = some m)
    (hn : L.members? upper = some []) : L.lay base upper = base :=
  L.lay_idle hm hn (hb.proper hm) fun _ he => absurd he List.not_mem_nil

end

end Layering

/-! ### Objects -/

namespace Value

theorem eq_obj_of_object? {v : Value} {fields : Table Value} (h : v.object? = some fields) :
    v = obj fields := by
  cases v with
  | obj fields' => exact congrArg obj (Option.some.inj h)
  | _ => cases h

theorem isObj_of_object? {v : Value} (h : v.object? = none) : v.isObj = false := by
  cases v with
  | obj fields => cases h
  | _ => rfl

/-- Objects, laid over one another member by member. -/
def layering : Layering Value where
  members? := object?
  lay := merge
  Proper := Table.Ordered
  nodup := Table.nodup_of_ordered
  lay_bare {base upper} h := by
    cases hu : upper.object? with
    | none => exact merge_of_not_obj base (isObj_of_object? hu)
    | some n =>
      obtain rfl := eq_obj_of_object? hu
      exact merge_obj_of_not_obj (isObj_of_object? (h.resolve_right (by simp [hu]))) n
  lay_branch {base upper m n} hm hn hproper := by
    obtain rfl := eq_obj_of_object? hm
    obtain rfl := eq_obj_of_object? hn
    refine ⟨mergeFields m n, rfl, ordered_mergeFields n, fun k => ?_⟩
    rw [get?_mergeFields hproper]
    cases n.get? k with
    | none => rfl
    | some u =>
      cases m.get? k with
      | none => exact congrArg some (null_merge u)
      | some b => rfl
  lay_idle {base upper m n} hm hn hproper hidle := by
    obtain rfl := eq_obj_of_object? hm
    obtain rfl := eq_obj_of_object? hn
    exact congrArg obj (mergeFields_of_idle hproper hidle)

theorem Ordered.sound {v : Value} (h : v.Ordered) : layering.Sound v := by
  induction h with
  | obj hk _ ih => exact .branch rfl hk ih
  | null => exact .leaf rfl
  | bool b => exact .leaf rfl
  | num n => exact .leaf rfl
  | str s => exact .leaf rfl
  | arr _ _ => exact .leaf rfl

end Value

/-! ### Tables of documents -/

namespace Toml.Datum

/-- The members of a table. -/
def members? : Datum → Option (Table Datum)
  | table members => some members
  | _ => none

theorem eq_table_of_members? {d : Datum} {members : Table Datum} (h : d.members? = some members) :
    d = table members := by
  cases d with
  | table members' => exact congrArg table (Option.some.inj h)
  | _ => cases h

/-- Tables, laid over one another member by member. -/
def layering : Layering Datum where
  members? := members?
  lay := merge
  Proper m := m.keys.Nodup
  nodup h := h
  lay_bare {base upper} h := by
    cases hu : upper.members? with
    | none =>
      refine merge_of_not_table (fun members heq => ?_) base
      rw [heq] at hu
      cases hu
    | some n =>
      obtain rfl := eq_table_of_members? hu
      have hb : base.members? = none := h.resolve_right (by simp [hu])
      cases base with
      | table members => cases hb
      | _ => rfl
  lay_branch {base upper m n} hm hn hproper := by
    obtain rfl := eq_table_of_members? hm
    obtain rfl := eq_table_of_members? hn
    refine ⟨mergeMembers m n, rfl, nodup_mergeMembers n, fun k => ?_⟩
    rw [get?_mergeMembers hproper]
    cases n.get? k with
    | none => rfl
    | some u => cases m.get? k <;> rfl
  lay_idle {base upper m n} hm hn _ hidle := by
    obtain rfl := eq_table_of_members? hm
    obtain rfl := eq_table_of_members? hn
    exact congrArg table (mergeMembers_of_idle hidle)

theorem Distinct.sound {d : Datum} (h : d.Distinct) : layering.Sound d := by
  induction h with
  | table hkeys _ ih => exact .branch rfl hkeys ih
  | text s => exact .leaf rfl
  | whole n => exact .leaf rfl
  | real x => exact .leaf rfl
  | flag b => exact .leaf rfl
  | moment m => exact .leaf rfl
  | list _ _ => exact .leaf rfl

end Toml.Datum

/-! ### Merging -/

/-- **What there is in merged values and in merged documents**, path by path; to merge the same once
more, or an object without members, changes nothing. -/
theorem merge_layered :
    (∀ base upper : Value, base.Ordered → upper.Ordered →
      (∀ q, ∃ r, Value.layering.Longest upper q r) ∧
      (∀ q r, Value.layering.Longest upper q r →
        Value.layering.Layered base upper (base.merge upper) q r) ∧
      (base.merge upper).merge upper = base.merge upper ∧
      ∀ fields, base = .obj fields → base.merge (.obj []) = base) ∧
    ∀ base upper : Toml.Datum, base.Distinct → upper.Distinct →
      (∀ q, ∃ r, Toml.Datum.layering.Longest upper q r) ∧
      (∀ q r, Toml.Datum.layering.Longest upper q r →
        Toml.Datum.layering.Layered base upper (base.merge upper) q r) ∧
      (base.merge upper).merge upper = base.merge upper ∧
      ∀ members, base = .table members → base.merge (.table []) = base := by
  constructor
  · intro base upper hb hu
    refine ⟨Value.layering.exists_longest upper, fun q r => Layering.layered base hu.sound,
      Layering.lay_again hb.sound hu.sound, ?_⟩
    rintro fields rfl
    exact Layering.lay_empty (.obj []) hb.sound rfl rfl
  · intro base upper hb hu
    refine ⟨Toml.Datum.layering.exists_longest upper, fun q r => Layering.layered base hu.sound,
      Layering.lay_again hb.sound hu.sound, ?_⟩
    rintro members rfl
    exact Layering.lay_empty (.table []) hb.sound rfl rfl

/-- A title is laid over a title and columns: it takes the place of the one, and the others show
through. -/
theorem merge_layered_title :
    let base := Value.obj [("grid", .obj [("columns", .ofNat 3), ("title", .str "old")])]
    let upper := Value.obj [("grid", .obj [("title", .str "new")])]
    let defaults := Toml.Datum.table [("watch", .table [("poll", .flag true), ("delay", .whole 5)])]
    let own := Toml.Datum.table [("watch", .table [("delay", .whole 7)])]
    (base.Ordered ∧ upper.Ordered ∧
      Value.layering.at? (base.merge upper) ["grid", "columns"] = some (.ofNat 3) ∧
      Value.layering.at? (base.merge upper) ["grid", "title"] = some (.str "new") ∧
      (base.merge upper).merge upper = base.merge upper) ∧
    defaults.Distinct ∧ own.Distinct ∧
      (defaults.merge own).merge own = defaults.merge own := by
  intro base upper defaults own
  have hbase : base.Ordered := by
    refine .obj (by decide) ?_
    simp only [List.forall_mem_singleton]
    refine .obj (by decide) ?_
    simp only [List.forall_mem_cons]
    exact ⟨.num _, .str _, by simp⟩
  have hupper : upper.Ordered := by
    refine .obj (by decide) ?_
    simp only [List.forall_mem_singleton]
    refine .obj (by decide) ?_
    simp only [List.forall_mem_singleton]
    exact .str _
  have hdefaults : defaults.Distinct := by
    refine .table (by decide) ?_
    simp only [List.forall_mem_singleton]
    refine .table (by decide) ?_
    simp only [List.forall_mem_cons]
    exact ⟨.flag _, .whole _, by simp⟩
  have hown : own.Distinct := by
    refine .table (by decide) ?_
    simp only [List.forall_mem_singleton]
    refine .table (by decide) ?_
    simp only [List.forall_mem_singleton]
    exact .whole _
  obtain ⟨-, hpaths, hagain, -⟩ := merge_layered.1 base upper hbase hupper
  obtain ⟨-, -, hagain', -⟩ := merge_layered.2 defaults own hdefaults hown
  have hcolumns : Value.layering.Longest upper ["grid", "columns"] ["grid"] :=
    (Layering.longest_cons (u := .obj [("title", .str "new")]) rfl).2
      ⟨[], rfl, (Layering.longest_of_absent rfl).2 rfl⟩
  have htitle : Value.layering.Longest upper ["grid", "title"] ["grid", "title"] :=
    ⟨List.prefix_rfl, rfl, fun _ hp _ => hp⟩
  have hshows : ¬ Value.layering.Hidden base upper ["grid"] := by
    rw [Layering.hidden_cons rfl rfl rfl]
    exact Layering.not_hidden_nil rfl rfl
  refine ⟨⟨hbase, hupper, ?_, ?_, hagain⟩, hdefaults, hown, hagain'⟩
  · rw [(hpaths _ _ hcolumns).through hshows (by decide)]
    rfl
  · rw [(hpaths _ _ htitle).hidden (.inl rfl)]
    rfl

end LivePanel
