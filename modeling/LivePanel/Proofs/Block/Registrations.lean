import LivePanel.Block.Registry
import LivePanel.Proofs.Value.Ordered
import Mathlib.Data.List.Induction

/-!
# What a registry holds

Blocks are registered and taken out again, and some of these calls are refused. Which blocks are in
the registry in the end is told by the calls alone: under each id the one that was registered last,
if it was not taken out since.

## The model

* `Registry.Call`: a call of a registry; `Registry.take`, what comes of it; `Registry.after`, the
  registry after some calls.
* `Standing`: the block that was registered last under an id, and not taken out since.
* `Holds`: the registry is what the calls say.

## What is proved

* `Holds.take`: each call keeps the registry in step with the calls.
* `after_holds_last`: so it is after any calls, with each block under the id that its metadata have,
  stamped with their integrity.
-/

namespace LivePanel

/-! ### Stamps -/

/-- The integrity of metadata does not depend on the digest that they declare. -/
theorem Metadata.integrity_declared (m : Metadata) (declared : Option String) :
    { m with integrityHash := declared }.integrity = m.integrity := rfl

/-- The block with its metadata stamped. -/
def Block.stamped {σ : Type} (b : Block σ) : Block σ :=
  { b with metadata := { b.metadata with integrityHash := some b.metadata.integrity } }

namespace Registry

variable {σ : Type}

/-! ### Calls -/

/-- A call of a registry: a block is registered, or the element of some metadata is, or what is
under an id is taken out. -/
inductive Call (σ : Type) where
  | register (b : Block σ)
  | registerElement (m : Metadata)
  | unregister (id : String)

namespace Call

/-- The block that a call registers. -/
def block? : Call σ → Option (Block σ)
  | register b => some b
  | registerElement m => some (.element m)
  | unregister _ => none

/-- The registry that a call makes of another, or why it is refused. -/
def make (r : Registry σ) : Call σ → Except RegistryError (Registry σ)
  | register b => r.register b
  | registerElement m => r.register (.element m)
  | unregister id => (r.unregister id).map (·.2)

/-- The call registers a block under an id. -/
def Registers (c : Call σ) (id : String) (b : Block σ) : Prop :=
  c.block? = some b ∧ b.metadata.id = id ∧ isId id = true

/-- The call registers a block under an id, or takes out what is there. -/
def Settles (c : Call σ) (id : String) : Prop := (∃ b, c.Registers id b) ∨ c = unregister id

end Call

/-- What comes of a call, and the registry after it. -/
def take (r : Registry σ) (c : Call σ) : Except RegistryError Unit × Registry σ :=
  match c.make r with
  | .ok r' => (.ok (), r')
  | .error e => (.error e, r)

/-- The registry after some calls on an empty one. -/
def after (calls : List (Call σ)) : Registry σ := calls.foldl (fun r c => (r.take c).2) []

theorem after_append (calls : List (Call σ)) (c : Call σ) :
    after (calls ++ [c]) = ((after calls).take c).2 := by
  simp [after]

/-- The block was registered under the id, and since then no other was, nor was it taken out. -/
def Standing (calls : List (Call σ)) (id : String) (b : Block σ) : Prop :=
  ∃ front c rest, calls = front ++ c :: rest ∧ c.Registers id b ∧ ∀ c' ∈ rest, ¬ c'.Settles id

theorem not_standing_nil (id : String) (b : Block σ) : ¬ Standing [] id b := by
  rintro ⟨front, c, rest, h, -⟩
  simp at h

/-- **One more call**: it decides what stands under an id where it is about that id, and elsewhere
all stands as it stood. -/
theorem standing_append (calls : List (Call σ)) (c : Call σ) (id : String) (b : Block σ) :
    Standing (calls ++ [c]) id b ↔
      c.Registers id b ∨ Standing calls id b ∧ ¬ c.Settles id := by
  constructor
  · rintro ⟨front, c', rest, heq, hc', hrest⟩
    rcases List.eq_nil_or_concat rest with rfl | ⟨rest, last, rfl⟩
    · obtain ⟨-, hlast⟩ := List.append_inj' heq rfl
      cases hlast
      exact .inl hc'
    · rw [List.concat_eq_append, ← List.cons_append, ← List.append_assoc] at heq
      obtain ⟨rfl, hlast⟩ := List.append_inj' heq rfl
      cases hlast
      exact .inr ⟨⟨front, c', rest, rfl, hc', fun a ha => hrest a (by simp [ha])⟩,
        hrest c (by simp)⟩
  · rintro (hc | ⟨⟨front, c', rest, rfl, hc', hrest⟩, hc⟩)
    · exact ⟨calls, c, [], rfl, hc, nofun⟩
    · refine ⟨front, c', rest ++ [c], by simp, hc', fun a ha => ?_⟩
      rcases List.mem_append.1 ha with ha | ha
      · exact hrest a ha
      · exact List.mem_singleton.1 ha ▸ hc

/-! ### What one call does -/

theorem register_eq (r : Registry σ) (b : Block σ) : r.register b =
    if isId b.metadata.id then .ok (Table.put r b.metadata.id b.stamped)
    else .error (.invalidMetadata b.metadata.id) := rfl

/-- What is taken out was there, and all else is left. -/
theorem unregister_eq (r : Registry σ) (id : String) : (r.unregister id).map (·.2) =
    if (r.resolve? id).isSome then .ok (Table.erase r id) else .error (.notFound id) := by
  unfold unregister
  cases r.resolve? id <;> rfl

/-- A call that registers a block puts it, stamped, under its id, unless that is none. -/
theorem take_of_block? (r : Registry σ) {c : Call σ} {b : Block σ} (h : c.block? = some b) :
    r.take c = if isId b.metadata.id then (.ok (), Table.put r b.metadata.id b.stamped)
      else (.error (.invalidMetadata b.metadata.id), r) := by
  have hmake : c.make r = r.register b := by
    cases c with
    | unregister => cases h
    | register | registerElement =>
      cases h
      rfl
  rw [take, hmake, register_eq]
  by_cases hid : isId b.metadata.id = true
  · rw [if_pos hid, if_pos hid]
  · rw [if_neg hid, if_neg hid]

theorem take_unregister (r : Registry σ) (id : String) : r.take (.unregister id) =
    if (r.resolve? id).isSome then (.ok (), Table.erase r id) else (.error (.notFound id), r) := by
  rw [take, Call.make, unregister_eq]
  by_cases hid : (r.resolve? id).isSome = true
  · rw [if_pos hid, if_pos hid]
  · rw [if_neg hid, if_neg hid]

/-- **A call that is refused leaves the registry as it was.** -/
theorem take_of_error {r : Registry σ} {c : Call σ} {e : RegistryError}
    (h : (r.take c).1 = .error e) : (r.take c).2 = r := by
  unfold take at h ⊢
  split at h
  · cases h
  · rfl

/-- An id has characters, and none of them is blank. -/
theorem isId_iff {id : String} : isId id = true ↔ id ≠ "" ∧ ∀ c ∈ id.toList, Text.isBlank c = false := by
  simp [isId]

/-! ### Any calls -/

/-- The entry is that of its metadata's id, and these are stamped. -/
def Filed (e : String × Block σ) : Prop :=
  e.2.metadata.id = e.1 ∧ isId e.1 = true ∧ e.2.metadata.integrityHash = some e.2.metadata.integrity

/-- The registry is what the calls say: its ids ascend, its entries are in their places, and the
block under an id is the one that stands there. -/
structure Holds (calls : List (Call σ)) (r : Registry σ) : Prop where
  ordered : Table.Ordered r
  filed : ∀ e ∈ r, Filed e
  resolve?_iff : ∀ id b, r.resolve? id = some b ↔ ∃ b', Standing calls id b' ∧ b = b'.stamped

namespace Holds

variable {calls : List (Call σ)} {r : Registry σ}

theorem nil : Holds [] ([] : Registry σ) where
  ordered := Table.ordered_nil
  filed _ he := absurd he List.not_mem_nil
  resolve?_iff id _ := ⟨nofun, fun ⟨b', h, _⟩ => absurd h (not_standing_nil id b')⟩

/-- A call about no id leaves all as it stood. -/
theorem append_of_not_settles (h : Holds calls r) {c : Call σ} (hc : ∀ id, ¬ c.Settles id) :
    Holds (calls ++ [c]) r where
  ordered := h.ordered
  filed := h.filed
  resolve?_iff id b := by
    rw [h.resolve?_iff]
    refine exists_congr fun b' => and_congr_left' ?_
    rw [standing_append]
    exact ⟨fun hb => .inr ⟨hb, hc id⟩,
      fun hb => hb.elim (fun hreg => absurd (.inl ⟨b', hreg⟩) (hc id)) (·.1)⟩

theorem put (h : Holds calls r) {c : Call σ} {b : Block σ} (hc : c.block? = some b)
    (hid : isId b.metadata.id = true) :
    Holds (calls ++ [c]) (Table.put r b.metadata.id b.stamped) where
  ordered := Table.ordered_put h.ordered ..
  filed e he := by
    rcases Table.mem_put he with rfl | he
    · exact ⟨rfl, hid, congrArg some (Metadata.integrity_declared ..).symm⟩
    · exact h.filed e he
  resolve?_iff id b' := by
    have hregisters : ∀ b'', c.Registers id b'' ↔ b'' = b ∧ b.metadata.id = id := by
      intro b''
      refine ⟨fun ⟨hb, hb', _⟩ => ?_, fun ⟨hb, hb'⟩ => ⟨hb ▸ hc, hb ▸ hb', hb' ▸ hid⟩⟩
      obtain rfl : b = b'' := Option.some.inj (hc.symm.trans hb)
      exact ⟨rfl, hb'⟩
    have hsettles : c.Settles id ↔ b.metadata.id = id := by
      constructor
      · rintro (⟨b'', hb⟩ | rfl)
        · exact ((hregisters b'').1 hb).2
        · cases hc
      · exact fun hb => .inl ⟨b, (hregisters b).2 ⟨rfl, hb⟩⟩
    rw [resolve?, Table.get?_put]
    simp only [standing_append, hregisters, hsettles]
    split
    · rename_i heq
      simp [heq, eq_comm]
    · rename_i hne
      have hstands := h.resolve?_iff id b'
      rw [resolve?] at hstands
      simpa [hne] using hstands

theorem erase (h : Holds calls r) (id : String) :
    Holds (calls ++ [.unregister id]) (Table.erase r id) where
  ordered := List.Pairwise.filter _ h.ordered
  filed e he := h.filed e (List.mem_filter.1 he).1
  resolve?_iff id' b := by
    have hregisters : ∀ b', ¬ (Call.unregister id : Call σ).Registers id' b' := fun b' hb => nomatch hb.1
    have hsettles : (Call.unregister id : Call σ).Settles id' ↔ id = id' := by
      constructor
      · rintro (⟨b', hb⟩ | heq)
        · exact absurd hb (hregisters b')
        · exact Call.unregister.inj heq
      · exact fun heq => .inr (congrArg _ heq)
    rw [resolve?, Table.get?_erase]
    simp only [standing_append, hregisters, hsettles, false_or]
    split
    · rename_i heq
      simp [heq]
    · rename_i hne
      have hstands := h.resolve?_iff id' b
      rw [resolve?] at hstands
      simpa [hne] using hstands

/-- **Each call keeps the registry in step with the calls.** -/
theorem take (h : Holds calls r) (c : Call σ) : Holds (calls ++ [c]) (r.take c).2 := by
  cases hc : c.block? with
  | some b =>
    rw [take_of_block? r hc]
    split
    · exact h.put hc ‹_›
    · rename_i hid
      refine h.append_of_not_settles fun id => ?_
      rintro (⟨b', hb, rfl, hid'⟩ | rfl)
      · obtain rfl : b = b' := Option.some.inj (hc.symm.trans hb)
        exact hid hid'
      · cases hc
  | none =>
    obtain ⟨id, rfl⟩ : ∃ id, c = .unregister id := by
      cases c with
      | unregister id => exact ⟨id, rfl⟩
      | register | registerElement => cases hc
    rw [take_unregister]
    split
    · exact h.erase id
    · rename_i hnone
      have herase := h.erase id
      have hsame : Table.erase r id = r := by
        refine List.filter_eq_self.2 fun e he => ?_
        rw [bne_iff_ne]
        rintro rfl
        exact hnone (Option.isSome_iff_exists.2 ⟨e.2, Table.get?_of_mem h.ordered he⟩)
      rwa [hsame] at herase

end Holds

/-- After any calls the registry is what they say. -/
theorem holds_after (calls : List (Call σ)) : Holds calls (after calls) := by
  induction calls using List.reverseRecOn with
  | nil => exact .nil
  | append_singleton calls c ih =>
    rw [after_append]
    exact ih.take c

/-- A call is taken unless it registers under what is no id, or takes out what is not there. -/
theorem take_ok_iff {calls : List (Call σ)} {r : Registry σ} (h : Holds calls r) (c : Call σ) :
    (r.take c).1 = .ok () ↔ (∀ b, c.block? = some b → isId b.metadata.id = true) ∧
      ∀ id, c = .unregister id → ∃ b, Standing calls id b := by
  cases hc : c.block? with
  | some b =>
    have hnot : ∀ id, c ≠ .unregister id := by
      rintro id rfl
      cases hc
    rw [take_of_block? r hc]
    split <;> simp_all
  | none =>
    obtain ⟨id, rfl⟩ : ∃ id, c = .unregister id := by
      cases c with
      | unregister id => exact ⟨id, rfl⟩
      | register | registerElement => cases hc
    have hstands : (r.resolve? id).isSome = true ↔ ∃ b, Standing calls id b := by
      rw [Option.isSome_iff_exists]
      constructor
      · rintro ⟨b, hb⟩
        obtain ⟨b', hb', -⟩ := (h.resolve?_iff id b).1 hb
        exact ⟨b', hb'⟩
      · rintro ⟨b', hb'⟩
        exact ⟨_, (h.resolve?_iff id _).2 ⟨b', hb', rfl⟩⟩
    rw [take_unregister]
    split <;> simp_all

/-- What is listed are the metadata of the entries, each under its own id. -/
theorem mem_list_iff {r : Registry σ} (hordered : Table.Ordered r) (hfiled : ∀ e ∈ r, Filed e)
    (m : Metadata) : m ∈ r.list ↔ ∃ b, r.resolve? m.id = some b ∧ b.metadata = m := by
  rw [list, Table.values, List.map_map, List.mem_map]
  constructor
  · rintro ⟨e, he, rfl⟩
    refine ⟨e.2, ?_, rfl⟩
    rw [Function.comp_apply, (hfiled e he).1]
    exact Table.get?_of_mem hordered he
  · rintro ⟨b, hb, rfl⟩
    exact ⟨_, Table.mem_of_get? hb, rfl⟩

/-- Listed by id, none of them twice. -/
theorem pairwise_list {r : Registry σ} (hordered : Table.Ordered r) (hfiled : ∀ e ∈ r, Filed e) :
    r.list.Pairwise fun m m' => m.id < m'.id := by
  rw [list, Table.values, List.map_map, List.pairwise_map]
  refine hordered.imp_of_mem fun ha hb hlt => ?_
  rwa [Function.comp_apply, Function.comp_apply, (hfiled _ ha).1, (hfiled _ hb).1]

/-- **A registry holds what was registered last.** After any calls an id resolves to the block that
was registered last under it and not taken out since, with its metadata stamped, and to nothing if
there is none. Every entry is that of its metadata's id, which is not empty and has no blanks, and
the digest there is the integrity of the metadata, whatever was declared. The list ascends by id and
has the metadata of each registered block, once. A call is refused only where it registers under
what is no id or takes out what is not there, and then the registry is left as it was. -/
theorem after_holds_last (calls : List (Call σ)) :
    let r := after calls
    (∀ id b, r.resolve? id = some b ↔ ∃ b', Standing calls id b' ∧ b.render = b'.render ∧
      b.metadata = { b'.metadata with integrityHash := some b'.metadata.integrity }) ∧
    (∀ e ∈ r, e.2.metadata.id = e.1 ∧ e.1 ≠ "" ∧ (∀ c ∈ e.1.toList, Text.isBlank c = false) ∧
      e.2.metadata.integrityHash = some e.2.metadata.integrity) ∧
    (r.list.Pairwise fun m m' => m.id < m'.id) ∧
    (∀ m, m ∈ r.list ↔ ∃ b, r.resolve? m.id = some b ∧ b.metadata = m) ∧
    ∀ c, ((r.take c).1 = .ok () ↔ (∀ b, c.block? = some b → isId b.metadata.id = true) ∧
        ∀ id, c = .unregister id → ∃ b, Standing calls id b) ∧
      ∀ e, (r.take c).1 = .error e → (r.take c).2 = r := by
  intro r
  have h := holds_after calls
  refine ⟨fun id b => ?_, fun e he => ?_, pairwise_list h.ordered h.filed,
    mem_list_iff h.ordered h.filed, fun c => ⟨take_ok_iff h c, fun e => take_of_error⟩⟩
  · rw [h.resolve?_iff]
    refine exists_congr fun b' => and_congr_right fun _ => ?_
    obtain ⟨metadata, render⟩ := b
    rw [Block.stamped, Block.mk.injEq, and_comm]
  · obtain ⟨hid, hkey, hstamp⟩ := h.filed e he
    exact ⟨hid, (isId_iff.1 hkey).1, (isId_iff.1 hkey).2, hstamp⟩

/-- Of two registrations of an id the later one stands; what was taken out is not there to be taken
out again. -/
theorem after_holds_last_replaced :
    let row : Metadata := { id := "row", name := "Row" }
    let calls : List (Call Unit) :=
      [.registerElement (.ofId "row"), .registerElement (.ofId "box"), .unregister "box",
        .registerElement row]
    let held : Block Unit := (Block.element row).stamped
    Standing calls "row" (.element row) ∧ (after calls).resolve? "row" = some held ∧
      ("row", held) ∈ after calls ∧ held.metadata.id = "row" ∧
      held.metadata.integrityHash = some held.metadata.integrity ∧
      ((after calls).take (.unregister "box")).1 = .error (.notFound "box") ∧
      ((after calls).take (.unregister "box")).2 = after calls := by
  intro row calls held
  obtain ⟨hresolve, hfiled, -, -, hcalls⟩ := after_holds_last calls
  have hstands : Standing calls "row" (.element row) :=
    ⟨calls.take 3, .registerElement row, [], rfl, ⟨rfl, rfl, by decide⟩, nofun⟩
  have hrow : (after calls).resolve? "row" = some held :=
    (hresolve "row" held).2 ⟨_, hstands, rfl, rfl⟩
  have hmem := Table.mem_of_get? hrow
  obtain ⟨hid, -, -, hhash⟩ := hfiled _ hmem
  have hbox : ((after calls).take (.unregister "box")).1 = .error (.notFound "box") := by
    decide
  exact ⟨hstands, hrow, hmem, hid, hhash, hbox, (hcalls _).2 _ hbox⟩

end Registry

end LivePanel
