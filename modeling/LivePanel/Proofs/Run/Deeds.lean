import LivePanel.Proofs.Run.Solo
import LivePanel.Proofs.State.Lens

/-!
# What a run does while it is driven

A run that is driven takes many steps, each with an effect or none. `Run.deeds` lists the effects of
all of them. The store afterwards is the store before with the writes among them, and its count of
writes goes up by one with each.

## What is proved

* `store_drive`, `store_reply_drive`: the store comes about by the deeds alone.
* `State.Store.revision_after`: the writes are counted.
-/

namespace LivePanel

/-- Whether the effect is a write into the store. -/
def Effect.isWrite : Effect → Bool
  | .write .. => true
  | .send .. => false
  | .ask .. => false

theorem Effect.revision_of_onStore {e : Effect} {s s' : State.Store} (h : e.onStore s = .ok s') :
    s'.revision = s.revision + e.isWrite.toNat := by
  cases e with
  | write path value =>
    have hset : s.set path value = .ok s' := h
    exact (State.write_segments_of_set hset).2.2.2
  | send message payload =>
    cases h
    rfl
  | ask prompt context =>
    cases h
    rfl

namespace State.Store

theorem after_cons (s : Store) (e : Effect) (es : List Effect) :
    s.after (e :: es) = e.onStore s >>= fun s' => s'.after es := List.foldlM_cons

/-- Effects that follow others go on from their store. -/
theorem after_append_of_eq {s s' : Store} {es : List Effect} (h : s.after es = .ok s')
    (es' : List Effect) : s.after (es ++ es') = s'.after es' := by
  unfold after at *
  rw [List.foldlM_append, h]
  rfl

/-- **The count of a store goes up by one with each write.** -/
theorem revision_after {s s' : Store} {es : List Effect} (h : s.after es = .ok s') :
    s'.revision = s.revision + es.countP Effect.isWrite := by
  induction es generalizing s with
  | nil =>
    cases h
    rfl
  | cons e es ih =>
    rw [after_cons] at h
    cases he : e.onStore s with
    | error cause =>
      rw [he] at h
      cases h
    | ok s₁ =>
      rw [he] at h
      rw [ih h, Effect.revision_of_onStore he, List.countP_cons]
      cases e.isWrite
      · rfl
      · exact Nat.add_right_comm ..

end State.Store

namespace Run

variable (p : Program) (cancelled : Bool) (r : Run) (d : Desk)

/-- What is on the list of steps leaves the store as its effect does. -/
theorem Comes.store {m : Move} (h : Comes p r d m) :
    d.store.after m.effect.toList = .ok m.desk.store := by
  cases h with
  | goes _ hd => exact congrArg Except.ok hd.symm
  | acts _ _ he =>
    change d.store.after [_] = _
    rw [State.Store.after_cons, he]
    rfl
  | ends _ _ => rfl
  | fails _ _ hd => exact congrArg Except.ok hd.symm

theorem store_step :
    d.store.after (r.step p cancelled d).effect.toList = .ok (r.step p cancelled d).desk.store := by
  cases cancelled with
  | false => exact (comes_step p r d).store
  | true =>
    obtain ⟨r', h⟩ := still_of_cancelled p r d
    rw [h]
    rfl

theorem store_reply : d.store.after (r.reply d).effect.toList = .ok (r.reply d).desk.store :=
  (comes_reply ⟨[], .null⟩ r d).store

/-- The effects of a run that is driven until it rests. -/
def deeds (p : Program) (cancelled : Bool) (r : Run) (d : Desk) : List Effect :=
  if r.rests cancelled d then []
  else
    let m := r.step p cancelled d
    m.effect.toList ++ deeds p cancelled m.run m.desk
termination_by r.load p
decreasing_by exact load_step p cancelled r d (Bool.eq_false_iff.2 ‹_›)

/-- **A run that is driven does to the store what its deeds do.** -/
theorem store_drive :
    d.store.after (r.deeds p cancelled d) = .ok (r.drive p cancelled d).2.store := by
  fun_induction drive p cancelled r d with
  | case1 r d h =>
    rw [deeds, if_pos h]
    rfl
  | case2 r d h m ih =>
    rw [deeds, if_neg h, State.Store.after_append_of_eq (store_step p cancelled r d)]
    exact ih

end Run

namespace Performance

/-- The effects of a run that takes a reply and is driven on. -/
def deedsOfReply (f : Performance) (cancelled : Bool) (d : Desk) : List Effect :=
  (f.run.reply d).effect.toList ++
    (f.run.reply d).run.deeds f.program cancelled (f.run.reply d).desk

theorem store_reply (f : Performance) (cancelled : Bool) (d : Desk) :
    d.store.after (f.deedsOfReply cancelled d) = .ok (f.reply cancelled d).2.store := by
  rw [deedsOfReply, State.Store.after_append_of_eq (Run.store_reply f.run d)]
  exact Run.store_drive ..

end Performance

end LivePanel
