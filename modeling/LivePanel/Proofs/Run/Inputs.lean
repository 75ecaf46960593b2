import LivePanel.Proofs.Run.Steps

/-!
# Runs and what happens to them

A run is moved by what happens to it: it is given a turn, its request is answered, or it is let
go. What a run comes to is told by the list of its inputs, whatever store, bridge or cancellation
each of them brings along; all that a performance does with a run is told so (`turns_iff`).

`exists_outcome_of_served`: a run ends if, as long as it has not ended, it gets sooner or later
what it needs in order to go on. Every input leaves it as it is or takes something off its load.
-/

namespace LivePanel

namespace Run

/-- What can happen to a run: a turn on a desk, with its cancellation asked for or not; a reply to
its request; or it is let go. -/
inductive Input where
  | turn (cancelled : Bool) (d : Desk)
  | reply (reply : Except BridgeError Value) (d : Desk)
  | letGo

/-- Whether the input is a turn. -/
def Input.isTurn : Input → Bool
  | .turn .. => true
  | _ => false

/-- What a run makes of an input. -/
def take (p : Program) (r : Run) : Input → Run
  | .turn cancelled d => (r.step p cancelled d).run
  | .reply reply d =>
    match r.focus with
    | .waiting storeAs => (r.receive storeAs reply d).run
    | _ => r
  | .letGo => r.cancel

/-- What a run makes of several inputs. -/
def after (p : Program) (r : Run) (inputs : List Input) : Run := inputs.foldl (take p) r

/-- The input is what the run needs in order to go on: where it waits, a reply, or a turn with a
bridge that answers at once; or else a turn with something left of the stint. -/
def Input.Serves (r : Run) : Input → Prop
  | .turn _ d => if r.isWaiting = true then d.bridge.answersAtOnce = true else 0 < d.left
  | .reply .. => r.isWaiting = true
  | .letGo => False

/-- A turn with a bridge that answers at once and something left of the stint serves every run. -/
theorem Input.serves_turn (r : Run) (cancelled : Bool) {d : Desk}
    (hb : d.bridge.answersAtOnce = true) (hl : 0 < d.left) : (turn cancelled d).Serves r := by
  rw [Serves]
  split
  · exact hb
  · exact hl

variable {p : Program} {r : Run}

theorem exists_take_of_turn {r' : Run} (h : Turn p r r') : ∃ i, r' = r.take p i := by
  cases h with
  | step cancelled _ d => exact ⟨.turn cancelled d, rfl⟩
  | receive hf reply d => exact ⟨.reply reply d, by rw [take, hf]⟩
  | cancel => exact ⟨.letGo, rfl⟩

theorem turns_take (r : Run) (i : Input) : Turns p r (r.take p i) := by
  cases i with
  | turn cancelled d => exact .single (.step cancelled r d)
  | reply reply d =>
    rw [take]
    split
    · exact .single (.receive ‹_› reply d)
    · exact .refl
  | letGo => exact .single (.cancel r)

/-- **The turns of a run are what it makes of inputs.** -/
theorem turns_iff {r' : Run} : Turns p r r' ↔ ∃ inputs, r' = r.after p inputs := by
  constructor
  · intro h
    induction h with
    | refl => exact ⟨[], rfl⟩
    | tail _ hturn ih =>
      obtain ⟨inputs, rfl⟩ := ih
      obtain ⟨i, rfl⟩ := exists_take_of_turn hturn
      exact ⟨inputs ++ [i], by rw [after, after, List.foldl_append]; rfl⟩
  · rintro ⟨inputs, rfl⟩
    induction inputs generalizing r with
    | nil => exact .refl
    | cons i inputs ih => exact (turns_take r i).trans ih

theorem take_of_finished {o : Except RunError Unit} (h : r.focus = .finished o) (i : Input) :
    r.take p i = r := by
  cases i with
  | turn cancelled d => exact step_of_rests (by simp [rests, h])
  | reply reply d => simp [take, h]
  | letGo => simp [take, cancel, isWaiting, isAsking, h]

theorem load_cancel_lt (h : r.isWaiting = true ∨ r.isAsking = true) :
    r.cancel.load p < r.load p := by
  have hcancel : r.cancel = r.finish (.error .cancelled) := by
    rw [cancel, if_pos]
    simpa using h
  rw [hcancel, load_finish, load]
  suffices 0 < r.focus.load p by omega
  rcases h with h | h
  · unfold isWaiting at h
    split at h
    · rename_i hf
      rw [hf, Focus.load]
      omega
    · cases h
  · unfold isAsking at h
    split at h
    · rename_i hf
      rw [hf, Focus.load]
      omega
    · cases h

/-- **An input leaves a run as it is, or takes something off its load.** -/
theorem take_eq_or_load_lt (p : Program) (r : Run) (i : Input) :
    r.take p i = r ∨ (r.take p i).load p < r.load p := by
  cases i with
  | turn cancelled d =>
    cases h : r.rests cancelled d with
    | true => exact .inl (step_of_rests h)
    | false => exact .inr (load_step p cancelled r d h)
  | reply reply d =>
    rw [take]
    split
    · exact .inr (load_receive p _ reply d ‹_›)
    · exact .inl rfl
  | letGo =>
    by_cases h : r.isWaiting = true ∨ r.isAsking = true
    · exact .inr (load_cancel_lt h)
    · refine .inl (if_neg ?_)
      simpa using h

/-- What a run needs takes something off its load. -/
theorem load_take_of_serves (hr : r.outcome? = none) {i : Input} (hi : i.Serves r) :
    (r.take p i).load p < r.load p := by
  cases i with
  | turn cancelled d =>
    refine load_step p cancelled r d ?_
    unfold outcome? at hr
    unfold Input.Serves isWaiting at hi
    unfold rests
    cases hf : r.focus <;> simp_all [Nat.pos_iff_ne_zero]
  | reply reply d =>
    have hi : r.isWaiting = true := hi
    unfold isWaiting at hi
    split at hi
    · rename_i hf
      simp only [take, hf]
      exact load_receive p _ reply d hf
    · cases hi
  | letGo => exact absurd hi id

/-- To fold over one more of a sequence is to take one more step. -/
theorem foldl_range_succ {α β : Type} (f : α → β → α) (a : α) (xs : Nat → β) (k : Nat) :
    ((List.range (k + 1)).map xs).foldl f a = f (((List.range k).map xs).foldl f a) (xs k) := by
  rw [List.range_succ, List.map_append, List.foldl_append]
  rfl

/-- What a run has come to after the first inputs of a sequence. -/
def course (p : Program) (r : Run) (inputs : Nat → Input) (k : Nat) : Run :=
  r.after p ((List.range k).map inputs)

theorem course_succ (inputs : Nat → Input) (k : Nat) :
    r.course p inputs (k + 1) = (r.course p inputs k).take p (inputs k) :=
  foldl_range_succ (take p) r inputs k

/-- Nothing happens to a run that has ended. -/
theorem course_of_finished {o : Except RunError Unit} {inputs : Nat → Input} {k : Nat}
    (h : (r.course p inputs k).focus = .finished o) (n : Nat) :
    r.course p inputs (k + n) = r.course p inputs k := by
  induction n with
  | zero => rfl
  | succ n ih => rw [← Nat.add_assoc, course_succ, ih, take_of_finished h]

/-- Along a course a run is what it was, or its load is lower. -/
theorem course_eq_or_load_lt (inputs : Nat → Input) (k n : Nat) :
    r.course p inputs (k + n) = r.course p inputs k ∨
      (r.course p inputs (k + n)).load p < (r.course p inputs k).load p := by
  induction n with
  | zero => exact .inl rfl
  | succ n ih =>
    rw [← Nat.add_assoc, course_succ]
    rcases take_eq_or_load_lt p (r.course p inputs (k + n)) (inputs (k + n)) with h | h
    · rwa [h]
    · rcases ih with heq | hlt
      · exact .inr (heq ▸ h)
      · exact .inr (Nat.lt_trans h hlt)

/-- As long as the run has not ended it gets sooner or later what it needs. -/
def Served (p : Program) (r : Run) (inputs : Nat → Input) : Prop :=
  ∀ k, (r.course p inputs k).outcome? = none →
    ∃ m, k ≤ m ∧ (inputs m).Serves (r.course p inputs k)

/-- **A run that is served ends.** -/
theorem exists_outcome_of_served {inputs : Nat → Input} (h : r.Served p inputs) (k : Nat) :
    ∃ m, (r.course p inputs m).outcome?.isSome := by
  -- by induction on the load, which is lower at the latest after the input that serves
  induction hload : (r.course p inputs k).load p using Nat.strongRecOn generalizing k with
  | ind load ih =>
    cases hk : (r.course p inputs k).outcome? with
    | some o => exact ⟨k, by rw [hk]; rfl⟩
    | none =>
      obtain ⟨m, hkm, hserves⟩ := h k hk
      obtain ⟨n, rfl⟩ := Nat.exists_eq_add_of_le hkm
      rcases course_eq_or_load_lt (r := r) (p := p) inputs k n with heq | hlt
      · have hlower := load_take_of_serves (p := p) hk hserves
        rw [← heq, ← course_succ, heq, hload] at hlower
        exact ih _ hlower (k + n + 1) rfl
      · exact ih _ (hload ▸ hlt) (k + n) rfl

end Run

end LivePanel
