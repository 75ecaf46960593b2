import LivePanel.Run.Step

/-!
# Driving a run

A run is driven step by step until it rests: until it has finished, waits or pauses.
This takes finitely many steps, also where actions call one another in a circle, because
each step takes something off the load of the run, the greatest number of steps that may
lie before it.
-/

namespace LivePanel

mutual
/-- The load of an action, given the load of the actions that it calls. -/
def Action.load (callee : String → Nat) : Action → Nat
  | .call name => callee name
  | .setState .. => 0
  | .send .. => 0
  | .branch branches => 1 + Action.loadOfBranches callee branches
  | .request _ _ _ onSuccess => 3 + Action.loadOfList callee onSuccess
  | .sequence steps => 2 + Action.loadOfList callee steps

/-- The load of a list of steps. -/
def Action.loadOfList (callee : String → Nat) : List Action → Nat
  | [] => 0
  | a :: rest => 2 + Action.load callee a + Action.loadOfList callee rest

/-- The load of branches. -/
def Action.loadOfBranches (callee : String → Nat) : List (String × Action) → Nat
  | [] => 0
  | (_, a) :: rest => Action.load callee a + Action.loadOfBranches callee rest
end

theorem Action.load_le_loadOfBranches (callee : String → Nat) {branches : List (String × Action)}
    {b : String × Action} (h : b ∈ branches) :
    b.2.load callee ≤ Action.loadOfBranches callee branches := by
  induction branches with
  | nil => simp at h
  | cons c rest ih =>
    obtain ⟨w, a⟩ := c
    rw [Action.loadOfBranches]
    rcases List.mem_cons.1 h with rfl | h
    · exact Nat.le_add_right _ _
    · have := ih h
      omega

/-- The load of a called action, with room for so many calls inside one another. -/
def Program.callLoad (p : Program) : Nat → String → Nat
  | 0, _ => 0
  | room + 1, name =>
    match p.actions.get? name with
    | some a => 1 + a.load (p.callLoad room)
    | none => 0

/-- The load of what calls at a depth. -/
def Program.calleeLoad (p : Program) (depth : Nat) : String → Nat :=
  p.callLoad (Run.maxDepth - depth)

/-- The load of a frame. -/
def Frame.load (p : Program) (f : Frame) : Nat :=
  1 + Action.loadOfList (p.calleeLoad f.depth) f.steps

/-- The load of several frames. -/
def Frame.loadOfList (p : Program) : List Frame → Nat
  | [] => 0
  | f :: rest => f.load p + Frame.loadOfList p rest

/-- The load of a focus. -/
def Focus.load (p : Program) : Focus → Nat
  | .next => 1
  | .perform action _ depth => 2 + action.load (p.calleeLoad depth)
  | .asking _ _ _ onSuccess depth => 4 + Action.loadOfList (p.calleeLoad depth) onSuccess
  | .waiting _ => 2
  | .finished _ => 0

namespace Run

/-- The load of a run. -/
def load (p : Program) (r : Run) : Nat := r.focus.load p + Frame.loadOfList p r.frames

@[simp] theorem load_finish (p : Program) (r : Run) (o : Except RunError Unit) :
    (r.finish o).load p = Frame.loadOfList p r.frames := by simp [load, finish, Focus.load]

@[simp] theorem load_goOn (p : Program) (r : Run) :
    r.goOn.load p = 1 + Frame.loadOfList p r.frames := by simp [load, goOn, Focus.load]

/-- A refused effect ends the run, any other lets it go on. -/
theorem attempt_run (r : Run) (d : Desk) (e : Effect) (after : Run → Run) :
    (r.attempt d e after).run = after { r with begun := r.begun + 1 } ∨
      ∃ o, (r.attempt d e after).run = { r with begun := r.begun + 1 }.finish o := by
  unfold attempt
  split
  · exact .inl rfl
  · exact .inr ⟨_, rfl⟩

/-- After an effect there is no more to do than to go on. -/
theorem load_attempt_le (p : Program) (r : Run) (d : Desk) (e : Effect) :
    (r.attempt d e goOn).run.load p ≤ 1 + Frame.loadOfList p r.frames := by
  rcases attempt_run r d e goOn with h | ⟨o, h⟩
  · exact Nat.le_of_eq ((congrArg (load p) h).trans (load_goOn ..))
  · rw [h, load_finish]
    exact Nat.le_add_left ..

theorem load_next (p : Program) (cancelled : Bool) {r : Run} (h : r.focus = .next) :
    (r.next cancelled).load p < r.load p := by
  have hr : r.load p = 1 + Frame.loadOfList p r.frames := by simp [load, h, Focus.load]
  rw [hr]
  unfold next
  split
  · simp
  · rename_i below hf
    simp only [load, h, hf, Focus.load, Frame.loadOfList, Frame.load]
    omega
  · rename_i a rest response depth below hf
    split
    · simp
    · simp only [load, hf, Focus.load, Frame.loadOfList, Frame.load, Action.loadOfList]
      omega

theorem calleeLoad_eq (p : Program) {depth : Nat} (h : depth < maxDepth) (name : String) :
    p.calleeLoad depth name =
      match p.actions.get? name with
      | some a => 1 + a.load (p.calleeLoad (depth + 1))
      | none => 0 := by
  unfold Program.calleeLoad
  have e : maxDepth - depth = (maxDepth - (depth + 1)) + 1 := by omega
  rw [e, Program.callLoad]

theorem load_perform (p : Program) (cancelled : Bool) {r : Run} (d : Desk)
    (response : Option Value) (depth : Nat) (action : Action)
    (h : r.focus = .perform action response depth) :
    (r.perform p cancelled d response depth action).run.load p < r.load p := by
  have hr : r.load p = 2 + action.load (p.calleeLoad depth) + Frame.loadOfList p r.frames := by
    simp [load, h, Focus.load]
  rw [hr]
  unfold perform
  cases action with
  | call name =>
    simp only
    split
    · rw [load_finish]
      omega
    · rename_i hd
      rw [Action.load, calleeLoad_eq p (by omega)]
      cases p.actions.get? name with
      | none => simp
      | some a => simp [load, Focus.load]
  | setState path value =>
    simp only
    split
    · rw [load_finish]
      omega
    · have := load_attempt_le p r d
        (.write path (Expr.interpolate (p.scope d.store response) value).value)
      omega
  | send message payload =>
    simp only
    split
    · rw [load_finish]
      omega
    · have := load_attempt_le p r d
        (.send message (Expr.interpolate (p.scope d.store response) payload).value)
      omega
  | branch branches =>
    simp only
    split
    · rw [load_finish]
      omega
    · split
      · rw [load_goOn]
        omega
      · rename_i b hb
        have := Action.load_le_loadOfBranches (p.calleeLoad depth) (List.mem_of_find?_eq_some hb)
        simp only [load, Focus.load, Action.load]
        omega
  | request prompt context storeAs onSuccess =>
    simp only
    split
    · rw [load_finish]
      omega
    · simp only [load, Focus.load, Action.load]
      omega
  | sequence steps =>
    simp only [load, enter, goOn, Focus.load, Frame.loadOfList, Frame.load, Action.load]
    omega

theorem load_receive (p : Program) {r : Run} (storeAs : Option String)
    (reply : Except BridgeError Value) (d : Desk) (h : r.focus = .waiting storeAs) :
    (r.receive storeAs reply d).run.load p < r.load p := by
  have hr : r.load p = 2 + Frame.loadOfList p r.frames := by simp [load, h, Focus.load]
  have respond_lt : ∀ v, (r.respond v).load p < 2 + Frame.loadOfList p r.frames := by
    intro v
    unfold respond
    split
    · rename_i hf
      simp [hf]
    · rename_i f below hf
      simp [load, hf, Focus.load, Frame.loadOfList, Frame.load]
  rw [hr]
  unfold receive
  split
  · simp
  · split
    · exact respond_lt _
    · split
      · exact respond_lt _
      · simp

/-- Each step of a run that does not rest takes something off its load. -/
theorem load_step (p : Program) (cancelled : Bool) (r : Run) (d : Desk)
    (h : r.rests cancelled d = false) : (r.step p cancelled d).run.load p < r.load p := by
  unfold step
  unfold rests at h
  split
  · exact load_next p cancelled ‹_›
  · exact load_perform p cancelled d _ _ _ ‹_›
  · rename_i prompt context storeAs onSuccess depth hf
    rw [hf] at h
    split
    · have hcancel : r.cancel = r.finish (.error .cancelled) := by simp [cancel, isAsking, hf]
      rw [hcancel, load_finish]
      simp only [load, hf, Focus.load]
      omega
    · split
      · simp_all
      · simp only [ask, load, hf, Focus.load, Frame.loadOfList, Frame.load]
        omega
  · rename_i storeAs hf
    rw [hf] at h
    split
    · have hcancel : r.cancel = r.finish (.error .cancelled) := by simp [cancel, isWaiting, hf]
      rw [hcancel, load_finish]
      simp only [load, hf, Focus.load]
      omega
    · split
      · unfold reply
        rw [hf]
        exact load_receive p storeAs _ _ hf
      · simp_all
  · simp_all

/-- A run and its desk when the run rests next. -/
def drive (p : Program) (cancelled : Bool) (r : Run) (d : Desk) : Run × Desk :=
  if r.rests cancelled d then (r, d)
  else
    let m := r.step p cancelled d
    drive p cancelled m.run m.desk
termination_by r.load p
decreasing_by exact load_step p cancelled r d (Bool.eq_false_iff.2 ‹_›)

/-- Driving a run does not add to its load. -/
theorem load_drive_le (p : Program) (cancelled : Bool) (r : Run) (d : Desk) :
    (r.drive p cancelled d).1.load p ≤ r.load p := by
  fun_induction drive p cancelled r d with
  | case1 => exact Nat.le_refl _
  | case2 r d h m ih =>
    exact Nat.le_trans ih (Nat.le_of_lt (load_step p cancelled r d (Bool.eq_false_iff.2 h)))

/-- Driving a run that does not rest takes something off its load. -/
theorem load_drive_lt (p : Program) (cancelled : Bool) {r : Run} {d : Desk}
    (h : r.rests cancelled d = false) : (r.drive p cancelled d).1.load p < r.load p := by
  rw [drive, if_neg (by simp [h])]
  exact Nat.lt_of_le_of_lt (load_drive_le ..) (load_step p cancelled r d h)

/-- A reply takes something off the load of a run that waits for it. -/
theorem load_reply (p : Program) {r : Run} (d : Desk) (h : r.isWaiting = true) :
    (r.reply d).run.load p < r.load p := by
  unfold reply
  split
  · exact load_receive p _ _ _ ‹_›
  · rename_i hf
    unfold isWaiting at h
    split at h
    · exact absurd ‹_› (hf _)
    · simp at h

end Run

end LivePanel
