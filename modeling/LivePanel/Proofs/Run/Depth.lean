import LivePanel.Proofs.Run.Evaluation
import Mathlib.Data.List.Chain

/-!
# How deep actions may call one another

`depth_limit_is_exact`: a run ends, and it is its evaluation cut off at the first call that lies
inside of `Run.maxDepth` named actions. From the action that was started to such a call there is a
path of calls through as many actions; what is written inside of an action does not lengthen it,
however deep (`Evaluation.Nested`).
-/

namespace LivePanel

open Run

/-! ### Who calls whom -/

/-- The action of a name calls another, itself or with a step inside of it. -/
def Program.Calls (p : Program) (outer inner : String) : Prop :=
  ∃ a, p.actions.get? outer = some a ∧ .call inner ∈ a :: a.steps

/-- The action of the innermost name with the steps inside of it; where there is no name, the call
with which an evaluation starts. -/
def Program.code (p : Program) (root : String) : List String → List Action
  | [] => [.call root]
  | name :: _ => (p.actions.get? name).toList.flatMap fun a => a :: a.steps

/-- The action and the steps inside of it belong to the action of the innermost name. -/
def Action.Inside (p : Program) (root : String) (names : List String) (a : Action) : Prop :=
  a :: a.steps ⊆ p.code root names

/-- What is pending under each name belongs to its action, and so does the call of the name above.
-/
def Pending.Nested (p : Program) (root : String) : List Pending → Prop
  | [] => True
  | .named name :: below => .call name ∈ p.code root (names below) ∧ Nested p root below
  | .steps rest _ :: below => (∀ a ∈ rest, a.Inside p root (names below)) ∧ Nested p root below

/-- What is ahead of the evaluation belongs to the actions that it is inside of. -/
structure Evaluation.Nested (p : Program) (root : String) (e : Evaluation) : Prop where
  pending : Pending.Nested p root e.pending
  reached : ∀ a response, e.point = .reached a response → a.Inside p root e.names
  asking : ∀ prompt context storeAs onSuccess, e.point = .asking prompt context storeAs onSuccess →
    ∀ a ∈ onSuccess, a.Inside p root e.names
  waiting : ∀ storeAs onSuccess, e.point = .waiting storeAs onSuccess →
    ∀ a ∈ onSuccess, a.Inside p root e.names

section

variable {p : Program} {root : String}

/-- The steps directly inside an action belong where it belongs. -/
theorem Action.Inside.inner {names : List String} {a : Action} (h : a.Inside p root names)
    {inner : List Action} (hs : a.steps = stepsOfList inner) {b : Action} (hb : b ∈ inner) :
    b.Inside p root names := by
  intro step hstep
  refine h (List.mem_cons_of_mem _ ?_)
  rw [hs, stepsOfList_eq]
  exact List.mem_flatMap.2 ⟨b, hb, hstep⟩

theorem Program.calls_of_mem_code {inner outer : String} {names : List String}
    (h : .call inner ∈ p.code root (outer :: names)) : p.Calls outer inner := by
  obtain ⟨a, ha, hmem⟩ := List.mem_flatMap.1 h
  exact ⟨a, Option.mem_toList.1 ha, hmem⟩

/-- Each of the names is called by the next one further out, and the outermost is the first one. -/
theorem Pending.Nested.chain {pending : List Pending} (h : Nested p root pending) {name : String}
    (hname : .call name ∈ p.code root (names pending)) :
    (name :: names pending).IsChain (fun inner outer => p.Calls outer inner) ∧
      (name :: names pending).getLast? = some root := by
  induction pending generalizing name with
  | nil =>
    obtain rfl : name = root := by simpa [names, Program.code] using hname
    exact ⟨.singleton _, rfl⟩
  | cons q below ih =>
    cases q with
    | named outer =>
      obtain ⟨hchain, hlast⟩ := ih h.2 h.1
      exact ⟨.cons_cons (p.calls_of_mem_code hname) hchain, hlast⟩
    | steps rest response => exact ih h.2 hname

namespace Evaluation.Nested

variable {e : Evaluation}

theorem back {pending : List Pending} (h : Pending.Nested p root pending) :
    Nested p root ⟨.back, pending⟩ := ⟨h, nofun, nofun, nofun⟩

theorem of_reached {pending : List Pending} (h : Pending.Nested p root pending) {a : Action}
    (ha : a.Inside p root (Pending.names pending)) (response : Option Value) :
    Nested p root ⟨.reached a response, pending⟩ := by
  refine ⟨h, fun _ _ hp => ?_, nofun, nofun⟩
  cases hp
  exact ha

theorem of_asking {pending : List Pending} (h : Pending.Nested p root pending)
    {onSuccess : List Action} (ha : ∀ a ∈ onSuccess, a.Inside p root (Pending.names pending))
    (prompt : String) (context : Value) (storeAs : Option String) :
    Nested p root ⟨.asking prompt context storeAs onSuccess, pending⟩ := by
  refine ⟨h, nofun, fun _ _ _ _ hp => ?_, nofun⟩
  cases hp
  exact ha

theorem of_waiting {pending : List Pending} (h : Pending.Nested p root pending)
    {onSuccess : List Action} (ha : ∀ a ∈ onSuccess, a.Inside p root (Pending.names pending))
    (storeAs : Option String) : Nested p root ⟨.waiting storeAs onSuccess, pending⟩ := by
  refine ⟨h, nofun, nofun, fun _ _ hp => ?_⟩
  cases hp
  exact ha

theorem finish (h : e.Nested p root) (o : Except RunError Unit) : (e.finish o).Nested p root :=
  ⟨h.pending, nofun, nofun, nofun⟩

theorem start (name : String) : (Evaluation.start name).Nested p name := by
  refine back ⟨fun a ha => ?_, trivial⟩
  cases List.mem_singleton.1 ha
  exact List.Subset.refl _

theorem next {pending : List Pending} (h : Pending.Nested p root pending) (cancelled : Bool) :
    (Evaluation.next cancelled pending).Nested p root := by
  fun_induction Evaluation.next cancelled pending with
  | case1 => exact (back h).finish _
  | case2 name below ih => exact ih h.2
  | case3 response below => exact back h.2
  | case4 action rest response below hc =>
    have hrest : Pending.Nested p root (.steps rest response :: below) :=
      ⟨(List.forall_mem_cons.1 h.1).2, h.2⟩
    exact (back hrest).finish _
  | case5 action rest response below hc =>
    have hrest : Pending.Nested p root (.steps rest response :: below) :=
      ⟨(List.forall_mem_cons.1 h.1).2, h.2⟩
    exact of_reached hrest (h.1 action (List.mem_cons_self ..)) response

theorem attempt (h : e.Nested p root) (d : Desk) (effect : Effect) :
    (e.attempt d effect).Nested p root := by
  unfold Evaluation.attempt
  split
  · exact back h.pending
  · exact h.finish _

theorem reach (h : e.Nested p root) {action : Action} {response : Option Value}
    (ha : action.Inside p root e.names) (cancelled : Bool) (d : Desk) :
    (e.reach p cancelled d response action).Nested p root := by
  unfold Evaluation.reach
  cases action with
  | call name =>
    dsimp only
    split
    · exact h.finish _
    · rename_i a hget
      have hcall : Pending.Nested p root (.named name :: e.pending) :=
        ⟨ha (List.mem_cons_self ..), h.pending⟩
      refine of_reached hcall (fun step hstep => ?_) response
      exact List.mem_flatMap.2 ⟨a, Option.mem_toList.2 hget, hstep⟩
  | sequence steps => exact back ⟨fun a => ha.inner rfl, h.pending⟩
  | branch branches =>
    dsimp only
    split
    · exact h.finish _
    · split
      · exact back h.pending
      · rename_i b hb
        have hmem : b.2 ∈ branches.map (·.2) := List.mem_map_of_mem (List.mem_of_find?_eq_some hb)
        exact of_reached h.pending (ha.inner (Action.stepsOfBranches_eq branches) hmem) response
  | setState path value =>
    dsimp only
    split
    · exact h.finish _
    · exact h.attempt d _
  | send message payload =>
    dsimp only
    split
    · exact h.finish _
    · exact h.attempt d _
  | request prompt context storeAs onSuccess =>
    dsimp only
    split
    · exact h.finish _
    · exact of_asking h.pending (fun a => ha.inner rfl) ..

theorem receive (h : e.Nested p root) {onSuccess : List Action}
    (ha : ∀ a ∈ onSuccess, a.Inside p root e.names) (storeAs : Option String)
    (reply : Except BridgeError Value) (store : State.Store) :
    (e.receive storeAs onSuccess reply store).Nested p root := by
  unfold Evaluation.receive
  dsimp only
  split
  · exact h.finish _
  · split
    · exact back ⟨ha, h.pending⟩
    · split
      · exact back ⟨ha, h.pending⟩
      · exact h.finish _

/-- **What is ahead belongs to the names around it, whatever happens.** -/
theorem take (h : e.Nested p root) (i : Input) : (e.take p i).Nested p root := by
  unfold Evaluation.take
  cases i with
  | turn cancelled d =>
    dsimp only
    split
    · exact h.reach (h.reached _ _ ‹_›) cancelled d
    · exact next h.pending cancelled
    · rename_i hp
      split
      · exact h.finish _
      · split
        · exact h
        · exact of_waiting h.pending (h.asking _ _ _ _ hp) _
    · rename_i hp
      split
      · exact h.finish _
      · split
        · exact h.receive (h.waiting _ _ hp) _ _ _
        · exact h
    · exact h
  | reply reply d =>
    dsimp only
    split
    · exact h.receive (h.waiting _ _ ‹_›) _ _ _
    · exact h
  | letGo =>
    dsimp only
    split
    · exact h.finish _
    · exact h.finish _
    · exact h

theorem course (name : String) (inputs : Nat → Input) (k : Nat) :
    ((Evaluation.start name).course p inputs k).Nested p name := by
  induction k with
  | zero => exact start name
  | succ k ih =>
    rw [course_succ]
    exact ih.take _

/-- What leads from the first name to a call that has been reached: names of which each calls the
next one. -/
theorem path (h : e.Nested p root) {name : String} {response : Option Value}
    (hp : e.point = .reached (.call name) response) :
    ∃ path : List String, path.length = e.names.length + 1 ∧ path.IsChain p.Calls ∧
      path.head? = some root ∧ path.getLast? = some name := by
  obtain ⟨hchain, hlast⟩ := h.pending.chain (h.reached _ _ hp (List.mem_cons_self ..))
  refine ⟨(name :: e.names).reverse, by simp, List.isChain_reverse.2 hchain, ?_, by simp⟩
  rw [List.head?_reverse]
  exact hlast

end Evaluation.Nested

end

/-! ### The limit -/

/-- The input at this place is the first turn that finds the evaluation at the limit. -/
structure Evaluation.Meets (p : Program) (e : Evaluation) (inputs : Nat → Input) (k : Nat)
    (name : String) : Prop where
  turn : (inputs k).isTurn = true
  limit : (e.course p inputs k).AtLimit name
  first : ∀ j < k, (inputs j).isTurn = true → ∀ other, ¬(e.course p inputs j).AtLimit other

section

variable {p : Program} {name : String} {inputs : Nat → Input} {k : Nat}

/-- As long as no turn has found the evaluation at the limit, the run tracks it. -/
theorem tracks_course
    (h : ∀ j < k, (inputs j).isTurn = true →
      ∀ n, ¬((Evaluation.start name).course p inputs j).AtLimit n) :
    Tracks ((Evaluation.start name).course p inputs k) ((Run.start name).course p inputs k) := by
  induction k with
  | zero => exact .start name
  | succ k ih =>
    rw [Evaluation.course_succ, Run.course_succ]
    exact (ih fun j hj => h j (Nat.lt_succ_of_lt hj)).take (h k (Nat.lt_succ_self k))

/-- Where there is no first turn at the limit there is none at all. -/
theorem Evaluation.not_atLimit {e : Evaluation} (h : ∀ j < k, ∀ n, ¬e.Meets p inputs j n) (j : Nat)
    (hj : j < k) (hturn : (inputs j).isTurn = true) (n : String) :
    ¬(e.course p inputs j).AtLimit n := by
  induction j using Nat.strongRecOn generalizing n with
  | ind j ih =>
    intro hlimit
    exact h j hj n ⟨hturn, hlimit, fun i hi hturn n => ih i hi (Nat.lt_trans hi hj) hturn n⟩

/-- After the first turn at the limit the run has ended. -/
theorem outcome?_of_meets {j : Nat} {n : String}
    (h : (Evaluation.start name).Meets p inputs j n) (hk : j < k) :
    ((Run.start name).course p inputs k).outcome? = some (.error (.tooDeep n)) := by
  have hend := (tracks_course h.first).take_of_atLimit (p := p) h.limit h.turn
  rw [← Run.course_succ] at hend
  obtain ⟨m, rfl⟩ := Nat.exists_eq_add_of_le hk
  rw [course_of_finished hend, Run.outcome?, hend]

end

/-- **A run ends, and it exceeds the nesting limit exactly where its evaluation meets it.** The limit
is exceeded where a turn finds the evaluation at it; up to there the run comes to what the
evaluation comes to; and nothing but a chain of calls leads to the limit. -/
theorem depth_limit_is_exact (p : Program) (name : String) (inputs : Nat → Input) :
    ((Run.start name).Served p inputs →
      ∃ k, ((Run.start name).course p inputs k).outcome?.isSome) ∧
    (∀ k n, ((Run.start name).course p inputs k).outcome? = some (.error (.tooDeep n)) ↔
      ∃ j < k, (Evaluation.start name).Meets p inputs j n) ∧
    (∀ k, (∀ j < k, ∀ n, ¬(Evaluation.start name).Meets p inputs j n) →
      ((Run.start name).course p inputs k).outcome? =
        ((Evaluation.start name).course p inputs k).outcome?) ∧
    ∀ j n, (Evaluation.start name).Meets p inputs j n →
      ∃ path : List String, path.length = maxDepth + 1 ∧ path.IsChain p.Calls ∧
        path.head? = some name ∧ path.getLast? = some n := by
  have agree : ∀ k, (∀ j < k, ∀ n, ¬(Evaluation.start name).Meets p inputs j n) →
      Tracks ((Evaluation.start name).course p inputs k) ((Run.start name).course p inputs k) :=
    fun k h => tracks_course (Evaluation.not_atLimit h)
  refine ⟨fun h => Run.exists_outcome_of_served h 0, fun k n => ⟨fun h => ?_, ?_⟩,
    fun k h => (agree k h).outcome?, fun j n h => ?_⟩
  · by_cases hmeets : ∃ j < k, ∃ m, (Evaluation.start name).Meets p inputs j m
    · obtain ⟨j, hj, m, hm⟩ := hmeets
      obtain rfl : m = n := by simpa [outcome?_of_meets hm hj] using h
      exact ⟨j, hj, hm⟩
    · push Not at hmeets
      have htracks := agree k hmeets
      rw [htracks.outcome?, Evaluation.outcome?] at h
      split at h
      · rename_i hp
        exact absurd (Option.some.inj h ▸ hp) (htracks.bounded n)
      · cases h
  · rintro ⟨j, hj, h⟩
    exact outcome?_of_meets h hj
  · obtain ⟨⟨response, hp⟩, hd⟩ := h.limit
    rw [← hd]
    exact (Evaluation.Nested.course name inputs j).path hp

/-- An action that calls itself. -/
def Program.endless : Program := ⟨[("again", .sequence [.call "again"])], .null⟩

/-- It is given nothing but turns, the limit stops it, and its name stands on the way over and
over. -/
theorem depth_limit_is_exact_endless :
    let turns (_ : Nat) : Input := .turn false ⟨.empty, .detached {}, Run.stint⟩
    (∃ k, ((Run.start "again").course .endless turns k).outcome?.isSome) ∧
      (∃ j, (Evaluation.start "again").Meets .endless turns j "again") := by
  intro turns
  obtain ⟨hends, hexact, -⟩ := depth_limit_is_exact .endless "again" turns
  have hserved : (Run.start "again").Served .endless turns := fun k _ =>
    ⟨k, Nat.le_refl k, Input.serves_turn _ false rfl (by decide)⟩
  have hdeep : ((Run.start "again").course .endless turns 50).outcome? =
      some (.error (.tooDeep "again")) := by
    decide +kernel
  obtain ⟨j, -, hj⟩ := (hexact 50 "again").1 hdeep
  exact ⟨hends hserved, j, hj⟩

end LivePanel
