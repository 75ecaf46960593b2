import LivePanel.Proofs.Run.Steps
import Mathlib.Logic.Function.Iterate

/-!
# Runs that are left alone, and runs that are cut short

A run is looked at on its own, with the store that it writes to and the effects that it has had so
far. Nobody else writes to the store, and the answers of the host are fixed: the bridge that the run
finds is a function of what it has done and where it stands. `Alone` is a move of such a run;
`Cut` is a move of it once its cancellation is there, or when it is let go.

## What is proved

* `iterate_of_alones`: a run that is left alone can only do one thing next, `ahead`; at what time it
  is driven and whether it has to wait for replies makes no difference.
* `Cut.still`: a run that is cut has no further effect.
* `cut_is_prefix`: the effects of a run that is cut at any moment are a prefix of those of the same
  run left alone, and the store is the first one with the writes among them; where a step fails,
  nothing of what would have followed happens.
-/

namespace LivePanel

/-- The store after several effects. -/
def State.Store.after (s : State.Store) (es : List Effect) : Except State.WriteError State.Store :=
  es.foldlM Effect.onStore s

/-- A run, the store that it alone writes to, and its effects so far. -/
structure Solo where
  run : Run
  store : State.Store
  effects : List Effect

/-- How the host answers: the bridge that a run finds. -/
abbrev Answers := Solo → Bridge

namespace Solo

/-- A run of an action, before its first step. -/
def start (name : String) (store : State.Store) : Solo := ⟨Run.start name, store, []⟩

/-- What a run works on, with so much of its stint left. -/
def desk (s : Solo) (answers : Answers) (left : Nat) : Desk := ⟨s.store, answers s, left⟩

/-- What a step or a reply makes of a run. -/
def move (s : Solo) (m : Run.Move) : Solo := ⟨m.run, m.desk.store, s.effects ++ m.effect.toList⟩

/-- A run that has ended. -/
def Over (s : Solo) : Prop := s.run.outcome?.isSome

variable (p : Program) (answers : Answers)

/-- A move of a run whose cancellation is not asked for. -/
inductive Alone (s : Solo) : Solo → Prop where
  | step (left : Nat) : Alone s (s.move (s.run.step p false (s.desk answers left)))
  | reply (left : Nat) : Alone s (s.move (s.run.reply (s.desk answers left)))

/-- A move of a run whose cancellation is asked for, or that is let go while it waits or pauses. -/
inductive Cut (s : Solo) : Solo → Prop where
  | step (left : Nat) : Cut s (s.move (s.run.step p true (s.desk answers left)))
  | letGo : Cut s { s with run := s.run.cancel }

/-- Any number of moves of a run that is left alone. -/
def Alones : Solo → Solo → Prop := Relation.ReflTransGen (Alone p answers)

/-- Any number of moves of a run that is cut. -/
def Cuts : Solo → Solo → Prop := Relation.ReflTransGen (Cut p answers)

/-- What a run that is left alone does next. -/
def ahead (s : Solo) : Solo :=
  if s.run.isWaiting then s.move (s.run.reply (s.desk answers Run.stint))
  else s.move (s.run.step p false (s.desk answers Run.stint))

variable {p answers}

/-! ### Left alone -/

theorem alone_ahead (s : Solo) : Alone p answers s (s.ahead p answers) := by
  unfold ahead
  split
  · exact .reply _
  · exact .step _

/-- Nothing that a run does shows how much of its stint is left. -/
theorem move_attempt (s : Solo) (r : Run) (e : Effect) (after : Run → Run) (left left' : Nat) :
    s.move (r.attempt (s.desk answers left) e after) =
      s.move (r.attempt (s.desk answers left') e after) := by
  unfold Run.attempt Effect.apply desk
  cases e with
  | write path value =>
    dsimp only
    generalize s.store.set path value = out
    cases out <;> rfl
  | send message payload =>
    dsimp only
    generalize (answers s).send message payload = out
    obtain ⟨out, bridge⟩ := out
    cases out <;> rfl
  | ask prompt context => rfl

theorem move_perform (s : Solo) (r : Run) (c : Bool) (action : Action) (response : Option Value)
    (depth left left' : Nat) :
    s.move (r.perform p c (s.desk answers left) response depth action) =
      s.move (r.perform p c (s.desk answers left') response depth action) := by
  unfold Run.perform
  cases action with
  | call name =>
    dsimp only
    split
    · rfl
    · split <;> rfl
  | sequence steps => rfl
  | branch branches =>
    dsimp only
    split
    · rfl
    · dsimp only [desk]
      split <;> rfl
  | setState path value =>
    dsimp only
    split
    · rfl
    · exact move_attempt ..
  | send message payload =>
    dsimp only
    split
    · rfl
    · exact move_attempt ..
  | request prompt context storeAs onSuccess =>
    dsimp only
    split <;> rfl

theorem move_receive (s : Solo) (r : Run) (storeAs : Option String)
    (reply : Except BridgeError Value) {d d' : Desk} (h : d.store = d'.store) :
    s.move (r.receive storeAs reply d) = s.move (r.receive storeAs reply d') := by
  obtain ⟨store, bridge, left⟩ := d
  obtain ⟨store', bridge', left'⟩ := d'
  obtain rfl : store = store' := h
  unfold Run.receive Effect.apply
  cases reply with
  | error e => rfl
  | ok v =>
    cases storeAs with
    | none => rfl
    | some path =>
      dsimp only
      generalize store.set path v = out
      cases out <;> rfl

theorem move_reply (s : Solo) (r : Run) {d d' : Desk} (hs : d.store = d'.store)
    (hb : d.bridge = d'.bridge) : s.move (r.reply d) = s.move (r.reply d') := by
  unfold Run.reply
  split
  · rw [hb]
    exact move_receive s r _ _ hs
  · exact congrArg (fun store => Solo.mk r store (s.effects ++ [])) hs

/-- Nothing happens to a run that stays where it is. -/
theorem move_still (s : Solo) (left : Nat) : s.move ⟨s.run, s.desk answers left, none⟩ = s := by
  simp [move, desk]

/-- A run that does not wait goes ahead by a step. -/
theorem ahead_of_not_waiting {s : Solo} (h : s.run.isWaiting = false) :
    s.ahead p answers = s.move (s.run.step p false (s.desk answers Run.stint)) :=
  if_neg (by simp [h])

/-- A run that waits goes ahead by a reply, and it makes no difference when this comes. -/
theorem ahead_of_waiting {s : Solo} (h : s.run.isWaiting = true) {d : Desk}
    (hs : d.store = s.store) (hb : d.bridge = answers s) :
    s.move (s.run.reply d) = s.ahead p answers := by
  unfold ahead
  rw [if_pos h]
  exact move_reply s s.run hs hb

/-- A run that is left alone goes ahead, or stays where it is. -/
theorem Alone.eq_or {s t : Solo} (h : Alone p answers s t) : t = s ∨ t = s.ahead p answers := by
  cases h with
  | step left =>
    unfold Run.step
    split
    · rename_i hf
      refine .inr ?_
      rw [ahead_of_not_waiting (by simp [Run.isWaiting, hf]), Run.step, hf]
      rfl
    · rename_i hf
      refine .inr ?_
      rw [ahead_of_not_waiting (by simp [Run.isWaiting, hf]), Run.step, hf]
      exact move_perform ..
    · rename_i hf
      rw [ahead_of_not_waiting (by simp [Run.isWaiting, hf]), Run.step, hf]
      simp only [Bool.false_eq_true, if_false]
      split
      · exact .inl (move_still s left)
      · exact .inr rfl
    · rename_i hf
      simp only [Bool.false_eq_true, if_false]
      split
      · exact .inr (ahead_of_waiting (by simp [Run.isWaiting, hf]) (Run.store_afterAnswer _)
          (Run.bridge_afterAnswer _))
      · exact .inl (move_still s left)
    · exact .inl (move_still s left)
  | reply left =>
    cases h : s.run.isWaiting with
    | true => exact .inr (ahead_of_waiting h rfl rfl)
    | false =>
      refine .inl ?_
      unfold Run.reply
      split
      · simp_all [Run.isWaiting]
      · exact move_still s left

/-- **A run that is left alone comes only to where it goes by going ahead.** -/
theorem iterate_of_alones {s t : Solo} (h : Alones p answers s t) :
    ∃ n, t = (ahead p answers)^[n] s := by
  induction h with
  | refl => exact ⟨0, rfl⟩
  | tail _ hmove ih =>
    obtain ⟨n, rfl⟩ := ih
    rcases hmove.eq_or with h | h
    · exact ⟨n, h⟩
    · exact ⟨n + 1, by rw [h, Function.iterate_succ_apply']⟩

theorem alones_iterate (s : Solo) (n : Nat) : Alones p answers s ((ahead p answers)^[n] s) := by
  induction n with
  | zero => exact .refl
  | succ n ih =>
    rw [Function.iterate_succ_apply']
    exact ih.tail (alone_ahead _)

/-- A run that has ended stays where it is. -/
theorem ahead_of_over {s : Solo} (h : s.Over) : s.ahead p answers = s := by
  obtain ⟨o, ho⟩ := Option.isSome_iff_exists.1 h
  have hf : s.run.focus = .finished o := Run.focus_of_outcome? ho
  rw [ahead_of_not_waiting (by simp [Run.isWaiting, hf]), Run.step, hf]
  exact move_still s _

/-- Going ahead takes something off the load of a run that has not ended. -/
theorem load_ahead {s : Solo} (h : ¬s.Over) :
    (s.ahead p answers).run.load p < s.run.load p := by
  unfold ahead
  split
  · exact Run.load_reply p _ ‹_›
  · refine Run.load_step p false _ _ ?_
    unfold Over Run.outcome? at h
    unfold Run.isWaiting at *
    unfold Run.rests
    split <;> simp_all [desk, Run.stint]

/-- **A run that is left alone comes to its end.** -/
theorem exists_over (p : Program) (answers : Answers) (s : Solo) :
    ∃ z, Alones p answers s z ∧ z.Over := by
  by_cases h : s.Over
  · exact ⟨s, .refl, h⟩
  · obtain ⟨z, hz, hover⟩ := exists_over p answers (s.ahead p answers)
    exact ⟨z, .head (alone_ahead s) hz, hover⟩
termination_by s.run.load p
decreasing_by exact load_ahead h

theorem eq_of_over {s t : Solo} (h : s.Over) (ht : Alones p answers s t) : t = s := by
  obtain ⟨n, rfl⟩ := iterate_of_alones ht
  exact Function.iterate_fixed (ahead_of_over h) n

/-- Whatever a run that is left alone comes to, it comes from there to where it ends. -/
theorem alones_over {s t z : Solo} (ht : Alones p answers s t) (hz : Alones p answers s z)
    (hover : z.Over) : Alones p answers t z := by
  obtain ⟨i, rfl⟩ := iterate_of_alones ht
  obtain ⟨j, rfl⟩ := iterate_of_alones hz
  rcases Nat.le_total i j with hij | hij
  · obtain ⟨k, rfl⟩ := Nat.exists_eq_add_of_le' hij
    rw [Function.iterate_add_apply]
    exact alones_iterate _ k
  · obtain ⟨k, rfl⟩ := Nat.exists_eq_add_of_le' hij
    rw [Function.iterate_add_apply, Function.iterate_fixed (ahead_of_over hover)]
    exact .refl

/-! ### Effects -/

theorem prefix_of_alones {s t : Solo} (h : Alones p answers s t) : s.effects <+: t.effects := by
  induction h with
  | refl => exact List.prefix_rfl
  | tail _ hmove ih =>
    refine ih.trans ?_
    cases hmove with
    | step left => exact List.prefix_append _ _
    | reply left => exact List.prefix_append _ _

/-- The store of a run is the given one with the writes among its effects. -/
def Accounts (store : State.Store) (s : Solo) : Prop := store.after s.effects = .ok s.store

theorem Accounts.move {store : State.Store} {s : Solo} (h : Accounts store s) {d : Desk}
    (hd : d.store = s.store) {m : Run.Move} (hm : Run.Comes p s.run d m) :
    Accounts store (s.move m) := by
  unfold Accounts at *
  cases hm with
  | goes _ hd' => simp [Solo.move, h, hd', hd]
  | acts _ _ he =>
    rw [hd] at he
    simp only [Solo.move, State.Store.after, Option.toList_some, List.foldlM_append,
      List.foldlM_cons, List.foldlM_nil, bind_pure] at h ⊢
    rw [h]
    exact he
  | ends _ _ => simp [Solo.move, h, hd]
  | fails _ _ hd' => simp [Solo.move, h, hd', hd]

theorem Accounts.alones {store : State.Store} {s t : Solo} (h : Accounts store s)
    (hst : Alones p answers s t) : Accounts store t := by
  induction hst with
  | refl => exact h
  | tail _ hmove ih =>
    cases hmove with
    | step left => exact ih.move rfl (Run.comes_step p _ _)
    | reply left => exact ih.move rfl (Run.comes_reply p _ _)

/-! ### Cut short -/

/-- **A run that is cut has no further effect.** -/
theorem Cut.still {s t : Solo} (h : Cut p answers s t) :
    t.effects = s.effects ∧ t.store = s.store := by
  cases h with
  | step left =>
    obtain ⟨r', hr'⟩ := Run.still_of_cancelled p s.run (s.desk answers left)
    rw [hr']
    exact ⟨List.append_nil _, rfl⟩
  | letGo => exact ⟨rfl, rfl⟩

theorem Cuts.still {s t : Solo} (h : Cuts p answers s t) :
    t.effects = s.effects ∧ t.store = s.store := by
  induction h with
  | refl => exact ⟨rfl, rfl⟩
  | tail _ hmove ih => exact ⟨hmove.still.1.trans ih.1, hmove.still.2.trans ih.2⟩

theorem Cut.over {s t : Solo} (h : Cut p answers s t) (hs : s.Over) : t.Over := by
  have hlooks : s.run.looks = false := by
    cases hl : s.run.looks with
    | false => rfl
    | true => simp [Over, Run.outcome?_of_looks hl] at hs
  cases h with
  | step left =>
    rw [Run.step_of_cancelled, if_neg (by simp [hlooks])]
    rcases (Alone.step (p := p) left).eq_or with h | h <;> rw [h]
    · exact hs
    · rwa [ahead_of_over hs]
  | letGo =>
    unfold Run.cancel
    split
    · rfl
    · exact hs

/-! ### Where a step fails -/

/-- The next step of a run fails. -/
def Fails (p : Program) (answers : Answers) (s : Solo) (e : RunError) : Prop :=
  Run.Fails p s.run s.store (answers s) e

/-- A run whose step fails ends there. -/
theorem ahead_of_fails {s : Solo} {e : RunError} (h : Fails p answers s e) :
    (s.ahead p answers).run.outcome? = some (.error e) ∧
      (s.ahead p answers).effects = s.effects ∧ (s.ahead p answers).store = s.store := by
  have hbreaks : ∃ m : Run.Move, s.ahead p answers = s.move m ∧
      m.Breaks (s.desk answers Run.stint) e := by
    unfold ahead
    split
    · exact ⟨_, rfl, Run.reply_of_fails h ‹_›⟩
    · exact ⟨_, rfl, Run.step_of_fails h (Bool.eq_false_iff.2 ‹_›)⟩
  obtain ⟨m, hm, hbreaks⟩ := hbreaks
  rw [hm]
  refine ⟨hbreaks.outcome, ?_, hbreaks.store⟩
  simp [move, hbreaks.effect]

/-- What a run comes to whose step fails. -/
def Broken (s t : Solo) : Prop := t = s ∨ t.Over ∧ t.effects = s.effects ∧ t.store = s.store

theorem Broken.alone {s t u : Solo} {e : RunError} (hs : Fails p answers s e) (h : Broken s t)
    (hmove : Alone p answers t u) : Broken s u := by
  rcases h with rfl | ⟨hover, heffects, hstore⟩
  · rcases hmove.eq_or with rfl | rfl
    · exact .inl rfl
    · obtain ⟨ho, heffects, hstore⟩ := ahead_of_fails hs
      exact .inr ⟨by simp [Over, ho], heffects, hstore⟩
  · rcases hmove.eq_or with rfl | rfl
    · exact .inr ⟨hover, heffects, hstore⟩
    · rw [ahead_of_over hover]
      exact .inr ⟨hover, heffects, hstore⟩

theorem Broken.cut {s t u : Solo} {e : RunError} (hs : Fails p answers s e) (h : Broken s t)
    (hmove : Cut p answers t u) : Broken s u := by
  rcases h with rfl | ⟨hover, heffects, hstore⟩
  · have hstill := hmove.still
    cases hmove with
    | step left =>
      refine .inr ⟨?_, hstill⟩
      unfold Over Solo.move
      rw [Run.step_of_cancelled]
      split
      · rfl
      · rename_i hl
        have hwait : t.run.isWaiting = false := by
          unfold Run.looks at hl
          unfold Run.isWaiting
          split <;> simp_all
        have hbreaks : (t.run.step p false (t.desk answers left)).Breaks (t.desk answers left) e :=
          Run.step_of_fails hs hwait
        simp [hbreaks.outcome]
    | letGo =>
      unfold Run.cancel at *
      split
      · exact .inr ⟨rfl, rfl, rfl⟩
      · exact .inl rfl
  · exact .inr ⟨hmove.over hover, hmove.still.1.trans heffects, hmove.still.2.trans hstore⟩

/-- **A run that is cut short does a part of what it would have done.** No effect begins once it is
cut, and the writes among its effects are those that have been made. Left alone, it would have come
to its end, with these effects first. Where a step fails, that is the end of it, whatever comes. -/
theorem cut_is_prefix {name : String} {store : State.Store} {s t : Solo}
    (hs : Alones p answers (start name store) s) (ht : Cuts p answers s t) :
    t.effects = s.effects ∧
    store.after t.effects = .ok t.store ∧
    (∃ z, Alones p answers (start name store) z ∧ z.Over) ∧
    (∀ z, Alones p answers (start name store) z → z.Over → t.effects <+: z.effects) ∧
    ∀ e, Fails p answers s e →
      (∀ z, Alones p answers s z → z.Over → z.run.outcome? = some (.error e)) ∧
      ∀ u, Relation.ReflTransGen (fun s t => Alone p answers s t ∨ Cut p answers s t) s u →
        u.effects = s.effects ∧ u.store = s.store := by
  obtain ⟨heffects, hstore⟩ := ht.still
  refine ⟨heffects, ?_, exists_over p answers _, ?_, ?_⟩
  · have hstart : Accounts store (start name store) := rfl
    rw [heffects, hstore]
    exact hstart.alones hs
  · intro z hz hover
    rw [heffects]
    exact prefix_of_alones (alones_over hs hz hover)
  · intro e he
    refine ⟨fun z hz hover => ?_, fun u hu => ?_⟩
    · have hahead := (ahead_of_fails he).1
      have hzs : Alones p answers z (s.ahead p answers) :=
        alones_over hz (.single (alone_ahead s)) (by simp [Over, hahead])
      rwa [eq_of_over hover hzs] at hahead
    · have hbroken : Broken s u := by
        induction hu with
        | refl => exact .inl rfl
        | tail _ hmove ih => exact hmove.elim (Broken.alone he ih) (Broken.cut he ih)
      rcases hbroken with rfl | ⟨-, h⟩
      · exact ⟨rfl, rfl⟩
      · exact h

/-- A message, a request, and another message once the host has answered. -/
def chat : Program where
  actions := [("go", .sequence
    [.send "before" .null, .request "well?" .null none [.send "after" .null]])]
  defaults := .obj []

/-- A host that takes everything. -/
def friendly : Answers := fun _ => .attached { panel := {}, replies := [.ok .null] }

/-- The run of `chat` that waits for the answer of the host. -/
def pending : Solo := (ahead chat friendly)^[8] (start "go" .empty)

theorem cut_is_prefix_pending :
    pending.run.isWaiting = true ∧
      ({ pending with run := pending.run.cancel } : Solo).effects.length = 2 ∧
      ∃ z, Alones chat friendly (start "go" .empty) z ∧ z.Over ∧ pending.effects <+: z.effects := by
  have hs : Alones chat friendly (start "go" .empty) pending := alones_iterate _ 8
  obtain ⟨heffects, -, ⟨z, hz, hover⟩, hprefix, -⟩ := cut_is_prefix hs (.single .letGo)
  have hpending := hprefix z hz hover
  rw [heffects] at hpending
  exact ⟨by rfl, by rfl, z, hz, hover, hpending⟩

end Solo

end LivePanel
