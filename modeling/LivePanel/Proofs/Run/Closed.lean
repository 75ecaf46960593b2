import LivePanel.Proofs.Build.Drawing
import LivePanel.Proofs.Run.Steps
import LivePanel.Proofs.Template.Arranged

/-!
# Checked actions are found

A build reports every name that some place of a template calls and the template does not define. It
finds these by a walk through the text of the actions; a run looks names up while it goes, in
branches that it happens to take and in replies that it happens to get. The two agree: where no
name is reported, no run ever fails to find one (`start_finds_actions`).

The invariant is that a run holds only actions whose calls are all defined (`Run.Closed`). Every turn
keeps it, because the steps of an action that is closed are closed.
-/

namespace LivePanel

/-! ### Closed actions -/

namespace Action

theorem stepsOfList_eq (as : List Action) : stepsOfList as = as.flatMap fun a => a :: a.steps := by
  induction as with
  | nil => rfl
  | cons a rest ih => rw [stepsOfList, ih, List.flatMap_cons, List.cons_append]

theorem stepsOfBranches_eq (bs : List (String × Action)) :
    stepsOfBranches bs = stepsOfList (bs.map (·.2)) := by
  induction bs with
  | nil => rfl
  | cons b rest ih => rw [stepsOfBranches, ih, List.map_cons, stepsOfList]

/-- Every name that the action calls, itself or inside, is defined. -/
def Closed (p : Program) (a : Action) : Prop :=
  ∀ step ∈ a :: a.steps, ∀ name, step.called? = some name → p.actions.has name = true

theorem closed_call {p : Program} {name : String} :
    (call name).Closed p ↔ p.actions.has name = true := by
  simp [Closed, steps, called?]

/-- An action is closed if the steps directly inside it are. -/
theorem closed_iff {p : Program} {a : Action} {inner : List Action} (ha : a.called? = none)
    (hs : a.steps = stepsOfList inner) : a.Closed p ↔ ∀ b ∈ inner, b.Closed p := by
  rw [stepsOfList_eq] at hs
  constructor
  · intro h b hb step hstep
    exact h step (List.mem_cons_of_mem _ (hs ▸ List.mem_flatMap.2 ⟨b, hb, hstep⟩))
  · intro h step hstep name hname
    rcases List.mem_cons.1 hstep with rfl | hstep
    · cases ha.symm.trans hname
    · obtain ⟨b, hb, hstep⟩ := List.mem_flatMap.1 (hs ▸ hstep)
      exact h b hb step hstep name hname

theorem closed_sequence {p : Program} {as : List Action} :
    (sequence as).Closed p ↔ ∀ a ∈ as, a.Closed p := closed_iff rfl rfl

theorem closed_request {p : Program} {prompt : String} {context : Value} {storeAs : Option String}
    {onSuccess : List Action} :
    (request prompt context storeAs onSuccess).Closed p ↔ ∀ a ∈ onSuccess, a.Closed p :=
  closed_iff rfl rfl

theorem closed_branch {p : Program} {bs : List (String × Action)} :
    (branch bs).Closed p ↔ ∀ b ∈ bs, b.2.Closed p :=
  (closed_iff (a := branch bs) rfl (stepsOfBranches_eq bs)).trans List.forall_mem_map

end Action

/-- Every action that a name stands for is closed. -/
def Program.Closed (p : Program) : Prop :=
  ∀ name a, p.actions.get? name = some a → a.Closed p

/-! ### Closed runs -/

/-- What the run is about to do calls only what is defined, and it has not ended for want of an
action. -/
def Focus.Closed (p : Program) : Focus → Prop
  | .next => True
  | .perform action _ _ => action.Closed p
  | .asking _ _ _ onSuccess _ => ∀ a ∈ onSuccess, a.Closed p
  | .waiting _ => True
  | .finished outcome => ∀ name, outcome ≠ .error (.unknownAction name)

/-- A run that holds only closed actions. -/
structure Run.Closed (p : Program) (r : Run) : Prop where
  focus : r.focus.Closed p
  frames : ∀ f ∈ r.frames, ∀ a ∈ f.steps, a.Closed p

namespace Run

theorem closed_start {p : Program} {name : String} (h : p.actions.has name = true) :
    (start name).Closed p := by
  refine ⟨trivial, fun f hf a ha => ?_⟩
  cases List.mem_singleton.1 hf
  cases List.mem_singleton.1 ha
  exact Action.closed_call.2 h

variable {p : Program} {r : Run}

theorem Closed.finish (h : r.Closed p) {outcome : Except RunError Unit}
    (ho : ∀ name, outcome ≠ .error (.unknownAction name)) : (r.finish outcome).Closed p :=
  ⟨ho, h.frames⟩

theorem Closed.goOn (h : r.Closed p) : r.goOn.Closed p := ⟨trivial, h.frames⟩

theorem Closed.cancel (h : r.Closed p) : r.cancel.Closed p := by
  unfold Run.cancel
  split
  · exact h.finish (by simp)
  · exact h

theorem Closed.begin (h : r.Closed p) (n : Nat) : { r with begun := n }.Closed p :=
  ⟨h.focus, h.frames⟩

/-- An effect is refused by the store or by the host. -/
theorem apply_ne_error (d : Desk) (e : Effect) {cause : RunError} (hs : ∀ x, cause ≠ .state x)
    (hb : ∀ x, cause ≠ .bridge x) : (e.apply d).1 ≠ .error cause := by
  unfold Effect.apply
  cases e with
  | write path value =>
    dsimp only
    split
    · nofun
    · exact fun h => hs _ (Except.error.inj h).symm
  | send message payload =>
    dsimp only
    split
    · nofun
    · exact fun h => hb _ (Except.error.inj h).symm
  | ask prompt context => nofun

/-- No effect fails for want of an action. -/
theorem apply_ne_unknown (d : Desk) (e : Effect) (name : String) :
    (e.apply d).1 ≠ .error (.unknownAction name) := apply_ne_error d e nofun nofun

theorem Closed.attempt (h : r.Closed p) (d : Desk) (e : Effect) :
    (r.attempt d e Run.goOn).run.Closed p := by
  have hne := apply_ne_unknown d e
  unfold Run.attempt
  split
  · exact (h.begin _).goOn
  · rename_i he
    rw [he] at hne
    exact (h.begin _).finish hne

theorem Closed.next (h : r.Closed p) (cancelled : Bool) : (r.next cancelled).Closed p := by
  have hframes := h.frames
  unfold Run.next
  split
  · exact h.finish (by simp)
  · rename_i hf
    rw [hf] at hframes
    exact ⟨h.focus, fun f hf => hframes f (List.mem_cons_of_mem _ hf)⟩
  · rename_i action rest response depth below hf
    rw [hf] at hframes
    have hsteps := hframes _ (List.mem_cons_self ..)
    split
    · exact h.finish (by simp)
    · refine ⟨hsteps action (List.mem_cons_self ..), fun f hf => ?_⟩
      rcases List.mem_cons.1 hf with rfl | hf
      · exact fun a ha => hsteps a (List.mem_cons_of_mem _ ha)
      · exact hframes f (List.mem_cons_of_mem _ hf)

theorem Closed.enter (h : r.Closed p) {steps : List Action} (hs : ∀ a ∈ steps, a.Closed p)
    (response : Option Value) (depth : Nat) : (r.enter steps response depth).Closed p := by
  refine ⟨h.focus, fun f hf => ?_⟩
  rcases List.mem_cons.1 hf with rfl | hf
  · exact hs
  · exact h.frames f hf

/-- What is performed is closed, and so is what it leads to. -/
theorem Closed.perform (hp : p.Closed) (h : r.Closed p) (cancelled : Bool) (d : Desk)
    (response : Option Value) (depth : Nat) {action : Action} (ha : action.Closed p) :
    (r.perform p cancelled d response depth action).run.Closed p := by
  unfold Run.perform
  cases action with
  | call name =>
    simp only
    split
    · exact h.finish (by simp)
    · have hdef := Action.closed_call.1 ha
      rw [Table.has] at hdef
      cases hget : p.actions.get? name with
      | none => exact absurd hdef (by simp [hget])
      | some a => exact ⟨hp name a hget, h.frames⟩
  | sequence steps => exact (h.enter (Action.closed_sequence.1 ha) response depth).goOn
  | branch branches =>
    simp only
    split
    · exact h.finish (by simp)
    · split
      · exact h.goOn
      · rename_i b hb
        exact ⟨Action.closed_branch.1 ha b (List.mem_of_find?_eq_some hb), h.frames⟩
  | setState path value =>
    simp only
    split
    · exact h.finish (by simp)
    · exact h.attempt ..
  | send message payload =>
    simp only
    split
    · exact h.finish (by simp)
    · exact h.attempt ..
  | request prompt context storeAs onSuccess =>
    simp only
    split
    · exact h.finish (by simp)
    · exact ⟨Action.closed_request.1 ha, h.frames⟩

theorem Closed.respond (h : r.Closed p) (response : Value) : (r.respond response).Closed p := by
  have hframes := h.frames
  unfold Run.respond
  split
  · exact h.goOn
  · rename_i f below hf
    rw [hf] at hframes
    refine ⟨trivial, fun g hg => ?_⟩
    rcases List.mem_cons.1 hg with rfl | hg
    · exact hframes f (List.mem_cons_self ..)
    · exact hframes g (List.mem_cons_of_mem _ hg)

theorem Closed.receive (h : r.Closed p) (storeAs : Option String)
    (reply : Except BridgeError Value) (d : Desk) : (r.receive storeAs reply d).run.Closed p := by
  unfold Run.receive
  split
  · exact h.finish (by simp)
  · rename_i v
    split
    · exact h.respond v
    · rename_i path
      have hne := apply_ne_unknown d (.write path v)
      split
      · exact h.respond v
      · rename_i he
        rw [he] at hne
        exact h.finish hne

theorem Closed.reply (h : r.Closed p) (d : Desk) : (r.reply d).run.Closed p := by
  unfold Run.reply
  split
  · exact h.receive ..
  · exact h

theorem Closed.step (hp : p.Closed) (h : r.Closed p) (cancelled : Bool) (d : Desk) :
    (r.step p cancelled d).run.Closed p := by
  have hfocus := h.focus
  unfold Run.step
  split
  · exact h.next cancelled
  · rename_i action response depth hf
    rw [hf] at hfocus
    exact h.perform hp cancelled d response depth hfocus
  · rename_i prompt context storeAs onSuccess depth hf
    rw [hf] at hfocus
    split
    · exact h.cancel
    · split
      · exact h
      · exact ⟨trivial, (h.enter hfocus none depth).frames⟩
  · split
    · exact h.cancel
    · split
      · exact h.reply _
      · exact h
  · exact h

/-- **Every turn keeps a run closed.** -/
theorem Closed.turn (hp : p.Closed) {r' : Run} (h : r.Closed p) (ht : Turn p r r') :
    r'.Closed p := by
  cases ht with
  | step => exact h.step hp ..
  | receive => exact h.receive ..
  | cancel => exact h.cancel

/-- **A run of closed actions never ends for want of an action.** -/
theorem outcome?_ne_unknown (hp : p.Closed) (h : r.Closed p) {r' : Run} (ht : Turns p r r')
    (name : String) : r'.outcome? ≠ some (.error (.unknownAction name)) := by
  have hfocus := (ht.keep (fun _ _ hr => hr.turn hp) h).focus
  unfold outcome?
  split
  · rename_i ho
    rw [ho] at hfocus
    exact fun heq => hfocus name (Option.some.inj heq)
  · simp

end Run

/-! ### Checked templates -/

namespace Build

theorem action_iconMentions (path : String) (i : Nat) (icons : List Icon) :
    (iconMentions path i icons).map (·.action) = icons.filterMap (·.action) := by
  induction icons generalizing i with
  | nil => rfl
  | cons icon rest ih =>
    rw [iconMentions, List.map_append, ih, List.filterMap_cons]
    cases icon.action <;> rfl

theorem action_eventMentions (i : Nat) (events : List EventBinding) :
    (eventMentions i events).map (·.action) = events.map (·.action) := by
  induction events generalizing i with
  | nil => rfl
  | cons e rest ih => rw [eventMentions, List.map_cons, ih, List.map_cons]

theorem action_componentMentions (c : Component) :
    (componentMentions c).map (·.action) = Template.componentActions c := by
  rw [componentMentions, List.map_append, action_iconMentions, List.map_map]
  rfl

/-- The places that name an action are those of all named actions, in order. -/
theorem action_mentions (t : Template) : (mentions t).map (·.action) = t.namedActions := by
  rw [mentions, List.map_append, List.map_append, action_eventMentions, List.map_flatMap,
    List.map_flatMap, Template.namedActions]
  simp only [action_componentMentions, actionMentions, List.map_map, Function.comp_def, List.map_id']

/-- A build that reports no unknown action has found every action that is named. -/
theorem has_of_named {σ : Type} {o : Options} {r : Registry σ} {t : Template} {host : Value}
    {problems : List SyntaxProblem} {s : σ}
    (h : ∀ action path, .unknownAction action path ∉ (template o r t host problems s).1.errors)
    {name : String} (hname : name ∈ t.namedActions) : t.actions.has name = true := by
  rw [← action_mentions] at hname
  obtain ⟨m, hm, rfl⟩ := List.mem_map.1 hname
  rw [← Bool.not_eq_false]
  intro hhas
  refine h m.action m.path ((builds_template o r t host problems s).prefix_errors.subset ?_)
  refine List.mem_append_right _ (List.mem_map.2 ⟨m, List.mem_filter.2 ⟨hm, ?_⟩, rfl⟩)
  simp [hhas]

end Build

namespace Template

/-- The actions that runs are started from: those defined, and those that components, their icons
and events name. -/
def startable (t : Template) : List String :=
  Table.keys t.actions ++ t.walk.flatMap componentActions ++ t.events.map (·.action)

variable {t : Template}

theorem has_of_startable (h : ∀ name ∈ t.namedActions, t.actions.has name = true) {name : String}
    (hname : name ∈ t.startable) : t.actions.has name = true := by
  rcases List.mem_append.1 hname with hname | hevents
  · rcases List.mem_append.1 hname with hkeys | hcomponents
    · obtain ⟨e, he, rfl⟩ := List.mem_map.1 hkeys
      exact Table.has_of_mem he
    · exact h name (List.mem_append_left _ (List.mem_append_left _ hcomponents))
  · exact h name (List.mem_append_left _ (List.mem_append_right _ hevents))

theorem closed_program (ht : Action.InPlace t.actions)
    (h : ∀ name ∈ t.namedActions, t.actions.has name = true) : t.program.Closed := by
  intro name a ha step hstep called hcalled
  have hmem := Table.mem_of_get? ha
  rcases List.mem_cons.1 hstep with rfl | hstep
  · cases (ht _ hmem).symm.trans hcalled
  · refine h called (List.mem_append_right _ (List.mem_flatMap.2 ⟨_, hmem, ?_⟩))
    exact List.mem_filterMap.2 ⟨step, hstep, hcalled⟩

end Template

/-- **A run that is started from a checked template finds every action that it comes upon.** Actions
that were read are in place (`Template.inPlace_parse`). -/
theorem Performance.start_finds_actions {σ : Type} {t : Template} (ht : Action.InPlace t.actions)
    {o : Build.Options} {registry : Registry σ} {host : Value} {problems : List SyntaxProblem} {s : σ}
    (hbuild : ∀ action path,
      .unknownAction action path ∉ (Build.template o registry t host problems s).1.errors)
    {name : String} (hname : name ∈ t.startable) (id : Nat) (key : String) (store : State.Store) :
    ∃ f, start id key name t.program store = .ok f ∧
      ∀ r, Run.Turns f.program f.run r →
        ∀ other, r.outcome? ≠ some (.error (.unknownAction other)) := by
  have hnamed := fun n (hn : n ∈ t.namedActions) => Build.has_of_named hbuild hn
  have hhas : t.program.actions.has name = true := Template.has_of_startable hnamed hname
  refine ⟨_, if_pos hhas, fun r hr other => ?_⟩
  exact Run.outcome?_ne_unknown (Template.closed_program ht hnamed) (Run.closed_start hhas) hr other

theorem Performance.start_finds_actions_go : ∃ t,
    (Template.parse "name: a\nbootstrap: b\nactions:\n  go: [next]\n  next: []\n").template =
      some t ∧
    (Build.template {} ([] : Registry Unit) t (.obj []) [] ()).1.errors =
      [.missingCapability "b" "bootstrap"] ∧
    ∃ f, start 0 "k" "go" t.program .empty = .ok f ∧
      ∀ r, Run.Turns f.program f.run r →
        ∀ other, r.outcome? ≠ some (.error (.unknownAction other)) := by
  have hread : ((Template.parse
      "name: a\nbootstrap: b\nactions:\n  go: [next]\n  next: []\n").template.map fun t =>
        ((Build.template {} ([] : Registry Unit) t (.obj []) [] ()).1.errors, t.startable)) =
      some ([.missingCapability "b" "bootstrap"], ["go", "next"]) := by
    decide +kernel
  obtain ⟨t, ht, hbuilt⟩ := Option.map_eq_some_iff.1 hread
  obtain ⟨herrors, hstartable⟩ := Prod.mk.inj hbuilt
  refine ⟨t, ht, herrors, ?_⟩
  exact start_finds_actions (Template.inPlace_parse ht) (fun action path => by rw [herrors]; simp)
    (by rw [hstartable]; simp) ..

end LivePanel
