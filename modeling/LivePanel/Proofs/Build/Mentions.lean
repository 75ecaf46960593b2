import LivePanel.Proofs.Build.Sights
import LivePanel.Proofs.Run.Closed
import LivePanel.Proofs.Template.Walked

/-!
# The places that name actions

A template names actions in the bindings and icons of its components, in its events and in the steps
of its actions. Two collectors gather the names: a build checks the places one after the other, and
the set of the actions that are referenced is gathered from what the arena holds.

A `Place` tells where a name stands, and `Place.Before` in which order a build comes to the places.
`collectors_agree`: a build reports an unknown action exactly at the places whose name is not
defined, in that order; these names are those referenced and not defined; and the actions that it
reports as unused are those defined and not referenced.
-/

namespace LivePanel

theorem pairwise_zipIdx {α : Type} (xs : List α) (k : Nat) :
    (xs.zipIdx k).Pairwise fun a b => a.2 < b.2 := by
  rw [← List.pairwise_map, List.zipIdx_map_snd]
  exact List.pairwise_lt_range'

theorem Arranged.ordered_bindings {above : Location} {i : Nat} {cs : List Component}
    (h : Arranged above i cs) : ∀ c ∈ Component.walkAll cs, Table.Ordered c.bindings := by
  induction h with
  | nil =>
    rw [Component.walkAll]
    exact fun _ h => absurd h List.not_mem_nil
  | cons _ _ hb _ _ ihc ihr =>
    rw [Component.walkAll, Component.walk_eq]
    exact List.forall_mem_append.2 ⟨List.forall_mem_cons.2 ⟨hb, ihc⟩, ihr⟩

/-! ### The steps of an action -/

namespace Action

/-- The steps directly inside an action. -/
def parts : Action → List Action
  | branch branches => branches.map (·.2)
  | request _ _ _ onSuccess => onSuccess
  | sequence steps => steps
  | _ => []

/-- The step that is reached along positions. -/
def at? (a : Action) : List Nat → Option Action
  | [] => some a
  | i :: rest => a.parts[i]?.bind (·.at? rest)

theorem steps_eq (a : Action) : a.steps = a.parts.flatMap fun b => b :: b.steps := by
  rw [← stepsOfList_eq]
  cases a with
  | branch branches => exact stepsOfBranches_eq branches
  | _ => rfl

theorem sizeOf_lt_of_mem_parts {a b : Action} (h : b ∈ a.parts) : sizeOf b < sizeOf a := by
  cases a with
  | branch branches =>
    obtain ⟨e, he, rfl⟩ := List.mem_map.1 h
    have := List.sizeOf_lt_of_mem he
    cases e
    simp only [branch.sizeOf_spec, Prod.mk.sizeOf_spec] at this ⊢
    omega
  | request prompt context storeAs onSuccess =>
    have := List.sizeOf_lt_of_mem h
    simp only [request.sizeOf_spec, parts] at this ⊢
    omega
  | sequence steps =>
    have := List.sizeOf_lt_of_mem h
    simp only [sequence.sizeOf_spec, parts] at this ⊢
    omega
  | _ => cases h

/-- To prove something of all actions, prove it of one from the steps directly inside it. -/
@[elab_as_elim]
theorem parts_induction {motive : Action → Prop} (h : ∀ a, (∀ b ∈ a.parts, motive b) → motive a)
    (a : Action) : motive a :=
  h a fun b hb => have := sizeOf_lt_of_mem_parts hb; parts_induction h b
termination_by sizeOf a

/-- The steps inside an action at any depth with the positions on the way to them, each before the
steps inside it. -/
def spots (a : Action) : List (List Nat × Action) :=
  a.parts.zipIdx.attach.flatMap fun ⟨(b, i), h⟩ =>
    have := sizeOf_lt_of_mem_parts (List.fst_mem_of_mem_zipIdx h)
    ([i], b) :: b.spots.map fun x => (i :: x.1, x.2)
termination_by sizeOf a

theorem spots_eq (a : Action) : a.spots = a.parts.zipIdx.flatMap fun x =>
    ([x.2], x.1) :: x.1.spots.map fun y => (x.2 :: y.1, y.2) := by
  rw [spots]
  conv_rhs => rw [← List.attach_map_subtype_val a.parts.zipIdx, List.flatMap_map]

theorem map_snd_spots (a : Action) : a.spots.map Prod.snd = a.steps := by
  induction a using parts_induction with
  | h a ih =>
    rw [spots_eq, steps_eq, List.map_flatMap]
    conv_rhs => rw [← List.zipIdx_map_fst 0 a.parts, List.flatMap_map]
    refine List.flatMap_congr fun x hx => ?_
    rw [List.map_cons, List.map_map, ← ih x.1 (List.fst_mem_of_mem_zipIdx hx)]
    rfl

/-- The positions are those along which a step is reached. -/
theorem mem_spots {a b : Action} {p : List Nat} :
    (p, b) ∈ a.spots ↔ p ≠ [] ∧ a.at? p = some b := by
  induction p generalizing a with
  | nil =>
    rw [spots_eq]
    simp
  | cons i p ih =>
    rw [spots_eq]
    simp only [List.mem_flatMap, List.mem_cons, List.mem_map, Prod.exists, Prod.mk.injEq,
      List.cons.injEq, List.mem_zipIdx_iff_getElem?, at?, Option.bind_eq_some_iff]
    constructor
    · rintro ⟨c, j, hc, ⟨⟨rfl, rfl⟩, rfl⟩ | ⟨q, d, hd, ⟨rfl, rfl⟩, rfl⟩⟩
      · exact ⟨List.cons_ne_nil _ _, b, hc, rfl⟩
      · exact ⟨List.cons_ne_nil _ _, c, hc, (ih.1 hd).2⟩
    · rintro ⟨-, c, hc, hb⟩
      refine ⟨c, i, hc, ?_⟩
      cases p with
      | nil => exact .inl ⟨⟨rfl, rfl⟩, (Option.some.inj hb).symm⟩
      | cons j p => exact .inr ⟨j :: p, b, ih.2 ⟨List.cons_ne_nil _ _, hb⟩, ⟨rfl, rfl⟩, rfl⟩

/-- Each step comes before the steps inside it, and before those behind it. -/
theorem pairwise_spots (a : Action) : a.spots.Pairwise fun x y => x.1 < y.1 := by
  induction a using parts_induction with
  | h a ih =>
    rw [spots_eq, List.pairwise_flatMap]
    refine ⟨fun x hx => ?_, (pairwise_zipIdx _ 0).imp fun hij x hx y hy => ?_⟩
    · rw [List.pairwise_cons, List.pairwise_map]
      refine ⟨fun y hy => ?_, (ih x.1 (List.fst_mem_of_mem_zipIdx hx)).imp fun h =>
        List.cons_lt_cons_iff.2 (.inr ⟨rfl, h⟩)⟩
      obtain ⟨⟨q, b⟩, hq, rfl⟩ := List.mem_map.1 hy
      obtain ⟨j, q, rfl⟩ := List.exists_cons_of_ne_nil (mem_spots.1 hq).1
      exact List.cons_lt_cons_iff.2 (.inr ⟨rfl, List.nil_lt_cons ..⟩)
    · have hhead {z : List Nat × Action} {b : Action × Nat}
          (hz : z ∈ ([b.2], b.1) :: b.1.spots.map fun y => (b.2 :: y.1, y.2)) :
          ∃ q, z.1 = b.2 :: q := by
        rcases List.mem_cons.1 hz with rfl | hz
        · exact ⟨[], rfl⟩
        · obtain ⟨y, -, rfl⟩ := List.mem_map.1 hz
          exact ⟨y.1, rfl⟩
      obtain ⟨p, hp⟩ := hhead hx
      obtain ⟨q, hq⟩ := hhead hy
      rw [hp, hq]
      exact List.cons_lt_cons_iff.2 (.inl hij)

end Action

/-! ### The names of actions -/

namespace Template

/-- The names of actions in the order in which the arena, the events and the actions hold them. -/
def storedNames (t : Template) : List String :=
  t.stored.flatMap componentActions ++ t.events.map (·.action) ++
    t.actions.flatMap fun e => e.2.calls

theorem ordered_gathered (names : List String) {seen : Table Unit} (h : seen.Ordered) :
    (names.foldl (fun seen a => Table.put seen a ()) seen).Ordered := by
  induction names generalizing seen with
  | nil => exact h
  | cons a rest ih => exact ih (Table.ordered_put h a ())

theorem has_gathered (names : List String) (seen : Table Unit) (name : String) :
    (names.foldl (fun seen a => Table.put seen a ()) seen).has name = true ↔
      seen.has name = true ∨ name ∈ names := by
  induction names generalizing seen with
  | nil => simp
  | cons a rest ih =>
    rw [List.foldl_cons, ih, Table.has, Table.get?_put, List.mem_cons, ← or_assoc]
    refine or_congr_left ?_
    by_cases ha : a = name
    · simp [ha]
    · simp [ha, Table.has, Ne.symm ha]

theorem mem_referencedActions {t : Template} {name : String} :
    name ∈ t.referencedActions ↔ name ∈ t.namedActions := by
  rw [referencedActions, ← Table.has_iff_mem_keys, has_gathered]
  simp [Table.has]

theorem pairwise_referencedActions (t : Template) : t.referencedActions.Pairwise (· < ·) :=
  List.pairwise_map.2 (ordered_gathered t.namedActions Table.ordered_nil)

theorem mem_storedNames {t : Template} {name : String} :
    name ∈ t.storedNames ↔ name ∈ t.namedActions := by
  have hwalk : t.walk.flatMap componentActions = t.walked.flatMap componentActions := by
    rw [walked_eq, List.flatMap_map]
    rfl
  rw [storedNames, namedActions, hwalk]
  simp only [List.mem_append, (t.stored_perm.flatMap_right componentActions).mem_iff]

end Template

namespace Build

/-! ### Places -/

/-- A place of a template where an action may be named: a binding or an icon of a component, an
event, or a step of an action. Components are told by their turn in a walk, icons and events by
their position, and steps by the positions on the way to them. -/
inductive Place where
  | binding (component : Nat) (event : String)
  | icon (component position : Nat)
  | event (position : Nat)
  | step (action : String) (positions : List Nat)
deriving DecidableEq

namespace Place

/-- What the place mentions in a template. -/
def mention? (t : Template) : Place → Option Mention
  | .binding i e =>
    t.walked[i]?.bind fun c => (Table.get? c.bindings e).map fun action =>
      ⟨action, Location.text c.location ++ ".on." ++ e⟩
  | .icon i j =>
    t.walked[i]?.bind fun c => c.icons[j]?.bind fun icon => icon.action.map fun action =>
      ⟨action, Location.text c.location ++ ".icons[" ++ toString j ++ "].action"⟩
  | .event i => t.events[i]?.map fun e => ⟨e.action, "events[" ++ toString i ++ "].action"⟩
  | .step name positions =>
    (Table.get? t.actions name).bind fun a => (a.at? positions).bind fun b =>
      b.called?.map fun action => ⟨action, "actions." ++ name⟩

/-- Which part of a template the place is in: the components, the events or the actions. -/
def part : Place → Nat
  | .binding .. => 0
  | .icon .. => 0
  | .event _ => 1
  | .step .. => 2

/-- The component of the place. -/
def component? : Place → Option Nat
  | .binding i _ => some i
  | .icon i _ => some i
  | _ => none

/-- A build comes to the one place before the other: components in the order of a walk, in each the
bindings by their events and behind them the icons; then the events; then the actions by name, and
in each a step before those inside it and those behind it. -/
inductive Before : Place → Place → Prop where
  | parts {p q : Place} (h : p.part < q.part) : Before p q
  | components {p q : Place} {i j : Nat} (hp : p.component? = some i) (hq : q.component? = some j)
      (h : i < j) : Before p q
  | bindings (i : Nat) {e f : String} (h : e < f) : Before (.binding i e) (.binding i f)
  | bindingIcon (i : Nat) (e : String) (j : Nat) : Before (.binding i e) (.icon i j)
  | icons (i : Nat) {j k : Nat} (h : j < k) : Before (.icon i j) (.icon i k)
  | events {i j : Nat} (h : i < j) : Before (.event i) (.event j)
  | actions {n m : String} (h : n < m) (p q : List Nat) : Before (.step n p) (.step m q)
  | steps (n : String) {p q : List Nat} (h : p < q) : Before (.step n p) (.step n q)

theorem Before.irrefl {p : Place} (h : Before p p) : False := by
  cases h with
  | parts h => exact Nat.lt_irrefl _ h
  | components hp hq h =>
    cases hp.symm.trans hq
    exact Nat.lt_irrefl _ h
  | bindings _ h => exact String.lt_irrefl _ h
  | icons _ h => exact Nat.lt_irrefl _ h
  | events h => exact Nat.lt_irrefl _ h
  | actions h => exact String.lt_irrefl _ h
  | steps _ h => exact List.lt_irrefl _ h

end Place

/-! ### Occurrences -/

/-- What a component mentions, and where: the component with turn `i` in a walk. -/
def componentOccurrences (i : Nat) (c : Component) : List (Place × Mention) :=
  c.bindings.map (fun b => (.binding i b.1, ⟨b.2, Location.text c.location ++ ".on." ++ b.1⟩)) ++
    c.icons.zipIdx.filterMap fun x => x.1.action.map fun action =>
      (.icon i x.2, ⟨action, Location.text c.location ++ ".icons[" ++ toString x.2 ++ "].action"⟩)

/-- What events mention, and where. -/
def eventOccurrences (events : List EventBinding) : List (Place × Mention) :=
  events.zipIdx.map fun x => (.event x.2, ⟨x.1.action, "events[" ++ toString x.2 ++ "].action"⟩)

/-- What an action mentions, and where. -/
def actionOccurrences (name : String) (a : Action) : List (Place × Mention) :=
  a.spots.filterMap fun x => x.2.called?.map fun action =>
    (.step name x.1, ⟨action, "actions." ++ name⟩)

/-- What a template mentions, and where. -/
def occurrences (t : Template) : List (Place × Mention) :=
  t.walked.zipIdx.flatMap (fun x => componentOccurrences x.2 x.1) ++
    (eventOccurrences t.events ++ t.actions.flatMap fun e => actionOccurrences e.1 e.2)

/-! ### The mentions of a build -/

theorem iconMentions_eq (path : String) (k : Nat) (icons : List Icon) :
    iconMentions path k icons = (icons.zipIdx k).filterMap fun x => x.1.action.map fun action =>
      ⟨action, path ++ ".icons[" ++ toString x.2 ++ "].action"⟩ := by
  induction icons generalizing k with
  | nil => rfl
  | cons icon rest ih =>
    rw [iconMentions, ih, List.zipIdx_cons, List.filterMap_cons]
    cases icon.action <;> rfl

theorem eventMentions_eq (k : Nat) (events : List EventBinding) :
    eventMentions k events = (events.zipIdx k).map fun x =>
      ⟨x.1.action, "events[" ++ toString x.2 ++ "].action"⟩ := by
  induction events generalizing k with
  | nil => rfl
  | cons e rest ih => rw [eventMentions, ih, List.zipIdx_cons, List.map_cons]

theorem map_snd_componentOccurrences (i : Nat) (c : Component) :
    (componentOccurrences i c).map Prod.snd = componentMentions c := by
  rw [componentOccurrences, componentMentions, iconMentions_eq, List.map_append, List.map_map,
    List.map_filterMap]
  simp only [Option.map_map]
  rfl

theorem map_snd_actionOccurrences (name : String) (a : Action) :
    (actionOccurrences name a).map Prod.snd = actionMentions name a := by
  rw [actionOccurrences, actionMentions, Action.calls, ← Action.map_snd_spots, List.filterMap_map,
    List.map_filterMap, List.map_filterMap]
  simp only [Option.map_map]
  rfl

/-- **A build checks what is mentioned, place by place.** -/
theorem map_snd_occurrences (t : Template) : (occurrences t).map Prod.snd = mentions t := by
  have hwalk : t.walk.flatMap componentMentions = t.walked.flatMap componentMentions := by
    rw [Template.walked_eq, List.flatMap_map]
    rfl
  rw [occurrences, mentions, hwalk, eventMentions_eq, List.append_assoc]
  simp only [List.map_append, List.map_flatMap, map_snd_componentOccurrences,
    map_snd_actionOccurrences, eventOccurrences, List.map_map]
  conv_rhs => rw [← List.zipIdx_map_fst 0 t.walked, List.flatMap_map]
  rfl

/-! ### The order of the places -/

/-- Occurrences in the order in which a build comes to their places. -/
def InOrder (xs : List (Place × Mention)) : Prop := xs.Pairwise fun x y => x.1.Before y.1

theorem component?_of_mem {i : Nat} {c : Component} {x : Place × Mention}
    (h : x ∈ componentOccurrences i c) : x.1.component? = some i := by
  rcases List.mem_append.1 h with h | h
  · obtain ⟨b, -, rfl⟩ := List.mem_map.1 h
    rfl
  · obtain ⟨y, -, hy⟩ := List.mem_filterMap.1 h
    obtain ⟨action, -, rfl⟩ := Option.map_eq_some_iff.1 hy
    rfl

theorem part_of_component? {p : Place} {i : Nat} (h : p.component? = some i) : p.part = 0 := by
  cases p with
  | binding | icon => rfl
  | event | step => cases h

theorem part_of_mem_events {events : List EventBinding} {x : Place × Mention}
    (h : x ∈ eventOccurrences events) : x.1.part = 1 := by
  obtain ⟨e, -, rfl⟩ := List.mem_map.1 h
  rfl

theorem step_of_mem {name : String} {a : Action} {x : Place × Mention}
    (h : x ∈ actionOccurrences name a) : ∃ p, x.1 = .step name p := by
  obtain ⟨y, -, hy⟩ := List.mem_filterMap.1 h
  obtain ⟨action, -, rfl⟩ := Option.map_eq_some_iff.1 hy
  exact ⟨y.1, rfl⟩

theorem inOrder_component (i : Nat) {c : Component} (h : Table.Ordered c.bindings) :
    InOrder (componentOccurrences i c) := by
  refine List.pairwise_append.2 ⟨?_, ?_, ?_⟩
  · exact List.pairwise_map.2 (h.imp (.bindings i))
  · refine List.pairwise_filterMap.2 ((pairwise_zipIdx c.icons 0).imp ?_)
    intro x y hxy b hb b' hb'
    obtain ⟨-, -, rfl⟩ := Option.map_eq_some_iff.1 hb
    obtain ⟨-, -, rfl⟩ := Option.map_eq_some_iff.1 hb'
    exact .icons i hxy
  · intro x hx y hy
    obtain ⟨b, -, rfl⟩ := List.mem_map.1 hx
    obtain ⟨z, -, hz⟩ := List.mem_filterMap.1 hy
    obtain ⟨-, -, rfl⟩ := Option.map_eq_some_iff.1 hz
    exact .bindingIcon ..

theorem inOrder_events (events : List EventBinding) : InOrder (eventOccurrences events) :=
  List.pairwise_map.2 ((pairwise_zipIdx events 0).imp .events)

theorem inOrder_action (name : String) (a : Action) : InOrder (actionOccurrences name a) := by
  refine List.pairwise_filterMap.2 (a.pairwise_spots.imp ?_)
  intro x y hxy b hb b' hb'
  obtain ⟨-, -, rfl⟩ := Option.map_eq_some_iff.1 hb
  obtain ⟨-, -, rfl⟩ := Option.map_eq_some_iff.1 hb'
  exact .steps name hxy

/-- **What a template mentions is in the order of the places.** -/
theorem inOrder_occurrences {t : Template} (hb : ∀ c ∈ t.walked, Table.Ordered c.bindings)
    (ha : Table.Ordered t.actions) : InOrder (occurrences t) := by
  have hcomponents : InOrder (t.walked.zipIdx.flatMap fun x => componentOccurrences x.2 x.1) := by
    refine List.pairwise_flatMap.2 ⟨fun x hx =>
      inOrder_component x.2 (hb x.1 (List.fst_mem_of_mem_zipIdx hx)), ?_⟩
    exact (pairwise_zipIdx t.walked 0).imp fun hij x hx y hy =>
      .components (component?_of_mem hx) (component?_of_mem hy) hij
  have hactions : InOrder (t.actions.flatMap fun e => actionOccurrences e.1 e.2) := by
    refine List.pairwise_flatMap.2 ⟨fun e _ => inOrder_action e.1 e.2, ha.imp ?_⟩
    intro e f hef x hx y hy
    obtain ⟨p, hp⟩ := step_of_mem hx
    obtain ⟨q, hq⟩ := step_of_mem hy
    rw [hp, hq]
    exact .actions hef p q
  have hpart {x : Place × Mention}
      (hx : x ∈ t.actions.flatMap fun e => actionOccurrences e.1 e.2) : x.1.part = 2 := by
    obtain ⟨e, -, hx⟩ := List.mem_flatMap.1 hx
    obtain ⟨p, hp⟩ := step_of_mem hx
    rw [hp]
    rfl
  refine List.pairwise_append.2 ⟨hcomponents, List.pairwise_append.2 ⟨inOrder_events t.events,
    hactions, fun x hx y hy => ?_⟩, fun x hx y hy => ?_⟩
  · exact .parts (by rw [part_of_mem_events hx, hpart hy]; decide)
  · obtain ⟨c, -, hx⟩ := List.mem_flatMap.1 hx
    have hx := part_of_component? (component?_of_mem hx)
    rcases List.mem_append.1 hy with hy | hy
    · exact .parts (by rw [hx, part_of_mem_events hy]; decide)
    · exact .parts (by rw [hx, hpart hy]; decide)

/-! ### All places that name an action -/

/-- **What a template mentions is what its places mention.** -/
theorem mem_occurrences {t : Template} (hb : ∀ c ∈ t.walked, Table.Ordered c.bindings)
    (ha : Table.Ordered t.actions) (hp : Action.InPlace t.actions) {p : Place} {m : Mention} :
    (p, m) ∈ occurrences t ↔ p.mention? t = some m := by
  simp only [occurrences, componentOccurrences, eventOccurrences, actionOccurrences,
    List.mem_append, List.mem_flatMap, List.mem_map, List.mem_filterMap, Prod.exists,
    List.mem_zipIdx_iff_getElem?, Option.map_eq_some_iff, Prod.mk.injEq]
  cases p with
  | binding i e =>
    simp only [Place.binding.injEq, ↓existsAndEq, and_true, reduceCtorEq, false_and, and_false,
      exists_const, or_false, true_and, exists_and_left, or_self, Place.mention?,
      Option.bind_eq_some_iff, Option.map_eq_some_iff]
    refine exists_congr fun c => and_congr_right fun hc => exists_congr fun action => ?_
    have hordered := hb c (List.mem_of_getElem? hc)
    exact and_congr_left fun _ => ⟨Table.get?_of_mem hordered, Table.mem_of_get?⟩
  | icon i j => simp [Place.mention?, Option.bind_eq_some_iff]
  | event i => simp [Place.mention?]
  | step name q =>
    simp only [reduceCtorEq, false_and, and_false, exists_const, or_self, Place.step.injEq,
      ↓existsAndEq, and_true, exists_and_left, true_and, false_or, Place.mention?,
      Option.bind_eq_some_iff, Option.map_eq_some_iff]
    constructor
    · rintro ⟨a, hmem, b, hspot, hcalled⟩
      exact ⟨a, Table.get?_of_mem ha hmem, b, (Action.mem_spots.1 hspot).2, hcalled⟩
    · rintro ⟨a, hget, b, hb, action, hcalled, rfl⟩
      have hmem := Table.mem_of_get? hget
      refine ⟨a, hmem, b, Action.mem_spots.2 ⟨?_, hb⟩, action, hcalled, rfl⟩
      rintro rfl
      cases hb
      rw [hp _ hmem] at hcalled
      cases hcalled

/-! ### What a build adds -/

variable {σ : Type}

/-- What a build comes across is no name of an action. -/
theorem filter_errors_see (ctx : Context σ) (d : Draft) (x : Sight) :
    (d.see ctx x).errors.filter Error.isUnknownAction = d.errors.filter Error.isUnknownAction := by
  have hfail {e : Error} (he : e.isUnknownAction = false) :
      (d.fail e).errors.filter Error.isUnknownAction = d.errors.filter Error.isUnknownAction := by
    rw [Draft.errors_fail, List.filter_append, List.filter_singleton, he]
    exact List.append_nil _
  cases x with
  | condition path text => rw [Draft.see, Draft.errors_shows]
  | block path id =>
    simp only [Draft.see]
    cases ctx.registry.resolve? id with
    | none => exact hfail rfl
    | some b => rw [Draft.errors_useBlock]
  | icon path id =>
    simp only [Draft.see]
    cases ctx.registry.resolve? id with
    | none => rfl
    | some b => rw [Draft.errors_useBlock]
  | text path value => rw [Draft.see, Draft.errors_note]
  | lack path block prop => exact hfail rfl
  | fault path block message => exact hfail rfl

theorem filter_warnings_warn {w : Warning} (hw : w.isUnusedAction = false) (d : Draft) :
    (d.warn w).warnings.filter Warning.isUnusedAction =
      d.warnings.filter Warning.isUnusedAction := by
  rw [Draft.warn, List.filter_append, List.filter_singleton, hw]
  exact List.append_nil _

theorem filter_warnings_useBlock (d : Draft) (block : String) (m : Metadata) :
    (d.useBlock block m).warnings.filter Warning.isUnusedAction =
      d.warnings.filter Warning.isUnusedAction := by
  unfold Draft.useBlock
  split
  · rfl
  · dsimp only
    split
    · rfl
    · exact filter_warnings_warn rfl _

theorem filter_warnings_note (d : Draft) (path : String) (notes : Expr.Notes) :
    (d.note path notes).warnings.filter Warning.isUnusedAction =
      d.warnings.filter Warning.isUnusedAction := by
  unfold Draft.note
  rw [Draft.foldl_keeps (fun d => d.warnings.filter Warning.isUnusedAction),
    Draft.foldl_keeps (fun d => d.warnings.filter Warning.isUnusedAction)]
  · intro d e
    unfold Draft.noteMissing
    split
    · rfl
    · exact filter_warnings_warn rfl _
  · intro d e
    unfold Draft.noteInvalid
    split
    · rfl
    · exact filter_warnings_warn rfl _

theorem filter_warnings_see (ctx : Context σ) (d : Draft) (x : Sight) :
    (d.see ctx x).warnings.filter Warning.isUnusedAction =
      d.warnings.filter Warning.isUnusedAction := by
  cases x with
  | condition path text =>
    simp only [Draft.see, Draft.shows]
    cases Expr.evaluate ctx.scope text with
    | ok b => rfl
    | error e => exact filter_warnings_warn rfl d
  | block path id =>
    simp only [Draft.see]
    cases ctx.registry.resolve? id with
    | none => rfl
    | some b => exact filter_warnings_useBlock ..
  | icon path id =>
    simp only [Draft.see]
    cases ctx.registry.resolve? id with
    | none => exact filter_warnings_warn rfl d
    | some b => exact filter_warnings_useBlock ..
  | text path value => exact filter_warnings_note ..
  | lack path block prop => rfl
  | fault path block message => rfl

section

variable (o : Options) (r : Registry σ) (t : Template) (host : Value)
  (problems : List SyntaxProblem) (s : σ)

/-- **The unknown actions that a build reports are those that it found in the first place.** -/
theorem filter_errors_template :
    (template o r t host problems s).1.errors.filter Error.isUnknownAction = unknownActions t := by
  have htold : (told ⟨r, scopeOf t host⟩ t s).errors.filter Error.isUnknownAction = [] :=
    Draft.foldl_keeps (fun d => d.errors.filter Error.isUnknownAction)
      (filter_errors_see ⟨r, scopeOf t host⟩) _ _
  have hproblems : (problems.map Error.malformed).filter Error.isUnknownAction = [] :=
    List.filter_eq_nil_iff.2 (List.forall_mem_map.2 fun _ _ => Bool.false_ne_true)
  have hunknown : (unknownActions t).filter Error.isUnknownAction = unknownActions t :=
    List.filter_eq_self.2 (List.forall_mem_map.2 fun _ _ => rfl)
  rw [errors_template, openingDraft, List.filter_append, List.filter_append, htold, hproblems,
    hunknown, List.nil_append, List.append_nil]

/-- So it is with the actions that are reported as unused, if they are asked for. -/
theorem filter_warnings_template :
    (template o r t host problems s).1.warnings.filter Warning.isUnusedAction =
      if o.warnUnusedActions then unusedActions t else [] := by
  have htold : (told ⟨r, scopeOf t host⟩ t s).warnings.filter Warning.isUnusedAction = [] :=
    Draft.foldl_keeps (fun d => d.warnings.filter Warning.isUnusedAction)
      (filter_warnings_see ⟨r, scopeOf t host⟩) _ _
  have hunused : (unusedActions t).filter Warning.isUnusedAction = unusedActions t :=
    List.filter_eq_self.2 (List.forall_mem_map.2 fun _ _ => rfl)
  rw [warnings_template, openingDraft, List.filter_append, htold, List.append_nil]
  dsimp only
  split
  · exact hunused
  · rfl

end

/-! ### What is reported of actions -/

/-- The places whose name is not defined, in the order in which a build comes to them. -/
def unknownPlaces (t : Template) : List Place :=
  ((occurrences t).filter fun x => !Table.has t.actions x.2.action).map Prod.fst

section

variable {t : Template} (hb : ∀ c ∈ t.walked, Table.Ordered c.bindings)
  (ha : Table.Ordered t.actions)
include hb ha

theorem pairwise_unknownPlaces : (unknownPlaces t).Pairwise Place.Before :=
  List.pairwise_map.2 ((inOrder_occurrences hb ha).filter _)

variable (hp : Action.InPlace t.actions)
include hp

theorem mem_unknownPlaces {p : Place} : p ∈ unknownPlaces t ↔
    ∃ m, p.mention? t = some m ∧ t.actions.has m.action = false := by
  simp [unknownPlaces, mem_occurrences hb ha hp]

theorem unknownActions_eq : unknownActions t =
    ((unknownPlaces t).filterMap (Place.mention? t)).map fun m =>
      .unknownAction m.action m.path := by
  have hmention : ∀ x ∈ (occurrences t).filter fun x => !Table.has t.actions x.2.action,
      (Place.mention? t ∘ Prod.fst) x = (some ∘ Prod.snd) x :=
    fun _ hx => (mem_occurrences hb ha hp).1 (List.mem_of_mem_filter hx)
  rw [unknownActions, unknownPlaces, List.filterMap_map, List.filterMap_congr hmention,
    List.filterMap_eq_map, ← map_snd_occurrences, List.filter_map]
  rfl

end

theorem exists_unknownAction {t : Template} {name : String} :
    (∃ path, .unknownAction name path ∈ unknownActions t) ↔
      name ∈ t.referencedActions ∧ t.actions.has name = false := by
  rw [Template.mem_referencedActions, ← action_mentions, List.mem_map]
  constructor
  · rintro ⟨path, h⟩
    obtain ⟨m, hm, heq⟩ := List.mem_map.1 h
    obtain ⟨hm, hhas⟩ := List.mem_filter.1 hm
    cases heq
    exact ⟨⟨m, hm, rfl⟩, by simpa using hhas⟩
  · rintro ⟨⟨m, hm, rfl⟩, hhas⟩
    exact ⟨m.path, List.mem_map.2 ⟨m, List.mem_filter.2 ⟨hm, by simpa using hhas⟩, rfl⟩⟩

/-- **The two collectors agree.** There is an unknown action reported at each place whose name is
not defined, in the order of the places. The names so reported are those that are referenced and not
defined, and the actions reported as unused are those that are defined and not referenced. -/
theorem collectors_agree {source : String} {depth : Nat} {t : Template}
    (ht : (Template.parse source depth).template = some t) (o : Options) (r : Registry σ)
    (host : Value) (problems : List SyntaxProblem) (s : σ) :
    let a := (template o r t host problems s).1
    (∃ places : List Place, places.Pairwise Place.Before ∧ places.Nodup ∧
      (∀ p, p ∈ places ↔ ∃ m, p.mention? t = some m ∧ t.actions.has m.action = false) ∧
      a.errors.filter Error.isUnknownAction =
        (places.filterMap (Place.mention? t)).map fun m => .unknownAction m.action m.path) ∧
    (t.referencedActions.Pairwise (· < ·) ∧
      ∀ name, name ∈ t.referencedActions ↔ name ∈ t.storedNames) ∧
    (∀ name, (∃ path, .unknownAction name path ∈ a.errors) ↔
      name ∈ t.referencedActions ∧ t.actions.has name = false) ∧
    ∃ names : List String, names.Pairwise (· < ·) ∧
      (∀ name, name ∈ names ↔ t.actions.has name = true ∧ name ∉ t.referencedActions) ∧
      a.warnings.filter Warning.isUnusedAction =
        if o.warnUnusedActions then names.map .unusedAction else [] := by
  intro a
  have ha := Template.ordered_actions_parse ht
  have hp := Template.inPlace_parse ht
  have hb : ∀ c ∈ t.walked, Table.Ordered c.bindings := by
    rw [Template.walked_eq]
    exact List.forall_mem_map.2 (Template.arranged_parse ht).ordered_bindings
  have hbefore := pairwise_unknownPlaces hb ha
  refine ⟨⟨unknownPlaces t, hbefore, ?_, fun p => mem_unknownPlaces hb ha hp, ?_⟩,
    ⟨t.pairwise_referencedActions, fun name => ?_⟩, fun name => ?_,
    (Table.keys t.actions).filter (· ∉ t.referencedActions), ?_, fun name => ?_,
    filter_warnings_template o r t host problems s⟩
  · exact hbefore.imp fun h heq => (heq ▸ h).irrefl
  · rw [filter_errors_template, unknownActions_eq hb ha hp]
  · rw [Template.mem_referencedActions, Template.mem_storedNames]
  · have hreported (path : String) : .unknownAction name path ∈ a.errors ↔
        .unknownAction name path ∈ unknownActions t := by
      rw [← filter_errors_template o r t host problems s, List.mem_filter]
      exact (and_iff_left rfl).symm
    simp only [hreported, exists_unknownAction]
  · exact (List.pairwise_map.2 ha).filter _
  · rw [List.mem_filter, ← Table.has_iff_mem_keys, decide_eq_true_iff]

/-- A name that a step calls is defined, and another is not; one of the actions is named nowhere. -/
theorem collectors_agree_unknown_and_unused :
    let source := "name: a\nbootstrap: b\n" ++
      "components: [\x7bicons: [\x7bblock: b, action: x\x7d]\x7d]\n" ++
      "actions: \x7bc: \x7btype: sequence, steps: [d, y]\x7d, d: \x7btype: sequence\x7d\x7d"
    let r : Registry Unit := [("b", .element (.ofId "b"))]
    ∃ t, (Template.parse source).template = some t ∧
      let a := (template {} r t (.obj []) [] ()).1
      a.errors = [.unknownAction "x" "components[0].icons[0].action",
        .unknownAction "y" "actions.c"] ∧
      a.warnings = [.unusedAction "c"] ∧
      (∃ places : List Place, places.Pairwise Place.Before ∧
        a.errors.filter Error.isUnknownAction =
          (places.filterMap (Place.mention? t)).map fun m => .unknownAction m.action m.path) ∧
      ∀ name, (∃ path, .unknownAction name path ∈ a.errors) ↔
        name ∈ t.referencedActions ∧ t.actions.has name = false := by
  intro source r
  have hbuilt : ((Template.parse source).template.map fun t =>
      let a := (template {} r t (.obj []) [] ()).1
      (a.errors, a.warnings)) =
      some ([.unknownAction "x" "components[0].icons[0].action", .unknownAction "y" "actions.c"],
        [.unusedAction "c"]) := by
    decide +kernel
  obtain ⟨t, ht, hbuilt⟩ := Option.map_eq_some_iff.1 hbuilt
  obtain ⟨herrors, hwarnings⟩ := Prod.mk.inj hbuilt
  obtain ⟨⟨places, hbefore, -, -, hplaces⟩, -, hnames, -⟩ :=
    collectors_agree ht {} r (.obj []) [] ()
  exact ⟨t, ht, herrors, hwarnings, ⟨places, hbefore, hplaces⟩, hnames⟩

end Build

end LivePanel
