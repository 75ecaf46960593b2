import LivePanel.Proofs.Build.Drawing
import LivePanel.Proofs.Template.Layout

/-!
# The components of an arena

An arena holds the components of a template behind their children, and a walk from its roots goes to
each before its children. Apart from the children, which are positions in the one and components in
the other, what the walk sees is what the tree lists (`walked_eq`), and what the arena holds is the
same in another order (`stored_perm`).
-/

namespace LivePanel.Template

/-- A component of the arena without its children. -/
def Slot.alone (s : Slot) : Component :=
  ⟨s.location, s.kind, s.condition, s.props, s.bindings, s.icons, []⟩

/-- A component without its children. -/
def alone (c : Component) : Component := { c with children := [] }

/-- The slot of a component, with the positions of its children. -/
def slotOf (c : Component) (children : List Nat) : Slot :=
  ⟨c.location, c.kind, c.condition, c.props, c.bindings, c.icons, children⟩

theorem placeAll_cons (next : Nat) (c : Component) (rest : List Component) :
    let below := placeAll next c.children
    let others := placeAll (next + (below.1.length + 1)) rest
    placeAll next (c :: rest) =
      (below.1 ++ slotOf c below.2 :: others.1, (next + below.1.length) :: others.2) := by
  obtain ⟨location, kind, condition, props, bindings, icons, children⟩ := c
  intro below others
  rw [placeAll, place]
  simp [below, others, slotOf]

theorem lt_of_mem_placeAll {cs : List Component} {next i : Nat} (h : i ∈ (placeAll next cs).2) :
    i < next + (placeAll next cs).1.length := by
  induction cs generalizing next with
  | nil => cases h
  | cons c rest ih =>
    rw [placeAll_cons] at h ⊢
    simp only [List.length_append, List.length_cons] at h ⊢
    rcases List.mem_cons.1 h with rfl | h
    · omega
    · have := ih h
      omega

/-- A walk through components that lie in an arena sees them in the order of the tree. -/
theorem walkFrom_placeAll (a : Arena) (cs : List Component) {before behind : List Slot} {fuel : Nat}
    (hslots : a.slots = before ++ ((placeAll before.length cs).1 ++ behind))
    (hfuel : ∀ i ∈ (placeAll before.length cs).2, i < fuel) :
    (((placeAll before.length cs).2.flatMap (a.walkFrom fuel)).filterMap (a.slots[·]?)).map
        Slot.alone =
      (Component.walkAll cs).map alone := by
  induction cs using Component.forest_induction generalizing before behind fuel with
  | nil => rw [placeAll, Component.walkAll]; rfl
  | cons c rest ihc ihr =>
    have hlt : ∀ i ∈ (placeAll before.length c.children).2,
        i < before.length + (placeAll before.length c.children).1.length :=
      fun _ => lt_of_mem_placeAll
    rw [placeAll_cons] at hslots hfuel ⊢
    generalize hbelow : placeAll before.length c.children = below at *
    generalize hothers : placeAll (before.length + (below.1.length + 1)) rest = others at *
    obtain ⟨hroot, hfuel⟩ := List.forall_mem_cons.1 hfuel
    have hself : a.slots[before.length + below.1.length]? = some (slotOf c below.2) := by
      rw [hslots]
      simp
    obtain ⟨fuel, rfl⟩ := Nat.exists_eq_add_one_of_ne_zero (Nat.ne_zero_of_lt hroot)
    have hchildren := @ihc before (slotOf c below.2 :: (others.1 ++ behind)) fuel
    rw [hbelow] at hchildren
    have hrest := @ihr (before ++ (below.1 ++ [slotOf c below.2])) behind (fuel + 1)
    rw [show (before ++ (below.1 ++ [slotOf c below.2])).length =
      before.length + (below.1.length + 1) by simp, hothers] at hrest
    rw [List.flatMap_cons, Arena.walkFrom_of_some hself, List.cons_append, List.filterMap_cons,
      hself, List.filterMap_append, List.map_cons, List.map_append,
      hrest (by simp [hslots]) hfuel, Component.walkAll, Component.walk_eq, List.cons_append,
      List.map_cons, List.map_append]
    refine congrArg (alone c :: · ++ _) (hchildren (by simp [hslots]) fun i hi => ?_)
    have := hlt i hi
    omega

/-- The components that a walk sees, each without its children. -/
def walked (t : Template) : List Component :=
  (t.arena.walk.filterMap (t.arena.slots[·]?)).map Slot.alone

/-- The components in the order in which the arena holds them, each without its children. -/
def stored (t : Template) : List Component := t.arena.slots.map Slot.alone

/-- **A walk through the arena sees the components in the order of the tree.** -/
theorem walked_eq (t : Template) : t.walked = t.walk.map alone := by
  have hslots : t.arena.slots = [] ++ ((placeAll 0 t.components).1 ++ []) := by simp [arena]
  have hlt : ∀ i ∈ (placeAll 0 t.components).2, i < t.arena.slots.length := fun i hi => by
    simpa [arena] using lt_of_mem_placeAll hi
  exact walkFrom_placeAll t.arena t.components hslots hlt

/-- The arena holds the components that a walk sees. -/
theorem stored_perm (t : Template) : t.stored.Perm t.walked := by
  have hperm (cs : List Component) (next : Nat) :
      ((placeAll next cs).1.map Slot.alone).Perm ((Component.walkAll cs).map alone) := by
    induction cs using Component.forest_induction generalizing next with
    | nil => rw [placeAll, Component.walkAll]; exact .nil
    | cons c rest ihc ihr =>
      rw [placeAll_cons, Component.walkAll, Component.walk_eq]
      simp only [List.map_append, List.map_cons, List.cons_append]
      exact List.perm_middle.trans (((ihc next).append (ihr _)).cons _)
  rw [walked_eq]
  exact hperm t.components 0

end LivePanel.Template
