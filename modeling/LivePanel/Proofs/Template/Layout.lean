import LivePanel.Proofs.Template.Items
import LivePanel.Template.Arena
import Mathlib.Data.List.Perm.Basic

/-!
# How an arena is laid out

Components are laid out as they are read, each behind its children. While a list of items is read,
the positions of the components that nobody has taken for a child yet are kept; the component that
the items belong to takes those that were laid while its own were read, and a document takes the
rest for its roots. An item that cannot be used lays nothing, so nothing is ever laid that is not
taken.

## What is proved

* `PostOrder.push`: laying one component keeps an arena in post-order, whichever of the last
  components that nobody has taken become its children.
* `postOrder_layComponent`: so does reading an item, with all that is in it.
* `lays_component`: reading an item so comes to the same as reading its tree and placing that.
* `arena_laid_out`: the arena of a template is in post-order, and its walk goes once to each
  component.
-/

namespace LivePanel.Template

namespace Arena

/-! ### Arenas in post-order -/

/-- The positions reached from one, itself last, over at most `fuel` levels. -/
def closeFrom (a : Arena) : Nat → Nat → List Nat
  | 0, _ => []
  | fuel + 1, i =>
    match a.slots[i]? with
    | none => []
    | some s => s.children.flatMap (a.closeFrom fuel) ++ [i]

/-- Children lie before their parents. -/
def ChildrenFirst (a : Arena) : Prop :=
  ∀ (i : Nat) (s : Slot), a.slots[i]? = some s → ∀ j ∈ s.children, j < i

/-- An arena is a forest in post-order. Each position is once a root or a child, children lie before
their parents, siblings and roots ascend, and closing the subtrees in order counts up. -/
structure PostOrder (a : Arena) : Prop where
  once : (a.roots ++ a.slots.flatMap (·.children)).Perm (List.range a.slots.length)
  below : a.ChildrenFirst
  roots : a.roots.Pairwise (· < ·)
  children : ∀ s ∈ a.slots, s.children.Pairwise (· < ·)
  closes : a.roots.flatMap (a.closeFrom a.slots.length) = List.range a.slots.length

theorem closeFrom_of_some {a : Arena} {i : Nat} {s : Slot} (h : a.slots[i]? = some s) (fuel : Nat) :
    a.closeFrom (fuel + 1) i = s.children.flatMap (a.closeFrom fuel) ++ [i] := by
  simp only [closeFrom, h]

theorem walkFrom_of_some {a : Arena} {i : Nat} {s : Slot} (h : a.slots[i]? = some s) (fuel : Nat) :
    a.walkFrom (fuel + 1) i = i :: s.children.flatMap (a.walkFrom fuel) := by
  simp only [walkFrom, h]

/-- Closing a subtree comes to the same positions as walking it. -/
theorem walkFrom_perm_closeFrom (a : Arena) (fuel i : Nat) :
    (a.walkFrom fuel i).Perm (a.closeFrom fuel i) := by
  induction fuel generalizing i with
  | zero => exact .nil
  | succ fuel ih =>
    cases hs : a.slots[i]? with
    | none => simp only [walkFrom, closeFrom, hs, List.Perm.refl]
    | some s =>
      rw [walkFrom_of_some hs, closeFrom_of_some hs]
      exact ((List.Perm.flatMap_left _ fun j _ => ih j).cons i).trans
        (List.perm_append_singleton i _).symm

/-- Where children lie before their parents, a level for each position up to one is enough. -/
theorem walkFrom_eq {a : Arena} (h : a.ChildrenFirst) {i fuel fuel' : Nat} (hi : i < fuel)
    (hi' : i < fuel') : a.walkFrom fuel i = a.walkFrom fuel' i := by
  induction fuel generalizing i fuel' with
  | zero => exact absurd hi (Nat.not_lt_zero i)
  | succ fuel ih =>
    obtain ⟨fuel', rfl⟩ := Nat.exists_eq_add_one_of_ne_zero (Nat.ne_zero_of_lt hi')
    cases hs : a.slots[i]? with
    | none => simp only [walkFrom, hs]
    | some s =>
      rw [walkFrom_of_some hs, walkFrom_of_some hs]
      refine congrArg (i :: ·) (List.flatMap_congr fun j hj => ?_)
      have := h i s hs j hj
      exact ih (by omega) (by omega)

/-- What is laid behind a position, and how many more levels there are, does not count for it. -/
theorem closeFrom_eq {a a' : Arena} (h : a.ChildrenFirst) {n : Nat}
    (heq : ∀ i < n, a'.slots[i]? = a.slots[i]?) {i fuel fuel' : Nat} (hn : i < n) (hi : i < fuel)
    (hi' : i < fuel') : a'.closeFrom fuel' i = a.closeFrom fuel i := by
  induction fuel generalizing i fuel' with
  | zero => exact absurd hi (Nat.not_lt_zero i)
  | succ fuel ih =>
    obtain ⟨fuel', rfl⟩ := Nat.exists_eq_add_one_of_ne_zero (Nat.ne_zero_of_lt hi')
    cases hs : a.slots[i]? with
    | none => simp only [closeFrom, heq i hn, hs]
    | some s =>
      rw [closeFrom_of_some hs, closeFrom_of_some ((heq i hn).trans hs)]
      refine congrArg (· ++ [i]) (List.flatMap_congr fun j hj => ?_)
      have := h i s hs j hj
      exact ih (by omega) (by omega) (by omega)

namespace PostOrder

theorem empty : PostOrder ⟨[], []⟩ where
  once := .nil
  below i s h := by simp at h
  roots := .nil
  children s h := by simp at h
  closes := rfl

/-- A component that nobody has taken has been laid. -/
theorem lt_of_mem {a : Arena} (h : PostOrder a) {i : Nat} (hi : i ∈ a.roots) :
    i < a.slots.length :=
  List.mem_range.1 (h.once.subset (List.mem_append_left _ hi))

/-- **A component laid behind the others keeps an arena in post-order**, when its children are the
last components that nobody has taken. -/
theorem push {laid : List Slot} {tops : List Nat} {s : Slot}
    (h : PostOrder ⟨laid, tops ++ s.children⟩) :
    PostOrder ⟨laid ++ [s], tops ++ [laid.length]⟩ := by
  have htops : ∀ i ∈ tops, i < laid.length := fun i hi => h.lt_of_mem (List.mem_append_left _ hi)
  have hchildren : ∀ i ∈ s.children, i < laid.length :=
    fun i hi => h.lt_of_mem (List.mem_append_right _ hi)
  have hnew : (laid ++ [s])[laid.length]? = some s := List.getElem?_concat_length
  have hold : ∀ i < laid.length, (laid ++ [s])[i]? = laid[i]? :=
    fun i hi => List.getElem?_append_left hi
  have hclose : ∀ i < laid.length, ∀ fuel, i < fuel →
      closeFrom ⟨laid ++ [s], tops ++ [laid.length]⟩ fuel i =
        closeFrom ⟨laid, tops ++ s.children⟩ laid.length i :=
    fun i hi fuel hf => closeFrom_eq h.below hold hi hi hf
  obtain ⟨hroots, hasc, -⟩ := List.pairwise_append.1 h.roots
  constructor
  case once =>
    refine List.perm_iff_count.2 fun i => ?_
    have := List.perm_iff_count.1 h.once i
    simp only [List.length_append, List.length_singleton, List.range_succ, List.flatMap_append,
      List.flatMap_singleton, List.count_append] at this ⊢
    omega
  case below =>
    intro i t ht j hj
    rcases Nat.lt_or_ge i laid.length with hi | hi
    · exact h.below i t ((hold i hi).symm.trans ht) j hj
    · obtain rfl : i = laid.length := by
        have := (List.getElem?_eq_some_iff.1 ht).1
        simp only [List.length_append, List.length_singleton] at this
        omega
      obtain rfl : s = t := Option.some.inj (hnew.symm.trans ht)
      exact hchildren j hj
  case roots =>
    exact List.pairwise_append.2 ⟨hroots, List.pairwise_singleton .., fun i hi j hj => by
      rw [List.mem_singleton.1 hj]
      exact htops i hi⟩
  case children =>
    intro t ht
    rcases List.mem_append.1 ht with ht | ht
    · exact h.children t ht
    · rw [List.mem_singleton.1 ht]
      exact hasc
  case closes =>
    -- what was laid before is closed as before, and the new component comes last
    have hn : (laid ++ [s]).length = laid.length + 1 := List.length_append
    have hcloses := h.closes
    simp only [List.flatMap_append] at hcloses
    simp only [hn, List.range_succ, List.flatMap_append, List.flatMap_singleton, ← hcloses,
      closeFrom_of_some (a := ⟨laid ++ [s], tops ++ [laid.length]⟩) hnew, List.append_assoc]
    congr 1
    · exact List.flatMap_congr fun i hi => hclose i (htops i hi) _ (Nat.lt_succ_of_lt (htops i hi))
    · exact congrArg (· ++ [laid.length]) (List.flatMap_congr fun i hi =>
        hclose i (hchildren i hi) _ (hchildren i hi))

variable {a : Arena} (h : PostOrder a)
include h

/-- **A walk goes once to each position.** -/
theorem walk_perm : a.walk.Perm (List.range a.slots.length) :=
  (List.Perm.flatMap_left _ fun i _ => walkFrom_perm_closeFrom a a.slots.length i).trans
    (.of_eq h.closes)

/-- A walk sees the components of the arena. -/
theorem filterMap_walk_perm : (a.walk.filterMap (a.slots[·]?)).Perm a.slots := by
  refine (h.walk_perm.filterMap _).trans (.of_eq ?_)
  have hget : (List.range a.slots.length).map (a.slots[·]?) = a.slots.map some :=
    List.ext_getElem (by simp) fun i _ _ => by simp
  calc (List.range a.slots.length).filterMap (a.slots[·]?)
      = ((List.range a.slots.length).map (a.slots[·]?)).filterMap id := by
        rw [List.filterMap_map]
        rfl
    _ = (a.slots.map some).filterMap id := by rw [hget]
    _ = a.slots := List.filterMap_map.trans List.filterMap_some

/-- No walk is cut short. -/
theorem walk_eq (more : Nat) :
    a.roots.flatMap (a.walkFrom (a.slots.length + more)) = a.walk :=
  List.flatMap_congr fun _ hi =>
    walkFrom_eq h.below (Nat.lt_add_right more (h.lt_of_mem hi)) (h.lt_of_mem hi)

end PostOrder

end Arena

namespace FromYaml

/-! ### Reading items onto an arena -/

/-- Read items in order, each onto what has been laid; the positions are those of the items that can
be used. -/
def layItems (lay : Yaml → Nat → List Slot → Noted (Option Nat × List Slot)) :
    List Yaml → Nat → List Slot → Noted (List Nat × List Slot)
  | [], _, laid => .clean ([], laid)
  | item :: rest, i, laid =>
    let first := lay item i laid
    let others := layItems lay rest (i + 1) first.value.2
    ⟨(first.value.1.toList ++ others.value.1, others.value.2), first.problems ++ others.problems⟩

/-- Read an item onto what has been laid: the items in it first, then itself. -/
def layComponent (limit : Nat) :
    Nat → Location → Yaml → List Slot → Noted (Option Nat × List Slot)
  | 0, location, _, laid =>
    .problem (Location.text location)
      ("nesting exceeds the maximum depth of " ++ toString limit) (none, laid)
  | left + 1, location, item, laid =>
    let path := Location.text location
    match item with
    | .map m =>
      let fields := componentFields m path
      let items := childItems m path
      let below := layItems (fun item i => layComponent limit left (location ++ [i]) item)
        (items.value.getD []) 0 laid
      ⟨(some below.value.2.length, below.value.2 ++ [{
          location := location
          kind := kindOf fields.value.block items.value.isSome
          condition := fields.value.condition
          props := fields.value.props
          bindings := fields.value.bindings
          icons := fields.value.icons
          children := below.value.1 }]),
        fields.problems ++ items.problems ++ below.problems⟩
    | .str s =>
      match filled? s with
      | some id =>
        .clean (some laid.length, laid ++ [{
          location := location
          kind := .leaf id
          condition := none
          props := []
          bindings := []
          icons := []
          children := [] }])
      | none => .problem path "component must be a mapping" (none, laid)
    | _ => .problem path "component must be a mapping" (none, laid)

/-- Read the components of a document onto an arena. -/
def layComponents (maxDepth : Nat) (doc : Yaml.Entries) : Noted Arena :=
  match doc.get? "components" with
  | none => .clean ⟨[], []⟩
  | some .null => .clean ⟨[], []⟩
  | some (.seq items) =>
    let below := layItems (fun item i => layComponent maxDepth maxDepth [i] item) items 0 []
    ⟨⟨below.value.2, below.value.1⟩, below.problems⟩
  | some _ => .problem "components" "must be a sequence of nodes" ⟨[], []⟩

/-! ### What reading an item keeps -/

/-- Items that are each laid in post-order are laid so together, and nobody has taken them. -/
theorem postOrder_layItems {lay : Yaml → Nat → List Slot → Noted (Option Nat × List Slot)}
    (hlay : ∀ item i laid tops, Arena.PostOrder ⟨laid, tops⟩ →
      Arena.PostOrder ⟨(lay item i laid).value.2, tops ++ (lay item i laid).value.1.toList⟩)
    (items : List Yaml) (i : Nat) {laid : List Slot} {tops : List Nat}
    (h : Arena.PostOrder ⟨laid, tops⟩) :
    Arena.PostOrder ⟨(layItems lay items i laid).value.2,
      tops ++ (layItems lay items i laid).value.1⟩ := by
  induction items generalizing i laid tops with
  | nil => simpa [layItems, Noted.clean] using h
  | cons item rest ih =>
    have := ih (i + 1) (hlay item i laid tops h)
    rw [List.append_assoc] at this
    exact this

/-- **Reading an item keeps an arena in post-order**, whatever it is and however deep it lies. -/
theorem postOrder_layComponent (limit left : Nat) (location : Location) (item : Yaml)
    {laid : List Slot} {tops : List Nat} (h : Arena.PostOrder ⟨laid, tops⟩) :
    Arena.PostOrder ⟨(layComponent limit left location item laid).value.2,
      tops ++ (layComponent limit left location item laid).value.1.toList⟩ := by
  have same : Arena.PostOrder ⟨laid, tops ++ (none : Option Nat).toList⟩ := by
    simpa using h
  induction left generalizing location item laid tops with
  | zero => exact same
  | succ left ih =>
    unfold layComponent
    split
    · exact .push (postOrder_layItems
        (fun item i laid tops h => ih (location ++ [i]) item h (by simpa using h)) _ 0 h)
    · split
      · exact .push same
      · exact same
    · exact same

theorem postOrder_layComponents (maxDepth : Nat) (doc : Yaml.Entries) :
    (layComponents maxDepth doc).value.PostOrder := by
  unfold layComponents
  split
  · exact .empty
  · exact .empty
  · exact postOrder_layItems (fun item i laid tops h =>
      postOrder_layComponent maxDepth maxDepth [i] item h) _ 0 .empty
  · exact .empty

/-! ### The same as placing the tree -/

/-- Components are laid with the given positions, and what is laid is what placing them gives. -/
structure Lays (laid : List Slot) (cs : List Component) (ids : List Nat) (laid' : List Slot) :
    Prop where
  positions : ids = (placeAll laid.length cs).2
  slots : laid' = laid ++ (placeAll laid.length cs).1

theorem Lays.nil (laid : List Slot) : Lays laid [] [] laid := ⟨rfl, (List.append_nil laid).symm⟩

theorem placeAll_append (next : Nat) (as bs : List Component) :
    placeAll next (as ++ bs) =
      ((placeAll next as).1 ++ (placeAll (next + (placeAll next as).1.length) bs).1,
        (placeAll next as).2 ++ (placeAll (next + (placeAll next as).1.length) bs).2) := by
  induction as generalizing next with
  | nil => simp [placeAll]
  | cons a as ih => simp [placeAll, ih, Nat.add_assoc]

theorem Lays.append {laid laid' laid'' : List Slot} {as bs : List Component} {ids ids' : List Nat}
    (h : Lays laid as ids laid') (h' : Lays laid' bs ids' laid'') :
    Lays laid (as ++ bs) (ids ++ ids') laid'' := by
  have hlen : laid'.length = laid.length + (placeAll laid.length as).1.length := by
    rw [h.slots, List.length_append]
  constructor
  · rw [placeAll_append, h.positions, h'.positions, hlen]
  · rw [placeAll_append, h'.slots, hlen, h.slots, List.append_assoc]

theorem Lays.push {laid laid' : List Slot} {c : Component} {ids : List Nat}
    (h : Lays laid c.children ids laid') :
    Lays laid [c] [laid'.length] (laid' ++
      [⟨c.location, c.kind, c.condition, c.props, c.bindings, c.icons, ids⟩]) := by
  obtain ⟨location, kind, condition, props, bindings, icons, children⟩ := c
  obtain ⟨rfl, rfl⟩ := h
  exact ⟨by simp [placeAll, place], by simp [placeAll, place]⟩

/-- Items that are each read onto an arena as their trees would be placed are read so together. -/
theorem lays_items {limit left : Nat} (location : Location)
    (h : ∀ (location : Location) (item : Yaml) (laid : List Slot),
      Lays laid (component limit left location item).value.toList
          (layComponent limit left location item laid).value.1.toList
          (layComponent limit left location item laid).value.2 ∧
        (layComponent limit left location item laid).problems =
          (component limit left location item).problems)
    (items : List Yaml) (i : Nat) (laid : List Slot) :
    let below :=
      layItems (fun item i => layComponent limit left (location ++ [i]) item) items i laid
    Lays laid (readItems limit left location items i).value below.value.1 below.value.2 ∧
      below.problems = (readItems limit left location items i).problems := by
  induction items generalizing i laid with
  | nil => exact ⟨.nil laid, rfl⟩
  | cons item rest ih =>
    obtain ⟨hfirst, hproblems⟩ := h (location ++ [i]) item laid
    obtain ⟨hrest, hproblems'⟩ :=
      ih (i + 1) (layComponent limit left (location ++ [i]) item laid).value.2
    rw [readItems_cons]
    exact ⟨hfirst.append hrest, congr (congrArg (· ++ ·) hproblems) hproblems'⟩

/-- **Reading an item onto an arena comes to the same as reading its tree and placing that.** -/
theorem lays_component (limit left : Nat) (location : Location) (item : Yaml) (laid : List Slot) :
    Lays laid (component limit left location item).value.toList
        (layComponent limit left location item laid).value.1.toList
        (layComponent limit left location item laid).value.2 ∧
      (layComponent limit left location item laid).problems =
        (component limit left location item).problems := by
  induction left generalizing location item laid with
  | zero => exact ⟨.nil laid, rfl⟩
  | succ left ih =>
    cases item with
    | map m =>
      obtain ⟨hbelow, hproblems⟩ := lays_items location ih
        ((Yaml.map m).itemsUnder "children") 0 laid
      rw [component_map]
      simp only [layComponent, childItems_getD]
      exact ⟨.push hbelow, congrArg (_ ++ ·) hproblems⟩
    | str s =>
      cases hs : filled? s with
      | some id =>
        simp only [layComponent, component, hs]
        exact ⟨.push (.nil laid), rfl⟩
      | none =>
        simp only [layComponent, component, hs]
        exact ⟨.nil laid, rfl⟩
    | _ => exact ⟨.nil laid, rfl⟩

/-- **The arena of a template is the one that grows while its components are read.** -/
theorem layComponents_eq {depth : Nat} {doc : Yaml.Entries} {t : Template}
    (ht : t.components = (componentsField depth doc).value) :
    (layComponents depth doc).value = t.arena ∧
      (layComponents depth doc).problems = (componentsField depth doc).problems := by
  rw [arena, ht]
  unfold layComponents componentsField
  cases doc.get? "components" with
  | none => exact ⟨rfl, rfl⟩
  | some v =>
    cases v with
    | seq items =>
      obtain ⟨⟨hids, hslots⟩, hproblems⟩ := lays_items [] (lays_component depth depth) items 0 []
      exact ⟨congr (congrArg Arena.mk hslots) hids, hproblems⟩
    | _ => exact ⟨rfl, rfl⟩

end FromYaml

open FromYaml

/-- **The arena of a template is a forest in post-order.** It is the one that grows while the
components of the document are read, with the same problems. Each position is once a root or a
child; a child lies before its parent; roots and siblings ascend. The walk goes once to each
position, is not cut short, and sees the components that the arena has. -/
theorem arena_laid_out {source : String} {depth : Nat} {t : Template}
    (h : (parse source depth).template = some t) :
    let a := t.arena
    (∃ doc, Yaml.read source = .ok (.map doc) ∧ (layComponents depth doc).value = a ∧
      (layComponents depth doc).problems = (componentsField depth doc).problems) ∧
    a.PostOrder ∧
    a.walk.Perm (List.range a.slots.length) ∧ a.walk.length = a.slots.length ∧
    (a.walk.filterMap (a.slots[·]?)).Perm a.slots ∧
    ∀ more, a.roots.flatMap (a.walkFrom (a.slots.length + more)) = a.walk := by
  intro a
  obtain ⟨doc, hread, -, hdoc⟩ := map_of_parse h
  obtain ⟨(ha : (layComponents depth doc).value = a), hproblems⟩ :=
    layComponents_eq (components_actions_document hdoc).1
  have hpost : a.PostOrder := ha ▸ postOrder_layComponents depth doc
  refine ⟨⟨doc, hread, ha, hproblems⟩, hpost, hpost.walk_perm, ?_, hpost.filterMap_walk_perm,
    hpost.walk_eq⟩
  simpa using hpost.walk_perm.length_eq

/-- Two items cannot be used, and one is nested too deep. -/
theorem arena_laid_out_with_gaps : ∃ t,
    (parse "name: a\nbootstrap: b\ncomponents: [{children: [c, 7, {children: [d]}]}, 7, e]"
      2).template = some t ∧
    t.arena.slots.map (·.children) = [[], [], [0, 1], []] ∧ t.arena.roots = [2, 3] ∧
    t.arena.PostOrder ∧ t.arena.walk.Perm (List.range 4) := by
  have hread :
      ((parse "name: a\nbootstrap: b\ncomponents: [{children: [c, 7, {children: [d]}]}, 7, e]"
        2).template.map fun t => (t.arena.slots.map (·.children), t.arena.roots)) =
      some ([[], [], [0, 1], []], [2, 3]) := by
    decide +kernel
  obtain ⟨t, ht, hlaid⟩ := Option.map_eq_some_iff.1 hread
  obtain ⟨hslots, hroots⟩ := Prod.mk.inj hlaid
  obtain ⟨-, hpost, hwalk, -⟩ := arena_laid_out ht
  have hlen : t.arena.slots.length = 4 := by
    simpa using congrArg List.length hslots
  exact ⟨t, ht, hslots, hroots, hpost, hlen ▸ hwalk⟩

end LivePanel.Template
