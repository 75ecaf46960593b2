import LivePanel.Proofs.Template.Arranged

/-!
# Items of a document

The items of a document are what stands in its list of components, and in the lists of children
further down. An item can be used if it is a mapping or a text that is not blank. An item lies in
another at a location: the positions on the way to it, each item on the way being one that can be
used.

What an item is read as depends only on what it is and on how many levels may follow. The equations
for that stand here.

## What is proved

* `mem_walk_component`: the components read of an item are those read of the items in it.
* `Arranged.ascends`: a walk goes through locations in ascending order.
-/

namespace LivePanel

namespace Noted

variable {α : Type}

@[simp] theorem collect_nil : collect ([] : List (Noted (Option α))) = ⟨[], []⟩ := rfl

/-- What is read first comes before what is read of the rest, and so do its problems. -/
theorem collect_cons (x : Noted (Option α)) (xs : List (Noted (Option α))) :
    collect (x :: xs) =
      ⟨x.value.toList ++ (collect xs).value, x.problems ++ (collect xs).problems⟩ := by
  obtain ⟨_ | _, _⟩ := x <;> rfl

end Noted

namespace Yaml

theorem field?_map (m : Entries) (key : String) : (map m).field? key = m.get? key := by
  unfold field? untagged
  rfl

/-- The items of the list under a key. -/
def itemsUnder (v : Yaml) (key : String) : List Yaml :=
  match v.field? key with
  | some (.seq items) => items
  | _ => []

/-- An item that can be used: a mapping, or a text that is not blank. -/
def WellFormed : Yaml → Prop
  | .map _ => True
  | .str s => Text.allBlank s = false
  | _ => False

instance (v : Yaml) : Decidable v.WellFormed := by
  cases v <;> unfold WellFormed <;> infer_instance

/-- The item at a location inside another, where each item above it can be used. -/
def inside? (item : Yaml) : Location → Option Yaml
  | [] => some item
  | i :: rest =>
    if item.WellFormed then ((item.itemsUnder "children")[i]?).bind fun child => child.inside? rest
    else none

/-- The item at a location of a document. -/
def itemAt? (doc : Yaml) : Location → Option Yaml
  | [] => none
  | i :: rest => ((doc.itemsUnder "components")[i]?).bind fun item => item.inside? rest

/-- Only a mapping has items in it. -/
theorem inside?_cons {item inner : Yaml} {i : Nat} {rest : Location} :
    item.inside? (i :: rest) = some inner ↔
      ∃ m child, item = .map m ∧ (item.itemsUnder "children")[i]? = some child ∧
        child.inside? rest = some inner := by
  rw [inside?]
  cases item with
  | map m => simp [WellFormed, Option.bind_eq_some_iff]
  | str s => simp [itemsUnder, field?, untagged]
  | _ => simp [WellFormed]

end Yaml

namespace Template.FromYaml

open Yaml

/-! ### What an item is read as -/

/-- The items of a list, read in order. -/
def readItems (limit left : Nat) (above : Location) (items : List Yaml) (i : Nat) :
    Noted (List Component) :=
  Noted.collect ((items.zipIdx i).map fun (item, i) => component limit left (above ++ [i]) item)

section

variable (limit left : Nat) (location : Location)

@[simp] theorem readItems_nil (i : Nat) : readItems limit left location [] i = ⟨[], []⟩ := rfl

theorem readItems_cons (item : Yaml) (rest : List Yaml) (i : Nat) :
    readItems limit left location (item :: rest) i =
      ⟨(component limit left (location ++ [i]) item).value.toList ++
          (readItems limit left location rest (i + 1)).value,
        (component limit left (location ++ [i]) item).problems ++
          (readItems limit left location rest (i + 1)).problems⟩ :=
  Noted.collect_cons ..

/-- The items in a mapping are those that its children are read from. -/
theorem childItems_getD (m : Yaml.Entries) (path : String) :
    (childItems m path).value.getD [] = (Yaml.map m).itemsUnder "children" := by
  unfold childItems itemsUnder field? untagged
  dsimp only
  split <;> simp_all [Noted.clean, Noted.problem]

/-- Where no level is left an item is nested too deep, whatever it is. -/
theorem component_zero (item : Yaml) :
    component limit 0 location item =
      .problem (Location.text location)
        ("nesting exceeds the maximum depth of " ++ toString limit) none := rfl

/-- An item that cannot be used is noted, and nothing in it is read. -/
theorem component_of_not {item : Yaml} (h : ¬ item.WellFormed) :
    component limit (left + 1) location item =
      .problem (Location.text location) "component must be a mapping" none := by
  cases item with
  | map m => exact absurd trivial h
  | str s =>
    have hs : Text.allBlank s = true := by simpa [WellFormed] using h
    simp only [component, filled?, hs, if_true]
  | _ => rfl

/-- A text names a block, and has no problem. -/
theorem component_str {s : String} (h : (Yaml.str s).WellFormed) :
    component limit (left + 1) location (.str s) =
      .clean (some { location := location, kind := .leaf (Text.trim s) }) := by
  have hs : Text.allBlank s = false := h
  simp [component, filled?, hs]

/-- A mapping is read field by field, and its children last. -/
theorem component_map (m : Yaml.Entries) :
    component limit (left + 1) location (.map m) =
      let fields := componentFields m (Location.text location)
      let items := childItems m (Location.text location)
      let children := readItems limit left location ((Yaml.map m).itemsUnder "children") 0
      ⟨some {
          location := location
          kind := kindOf fields.value.block items.value.isSome
          condition := fields.value.condition
          props := fields.value.props
          bindings := fields.value.bindings
          icons := fields.value.icons
          children := children.value },
        fields.problems ++ items.problems ++ children.problems⟩ := by
  rw [← childItems_getD m (Location.text location)]
  simp [component, bind, Noted.andThen, pure, Noted.clean, readItems]

/-- An item is read as a component exactly if it can be used and is not nested too deep. -/
theorem isSome_component (item : Yaml) :
    (component limit left location item).value.isSome = true ↔ 0 < left ∧ item.WellFormed := by
  cases left with
  | zero => simp [component_zero, Noted.problem]
  | succ left =>
    by_cases h : item.WellFormed
    · cases item with
      | map m => simp [component_map, h]
      | str s => simp [component_str limit left location h, Noted.clean, h]
      | _ => exact h.elim
    · simp [component_of_not limit left location h, Noted.problem, h]

end

theorem componentsField_eq (depth : Nat) (doc : Yaml.Entries) :
    (componentsField depth doc).value =
      (readItems depth depth [] ((Yaml.map doc).itemsUnder "components") 0).value := by
  unfold componentsField itemsUnder field? untagged
  dsimp only
  split <;> simp_all [Noted.clean, Noted.problem, readItems]

end Template.FromYaml

/-! ### Walks -/

namespace Component

theorem walk_eq (c : Component) : c.walk = c :: walkAll c.children := by
  cases c
  rw [walk]

theorem mem_walkAll {c : Component} {cs : List Component} :
    c ∈ walkAll cs ↔ ∃ root ∈ cs, c ∈ root.walk := by
  induction cs with
  | nil => simp [walkAll]
  | cons root rest ih => simp [walkAll, ih]

end Component

namespace Template.FromYaml

open Yaml

theorem mem_readItems {limit left : Nat} {above : Location} {items : List Yaml} {c : Component} :
    c ∈ (readItems limit left above items 0).value ↔
      ∃ i item, items[i]? = some item ∧
        (component limit left (above ++ [i]) item).value = some c := by
  rw [readItems, value_collect, List.filterMap_map, List.mem_filterMap]
  constructor
  · rintro ⟨⟨item, i⟩, hmem, hc⟩
    exact ⟨i, item, List.mem_zipIdx_iff_getElem?.1 hmem, hc⟩
  · rintro ⟨i, item, hi, hc⟩
    exact ⟨(item, i), List.mem_zipIdx_iff_getElem?.2 hi, hc⟩

/-- **The components read of an item are those read of the items inside it**, down to the levels
that may follow. -/
theorem mem_walk_component {limit left : Nat} {location : Location} {item : Yaml} {c : Component} :
    (∃ root, (component limit left location item).value = some root ∧ c ∈ root.walk) ↔
      ∃ r inner, item.inside? r = some inner ∧
        (component limit (left - r.length) (location ++ r) inner).value = some c := by
  induction left generalizing location item with
  | zero => simp [component_zero, Noted.problem]
  | succ left ih =>
    constructor
    · rintro ⟨root, hroot, hc⟩
      rw [root.walk_eq, List.mem_cons] at hc
      rcases hc with rfl | hc
      · exact ⟨[], item, rfl, by simpa using hroot⟩
      · cases item with
        | map m =>
          rw [component_map] at hroot
          obtain rfl := Option.some.inj hroot
          obtain ⟨child, hchild, hc⟩ := Component.mem_walkAll.1 hc
          obtain ⟨i, next, hi, hchild⟩ := mem_readItems.1 hchild
          obtain ⟨r, inner, hinner, hc⟩ := ih.1 ⟨child, hchild, hc⟩
          refine ⟨i :: r, inner, inside?_cons.2 ⟨m, next, rfl, hi, hinner⟩, ?_⟩
          simpa using hc
        | str s =>
          obtain ⟨-, hs⟩ := (isSome_component ..).1 (Option.isSome_of_eq_some hroot)
          rw [component_str _ _ _ hs] at hroot
          obtain rfl := Option.some.inj hroot
          simp [Component.walkAll] at hc
        | _ => cases ((isSome_component ..).1 (Option.isSome_of_eq_some hroot)).2
    · rintro ⟨r, inner, hinner, hc⟩
      cases r with
      | nil =>
        obtain rfl := Option.some.inj hinner
        refine ⟨c, by simpa using hc, ?_⟩
        rw [c.walk_eq]
        exact List.mem_cons_self ..
      | cons i r =>
        obtain ⟨m, next, rfl, hi, hinner⟩ := inside?_cons.1 hinner
        have hc : (component limit (left - r.length) (location ++ [i] ++ r) inner).value =
            some c := by
          simpa using hc
        obtain ⟨child, hchild, hc⟩ := ih.2 ⟨r, inner, hinner, hc⟩
        refine ⟨_, congrArg Noted.value (component_map ..), ?_⟩
        rw [Component.walk_eq]
        exact List.mem_cons_of_mem _ (Component.mem_walkAll.2
          ⟨child, mem_readItems.2 ⟨i, next, hi, hchild⟩, hc⟩)

/-- **The components of a document are those read of its items.** -/
theorem mem_walk_componentsField {depth : Nat} {doc : Yaml.Entries} {c : Component} :
    c ∈ Component.walkAll (componentsField depth doc).value ↔
      ∃ location item, (Yaml.map doc).itemAt? location = some item ∧
        (component depth (depth + 1 - location.length) location item).value = some c := by
  rw [componentsField_eq, Component.mem_walkAll]
  constructor
  · rintro ⟨root, hroot, hc⟩
    obtain ⟨i, item, hi, hroot⟩ := mem_readItems.1 hroot
    obtain ⟨r, inner, hinner, hc⟩ := mem_walk_component.1 ⟨root, hroot, hc⟩
    refine ⟨i :: r, inner, Option.bind_eq_some_iff.2 ⟨item, hi, hinner⟩, ?_⟩
    simpa using hc
  · rintro ⟨location, inner, hinner, hc⟩
    cases location with
    | nil => cases hinner
    | cons i r =>
      obtain ⟨item, hi, hinner⟩ := Option.bind_eq_some_iff.1 hinner
      have hc : (component depth (depth - r.length) ([] ++ [i] ++ r) inner).value = some c := by
        simpa using hc
      obtain ⟨root, hroot, hc⟩ := mem_walk_component.2 ⟨r, inner, hinner, hc⟩
      exact ⟨root, mem_readItems.2 ⟨i, item, hi, hroot⟩, hc⟩

end Template.FromYaml

/-! ### Locations in a walk -/

/-- Locations in the order of the document: an item before those inside it, and before those that
follow it. -/
theorem Arranged.ascends {above : Location} {i : Nat} {cs : List Component}
    (h : Arranged above i cs) :
    (∀ c ∈ Component.walkAll cs, ∃ j r, i ≤ j ∧ c.location = above ++ j :: r) ∧
      (Component.walkAll cs).Pairwise fun a b => a.location < b.location := by
  induction h with
  | nil => exact ⟨by simp [Component.walkAll], by simp [Component.walkAll]⟩
  | @cons above i j c rest hij hl hb hc hr ihc ihr =>
    obtain ⟨hbelow, hasc⟩ := ihc
    obtain ⟨hrest, hascr⟩ := ihr
    have hfirst : ∀ d ∈ c.walk, ∃ r, d.location = above ++ j :: r := by
      intro d hd
      rw [c.walk_eq] at hd
      rcases List.mem_cons.1 hd with rfl | hd
      · exact ⟨[], hl⟩
      · obtain ⟨k, r, -, hd⟩ := hbelow d hd
        exact ⟨k :: r, by rw [hd, hl, List.append_assoc, List.singleton_append]⟩
    have hwalk : c.walk.Pairwise fun a b => a.location < b.location := by
      rw [c.walk_eq]
      refine List.pairwise_cons.2 ⟨fun d hd => ?_, hasc⟩
      obtain ⟨k, r, -, hd⟩ := hbelow d hd
      have : c.location ++ [] < c.location ++ k :: r := List.append_left_lt .nil
      rwa [List.append_nil, ← hd] at this
    rw [Component.walkAll]
    refine ⟨fun d hd => ?_, List.pairwise_append.2 ⟨hwalk, hascr, fun a ha b hb => ?_⟩⟩
    · rcases List.mem_append.1 hd with hd | hd
      · obtain ⟨r, hd⟩ := hfirst d hd
        exact ⟨j, r, hij, hd⟩
      · obtain ⟨k, r, hk, hd⟩ := hrest d hd
        exact ⟨k, r, by omega, hd⟩
    · obtain ⟨r, ha⟩ := hfirst a ha
      obtain ⟨k, r', hk, hb⟩ := hrest b hb
      rw [ha, hb]
      exact List.append_left_lt (List.Lex.rel hk)

end LivePanel
