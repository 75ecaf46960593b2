import LivePanel.Proofs.Template.Kept
import LivePanel.Proofs.Template.Walked

/-!
# Paths of components

The path of a component is the text of its location, so it can be followed in the document: from the
list of components to an item, and from an item to one in its list of children. Where a component
came to lie in the arena does not count for its path, nor do siblings that have been left out.

## The model

* `Leads`: the item to which a path leads, step by step.
* `Slot.ReadFrom`: a component of the arena is what reading an item at its location gives.

## What is proved

* `leads_iff`: paths lead where the locations do, so a path leads to one item at most.
* `steps_placeAll`: the children of a component lie one step further than itself.
* `paths_followed`: the paths of the components of a template lead to the items that they were read
  from.
-/

namespace LivePanel

open Yaml

namespace Location

/-! ### Paths of items -/

/-- Different items have different paths. -/
theorem text_injective {a b : Location} (ha : a ≠ []) (hb : b ≠ []) (h : text a = text b) :
    a = b := by
  have hab : a <+: b := (text_prefix_text ha hb).1 (by rw [h])
  have hba : b <+: a := (text_prefix_text hb ha).1 (by rw [h])
  exact hab.eq_of_length (hab.length_le.antisymm hba.length_le)

/-- The path of an item of the document. -/
theorem text_singleton (i : Nat) : text [i] = Template.FromYaml.indexed "components" i := by
  simp [text, stepsText, Template.FromYaml.indexed]

/-- The path of an item in another. -/
theorem text_concat {a : Location} (ha : a ≠ []) (i : Nat) :
    text (a ++ [i]) = Template.FromYaml.indexed (text a ++ ".children") i := by
  refine String.toList_inj.1 ?_
  rw [toList_text_append ha, toList_stepsText_cons]
  simp [stepsText, Template.FromYaml.indexed]

end Location

namespace Yaml

/-! ### Steps to an item -/

/-- A place in a list under a key is one in the list that the key has. -/
theorem getElem?_itemsUnder {m : Entries} {key : String} {i : Nat} {item : Yaml} :
    ((map m).itemsUnder key)[i]? = some item ↔
      ∃ items, m.get? key = some (.seq items) ∧ items[i]? = some item := by
  rw [itemsUnder, field?_map]
  cases m.get? key with
  | none => simp
  | some v => cases v <;> simp

/-- One step further down. -/
theorem inside?_concat {item inner : Yaml} {r : Location} {i : Nat} :
    item.inside? (r ++ [i]) = some inner ↔
      ∃ m, item.inside? r = some (.map m) ∧
        ((map m).itemsUnder "children")[i]? = some inner := by
  induction r generalizing item with
  | nil =>
    rw [List.nil_append, inside?_cons]
    constructor
    · rintro ⟨m, child, rfl, hi, hinner⟩
      exact ⟨m, rfl, hi.trans hinner⟩
    · rintro ⟨m, hitem, hi⟩
      obtain rfl := Option.some.inj hitem
      exact ⟨m, inner, rfl, hi, rfl⟩
  | cons k r ih =>
    simp only [List.cons_append, inside?_cons, ih]
    constructor
    · rintro ⟨m, child, hitem, hk, m', hr, hi⟩
      exact ⟨m', ⟨m, child, hitem, hk, hr⟩, hi⟩
    · rintro ⟨m', ⟨m, child, hitem, hk, hr⟩, hi⟩
      exact ⟨m, child, hitem, hk, m', hr, hi⟩

theorem itemAt?_singleton {doc item : Yaml} {i : Nat} :
    doc.itemAt? [i] = some item ↔ (doc.itemsUnder "components")[i]? = some item := by
  simp [itemAt?, inside?]

theorem itemAt?_concat {doc inner : Yaml} {a : Location} (ha : a ≠ []) {i : Nat} :
    doc.itemAt? (a ++ [i]) = some inner ↔
      ∃ m, doc.itemAt? a = some (.map m) ∧ ((map m).itemsUnder "children")[i]? = some inner := by
  obtain ⟨k, r, rfl⟩ := List.exists_cons_of_ne_nil ha
  simp only [List.cons_append, itemAt?, Option.bind_eq_some_iff, inside?_concat]
  constructor
  · rintro ⟨first, hk, m, hr, hi⟩
    exact ⟨m, ⟨first, hk, hr⟩, hi⟩
  · rintro ⟨m, ⟨first, hk, hr⟩, hi⟩
    exact ⟨first, hk, m, hr, hi⟩

theorem ne_nil_of_itemAt? {doc item : Yaml} {a : Location} (h : doc.itemAt? a = some item) :
    a ≠ [] := by
  rintro rfl
  cases h

end Yaml

namespace Template

open FromYaml

/-! ### Following a path -/

/-- The items to which paths lead: those of the list of components, and from a mapping on those of
its list of children. -/
inductive Leads (doc : Entries) : String → Yaml → Prop where
  | top {items : List Yaml} {i : Nat} {item : Yaml} (hc : doc.get? "components" = some (.seq items))
      (hi : items[i]? = some item) : Leads doc (indexed "components" i) item
  | step {path : String} {m : Entries} {items : List Yaml} {i : Nat} {item : Yaml}
      (h : Leads doc path (.map m)) (hc : m.get? "children" = some (.seq items))
      (hi : items[i]? = some item) : Leads doc (indexed (path ++ ".children") i) item

/-- **A path leads where a location does**, if it is the location's text. -/
theorem leads_iff {doc : Entries} {path : String} {item : Yaml} :
    Leads doc path item ↔
      ∃ location, (Yaml.map doc).itemAt? location = some item ∧ path = Location.text location := by
  constructor
  · intro h
    induction h with
    | @top items i item hc hi =>
      exact ⟨[i], itemAt?_singleton.2 (getElem?_itemsUnder.2 ⟨items, hc, hi⟩),
        (Location.text_singleton i).symm⟩
    | @step path m items i item h hc hi ih =>
      obtain ⟨location, hm, rfl⟩ := ih
      have hne := ne_nil_of_itemAt? hm
      exact ⟨location ++ [i],
        (itemAt?_concat hne).2 ⟨m, hm, getElem?_itemsUnder.2 ⟨items, hc, hi⟩⟩,
        (Location.text_concat hne i).symm⟩
  · rintro ⟨location, hitem, rfl⟩
    induction location using List.reverseRecOn generalizing item with
    | nil => cases hitem
    | append_singleton location i ih =>
      rcases eq_or_ne location [] with rfl | hne
      · obtain ⟨items, hc, hi⟩ := getElem?_itemsUnder.1 (itemAt?_singleton.1 hitem)
        rw [List.nil_append, Location.text_singleton]
        exact .top hc hi
      · obtain ⟨m, hm, hi⟩ := (itemAt?_concat hne).1 hitem
        obtain ⟨items, hc, hi⟩ := getElem?_itemsUnder.1 hi
        rw [Location.text_concat hne]
        exact .step (ih hm) hc hi

/-- A path leads to one item at most. -/
theorem Leads.unique {doc : Entries} {path : String} {item other : Yaml} (h : Leads doc path item)
    (h' : Leads doc path other) : item = other := by
  obtain ⟨location, hitem, rfl⟩ := leads_iff.1 h
  obtain ⟨location', hother, htext⟩ := leads_iff.1 h'
  obtain rfl := Location.text_injective (ne_nil_of_itemAt? hitem) (ne_nil_of_itemAt? hother) htext
  exact Option.some.inj (hitem.symm.trans hother)

/-! ### Components of the arena -/

/-- The path of a component. -/
def Slot.path (s : Slot) : String := Location.text s.location

/-- A component is what reading an item at its location gives, where components may nest to a
depth. -/
def Slot.ReadFrom (depth : Nat) (s : Slot) (item : Yaml) : Prop :=
  ∃ c, (component depth (depth + 1 - s.location.length) s.location item).value = some c ∧
    s = slotOf c s.children

/-- Every component of the arena is one of the tree. -/
theorem exists_slotOf {t : Template} {s : Slot} (hs : s ∈ t.arena.slots) :
    ∃ c ∈ t.walk, s = slotOf c s.children := by
  have halone : s.alone ∈ t.walk.map alone := by
    rw [← walked_eq]
    exact t.stored_perm.subset (List.mem_map_of_mem hs)
  obtain ⟨c, hc, heq⟩ := List.mem_map.1 halone
  obtain ⟨location, kind, condition, props, bindings, icons, children⟩ := s
  simp only [Slot.alone, alone, Component.mk.injEq] at heq
  obtain ⟨rfl, rfl, rfl, rfl, rfl, rfl, -⟩ := heq
  exact ⟨c, hc, rfl⟩

/-- A position of the arena whose component lies one step under a location. -/
def Arena.StepsFrom (a : Arena) (above : Location) (i : Nat) : Prop :=
  ∃ s k, a.slots[i]? = some s ∧ s.location = above ++ [k]

/-- **Components lie one step under what they belong to**, at the positions that stand for them in
the arena. -/
theorem steps_placeAll (a : Arena) (cs : List Component) {above : Location} {i : Nat}
    {before behind : List Slot} (hcs : Arranged above i cs)
    (hslots : a.slots = before ++ ((placeAll before.length cs).1 ++ behind)) :
    (∀ j ∈ (placeAll before.length cs).2, a.StepsFrom above j) ∧
      ∀ s ∈ (placeAll before.length cs).1, ∀ j ∈ s.children, a.StepsFrom s.location j := by
  induction cs using Component.forest_induction generalizing above i before behind with
  | nil => simp [placeAll]
  | cons c rest ihc ihr =>
    obtain _ | ⟨-, hl, -, hchildren, hrest⟩ := hcs
    rw [placeAll_cons] at hslots ⊢
    generalize hbelow : placeAll before.length c.children = below at *
    generalize hothers : placeAll (before.length + (below.1.length + 1)) rest = others at *
    -- the component lies behind its children and before the others
    have hself : a.slots[before.length + below.1.length]? = some (slotOf c below.2) := by
      rw [hslots]
      simp
    have hlast := @ihc c.location 0 before (slotOf c below.2 :: (others.1 ++ behind)) hchildren
    rw [hbelow] at hlast
    obtain ⟨hown, hunder⟩ := hlast (by simp [hslots])
    have hnext := @ihr above _ (before ++ (below.1 ++ [slotOf c below.2])) behind hrest
    rw [show (before ++ (below.1 ++ [slotOf c below.2])).length =
      before.length + (below.1.length + 1) by simp, hothers] at hnext
    obtain ⟨hroots, hfurther⟩ := hnext (by simp [hslots])
    constructor
    · exact List.forall_mem_cons.2 ⟨⟨_, _, hself, hl⟩, hroots⟩
    · intro s hs
      rcases List.mem_append.1 hs with hs | hs
      · exact hunder s hs
      · rcases List.mem_cons.1 hs with rfl | hs
        · exact hown
        · exact hfurther s hs

/-- A walk sees the components in the order in which their items stand in the document. -/
theorem ascends_walk {depth : Nat} {doc : Entries} {t : Template}
    (ht : t.components = (componentsField depth doc).value) :
    (t.arena.walk.filterMap (t.arena.slots[·]?)).Pairwise fun s d => s.location < d.location := by
  have htree : t.walk.Pairwise fun c d => c.location < d.location := by
    rw [walk, ht]
    exact (arranged_componentsField depth doc).ascends.2
  have hwalked : t.walked.Pairwise fun c d => c.location < d.location := by
    rw [walked_eq]
    exact List.pairwise_map.2 htree
  rw [walked, List.pairwise_map] at hwalked
  exact hwalked

/-- **The paths of components can be followed in the document.** The path of every component leads
to one item, and the component is what was read from it; no two components have the same path. The
path of a root is one of the document's, and the path of a child is its parent's with one more step.
A walk goes through all components, in the lexicographic order of their locations. -/
theorem paths_followed {source : String} {depth : Nat} {t : Template}
    (h : (parse source depth).template = some t) :
    ∃ doc, Yaml.read source = .ok (.map doc) ∧
      (∀ s ∈ t.arena.slots,
        ∃ item, (∀ other, Leads doc s.path other ↔ other = item) ∧ s.ReadFrom depth item) ∧
      (t.arena.slots.map Slot.path).Nodup ∧
      (∀ i ∈ t.arena.roots,
        ∃ s k, t.arena.slots[i]? = some s ∧ s.location = [k] ∧ s.path = indexed "components" k) ∧
      (∀ s ∈ t.arena.slots, ∀ j ∈ s.children,
        ∃ d k, t.arena.slots[j]? = some d ∧ d.location = s.location ++ [k] ∧
          d.path = indexed (s.path ++ ".children") k) ∧
      t.arena.walk.Perm (List.range t.arena.slots.length) ∧
      (t.arena.walk.filterMap (t.arena.slots[·]?)).Pairwise fun s d => s.location < d.location := by
  obtain ⟨doc, hread, -, hdoc⟩ := map_of_parse h
  have ht := (components_actions_document hdoc).1
  have hfrom : ∀ s ∈ t.arena.slots, ∃ item,
      (Yaml.map doc).itemAt? s.location = some item ∧ s.ReadFrom depth item := by
    intro s hs
    obtain ⟨c, hc, heq⟩ := exists_slotOf hs
    rw [walk, ht] at hc
    obtain ⟨location, item, hitem, hc⟩ := mem_walk_componentsField.1 hc
    obtain rfl : s.location = location := by
      rw [heq, ← (settled_component hc).location]
      rfl
    exact ⟨item, hitem, c, hc, heq⟩
  have hne : ∀ s ∈ t.arena.slots, s.location ≠ [] := fun s hs =>
    let ⟨_, hitem, _⟩ := hfrom s hs
    ne_nil_of_itemAt? hitem
  have hslots : t.arena.slots = [] ++ ((placeAll 0 t.components).1 ++ []) := by simp [arena]
  obtain ⟨hroots, hchildren⟩ :=
    steps_placeAll t.arena t.components (ht ▸ arranged_componentsField depth doc) hslots
  have hlaid : t.arena = (layComponents depth doc).value := (layComponents_eq ht).1.symm
  refine ⟨doc, hread, ?leads, ?distinct, ?root, ?child, ?all, ascends_walk ht⟩
  case leads =>
    intro s hs
    obtain ⟨item, hitem, hmade⟩ := hfrom s hs
    have hleads : Leads doc s.path item := leads_iff.2 ⟨s.location, hitem, rfl⟩
    exact ⟨item, fun other => ⟨fun h => h.unique hleads, fun h => h ▸ hleads⟩, hmade⟩
  case distinct =>
    refine List.Nodup.map_on ?_ (nodup_locations ht).of_map
    intro s hs d hd hpath
    exact List.inj_on_of_nodup_map (nodup_locations ht) hs hd
      (Location.text_injective (hne s hs) (hne d hd) hpath)
  case root =>
    intro i hi
    obtain ⟨s, k, hs, hl⟩ := hroots i hi
    exact ⟨s, k, hs, hl, by rw [Slot.path, hl, List.nil_append, Location.text_singleton]⟩
  case child =>
    intro s hs j hj
    obtain ⟨d, k, hd, hl⟩ := hchildren s (by simpa [arena] using hs) j hj
    exact ⟨d, k, hd, hl, by rw [Slot.path, hl, Location.text_concat (hne s hs), Slot.path]⟩
  case all =>
    rw [hlaid]
    exact (postOrder_layComponents depth doc).walk_perm

/-- Of the children of the first item the second cannot be used, and so it is with the second item:
the children that follow still have the positions of their items. -/
theorem paths_followed_past_unusable : ∃ t,
    (parse "name: a\nbootstrap: b\ncomponents: [{children: [c, 7, d]}, 7, e]" 2).template =
      some t ∧
    t.arena.slots.map Slot.path =
      ["components[0].children[0]", "components[0].children[2]", "components[0]",
        "components[2]"] ∧
    t.arena.walk = [2, 0, 1, 3] ∧
    ∃ doc, ∀ s ∈ t.arena.slots, ∃ item, Leads doc s.path item ∧ s.ReadFrom 2 item := by
  have hread :
      ((parse "name: a\nbootstrap: b\ncomponents: [{children: [c, 7, d]}, 7, e]" 2).template.map
        fun t => (t.arena.slots.map Slot.path, t.arena.walk)) =
      some (["components[0].children[0]", "components[0].children[2]", "components[0]",
        "components[2]"], [2, 0, 1, 3]) := by
    decide +kernel
  obtain ⟨t, ht, hlaid⟩ := Option.map_eq_some_iff.1 hread
  obtain ⟨hpaths, hwalk⟩ := Prod.mk.inj hlaid
  obtain ⟨doc, -, hleads, -⟩ := paths_followed ht
  refine ⟨t, ht, hpaths, hwalk, doc, fun s hs => ?_⟩
  obtain ⟨item, hitem, hmade⟩ := hleads s hs
  exact ⟨item, (hitem item).2 rfl, hmade⟩

end Template

end LivePanel
