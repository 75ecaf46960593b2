import LivePanel.Proofs.Template.Items
import LivePanel.Proofs.Template.Located
import LivePanel.Template.Analysis
import Mathlib.Data.List.Perm.Basic
import Mathlib.Data.Set.Card

/-!
# What is kept of a document

An item of a document becomes a component if it can be used and is not nested too deep, and every
item above it can be used. Any other item that is met gives one problem, whatever is in it: that it
should be a mapping, or that it is nested too deep. Which problems are about an item can be told
from their paths, since the text of a location is the beginning of the paths of all that lies in it,
and of no others.

## What is proved

* `problemsUnder_component`, `problemsUnder_document`: the problems at an item and in it are those
  that reading it alone gives.
* `kept_items`: the components of a template are the items that can be used, and each of the others
  that is met gives one problem.
-/

namespace LivePanel

open SyntaxProblem

namespace Location

/-! ### Problems that lie in different places -/

/-- What lies at one of two items, or in it, does not lie at the other, unless one lies in the
other. -/
theorem not_under_of_disjoint {a b : Location} (ha : a ≠ []) (hb : b ≠ []) (hab : ¬ a <+: b)
    (hba : ¬ b <+: a) {p : SyntaxProblem} (h : Under (text a) p) : ¬ Under (text b) p := fun h' =>
  (List.prefix_or_prefix_of_prefix h h').elim (fun h => hab ((text_prefix_text ha hb).1 h))
    fun h => hba ((text_prefix_text hb ha).1 h)

/-- What is an item's own does not lie at an item inside it. -/
theorem not_under_of_own {a : Location} (ha : a ≠ []) {i : Nat} {r : List Nat} {p : SyntaxProblem}
    (h : Own (text a) p) : ¬ Under (text (a ++ i :: r)) p := by
  obtain ⟨s, hs, hc⟩ := h
  intro h'
  rw [Under, hs, toList_text_append ha, List.prefix_append_right_inj, toList_stepsText_cons] at h'
  rw [show ".children[".toList = '.' :: "children[".toList from rfl, List.cons_append] at h'
  exact hc ((List.prefix_append ..).trans (List.cons_prefix_cons.1 h').2)

/-- What lies elsewhere does not lie at an item. -/
theorem not_under_of_elsewhere {i : Nat} {r : List Nat} {p : SyntaxProblem}
    (h : Template.FromYaml.Elsewhere p) : ¬ Under (text (i :: r)) p := by
  rw [Under, toList_text_cons]
  exact fun h' => h ((List.prefix_append ..).trans h')

end Location

/-- The problems that lie at a path or further down. -/
def problemsUnder (path : String) (ps : List SyntaxProblem) : List SyntaxProblem :=
  ps.filter fun p => Under path p

theorem problemsUnder_append (path : String) (ps qs : List SyntaxProblem) :
    problemsUnder path (ps ++ qs) = problemsUnder path ps ++ problemsUnder path qs :=
  List.filter_append ..

namespace Noted.Only

variable {α : Type} {good : SyntaxProblem → Prop} {x : Noted α} {path : String}

theorem problemsUnder_eq (h : x.Only (Under path)) : problemsUnder path x.problems = x.problems :=
  List.filter_eq_self.2 fun p hp => decide_eq_true (h p hp)

theorem problemsUnder_eq_nil (h : x.Only good) (hn : ∀ p, good p → ¬ Under path p) :
    problemsUnder path x.problems = [] :=
  List.filter_eq_nil_iff.2 fun p hp => by simpa using hn p (h p hp)

end Noted.Only

namespace Template.FromYaml

open Location Noted Yaml

/-! ### Problems at an item -/

variable {limit left : Nat} {location : Location}

/-- The problems of items that are read in order, each of them about an item. -/
theorem only_readItems {good : SyntaxProblem → Prop} {items : List Yaml} {i : Nat}
    (h : ∀ k, i ≤ k → ∀ item, (component limit left (location ++ [k]) item).Only good) :
    (readItems limit left location items i).Only good := by
  refine .collect fun x hx => ?_
  obtain ⟨⟨item, k⟩, hk, rfl⟩ := List.mem_map.1 hx
  exact h k (List.le_snd_of_mem_zipIdx hk) item

/-- **A component is noted where it stands, with all that is in it.** -/
theorem under_component (hl : location ≠ []) (item : Yaml) :
    (component limit left location item).Only (Under (text location)) := by
  induction left generalizing location item with
  | zero => exact .problem (under_self ..) _
  | succ left ih =>
    by_cases hw : item.WellFormed
    · cases item with
      | map m =>
        have hchildren : (readItems limit left location ((Yaml.map m).itemsUnder "children") 0).Only
            (Under (text location)) :=
          only_readItems fun k _ item => (ih (by simp) item).mono fun _ hp =>
            hp.mono ((text_prefix_text hl (by simp)).2 (List.prefix_append ..))
        rw [component_map]
        exact ((own_fields m _).mono fun _ => Own.under).append hchildren _
      | str s =>
        rw [component_str _ _ _ hw]
        exact .clean _
      | _ => exact hw.elim
    · rw [component_of_not _ _ _ hw]
      exact .problem (under_self ..) _

/-- What lies at an item, or in it, does not lie at another one of the list. -/
theorem not_under_of_ne {k j : Nat} (hkj : k ≠ j) {r : List Nat} {p : SyntaxProblem}
    (h : Under (text (location ++ [k])) p) : ¬ Under (text (location ++ j :: r)) p := by
  refine not_under_of_disjoint (by simp) (by simp) (fun h => ?_) (fun h => ?_) h
  · exact hkj (List.cons_prefix_cons.1 ((List.prefix_append_right_inj _).1 h)).1
  · exact hkj (List.cons_prefix_cons.1 ((List.prefix_append_right_inj _).1 h)).1.symm

/-- Of the problems of a list, those at an item and in it are the item's. -/
theorem problemsUnder_readItems {items : List Yaml} {i n : Nat} {item : Yaml}
    (hn : items[n]? = some item) (r : List Nat) :
    problemsUnder (text (location ++ (i + n) :: r))
        (readItems limit left location items i).problems =
      problemsUnder (text (location ++ (i + n) :: r))
        (component limit left (location ++ [i + n]) item).problems := by
  induction items generalizing i n with
  | nil => cases hn
  | cons first rest ih =>
    rw [readItems_cons, problemsUnder_append]
    cases n with
    | zero =>
      obtain rfl := Option.some.inj hn
      have hrest : (readItems limit left location rest (i + 1)).Only
          fun p => ∃ k, i + 1 ≤ k ∧ Under (text (location ++ [k])) p :=
        only_readItems fun k hk item =>
          (under_component (by simp) item).mono fun _ hp => ⟨k, hk, hp⟩
      rw [Nat.add_zero, hrest.problemsUnder_eq_nil, List.append_nil]
      rintro p ⟨k, hk, hp⟩
      exact not_under_of_ne (by omega) hp
    | succ n =>
      have hfirst : (component limit left (location ++ [i]) first).Only _ :=
        under_component (by simp) first
      rw [hfirst.problemsUnder_eq_nil fun _ hp => not_under_of_ne (by omega) hp, List.nil_append]
      rw [show i + (n + 1) = i + 1 + n by omega]
      exact ih hn

/-- **The problems at an item, and in it, are those that reading it alone gives.** -/
theorem problemsUnder_component (hl : location ≠ []) {item inner : Yaml} {r : Location}
    (h : item.inside? r = some inner) (hr : r.length ≤ left) :
    problemsUnder (text (location ++ r)) (component limit left location item).problems =
      (component limit (left - r.length) (location ++ r) inner).problems := by
  induction r generalizing left location item with
  | nil =>
    obtain rfl := Option.some.inj h
    rw [List.append_nil]
    exact (under_component hl item).problemsUnder_eq
  | cons i r ih =>
    obtain ⟨m, child, rfl, hi, hinner⟩ := inside?_cons.1 h
    obtain ⟨left, rfl⟩ := Nat.exists_eq_add_one_of_ne_zero (Nat.ne_zero_of_lt hr)
    have hitems : problemsUnder (text (location ++ (0 + i) :: r))
        (readItems limit left location ((Yaml.map m).itemsUnder "children") 0).problems = _ :=
      problemsUnder_readItems hi r
    have hchild : problemsUnder (text (location ++ [i] ++ r))
        (component limit left (location ++ [i]) child).problems = _ :=
      ih (by simp) hinner (Nat.le_of_succ_le_succ hr)
    rw [Nat.zero_add] at hitems
    rw [List.append_assoc, List.singleton_append] at hchild
    rw [component_map, problemsUnder_append,
      (own_fields m _).problemsUnder_eq_nil fun _ hp => not_under_of_own hl hp, List.nil_append,
      hitems, hchild, List.length_cons, Nat.add_sub_add_right]

/-- An item that can be used is noted only further down. -/
theorem ne_of_wellFormed (hl : location ≠ []) {item : Yaml} (hw : item.WellFormed) :
    (component limit (left + 1) location item).Only fun p => p.path ≠ text location := by
  cases item with
  | map m =>
    have hchildren : (readItems limit left location ((Yaml.map m).itemsUnder "children") 0).Only
        fun p => p.path ≠ text location :=
      only_readItems fun k _ item => (under_component (by simp) item).mono fun p hp heq => by
        rw [Under, heq, text_prefix_text (by simp) hl] at hp
        simpa using hp.length_le
    rw [component_map]
    exact ((own_fields m _).mono fun _ => Own.ne).append hchildren _
  | str s =>
    rw [component_str _ _ _ hw]
    exact .clean _
  | _ => exact hw.elim

/-! ### Problems of a document -/

/-- The parts of a document are read in a fixed order, and their problems noted in that order. -/
theorem problems_document (depth : Nat) (doc : Yaml.Entries) :
    (document depth doc).problems =
      (nameField doc).problems ++ (bootstrapField doc).problems ++
        (descriptionField doc).problems ++ (versionField doc).problems ++
        (componentsField depth doc).problems ++ (actionsField doc).problems ++
        (eventsField doc).problems ++ (stateField doc).problems := by
  unfold document
  simp only [bind, Noted.andThen]
  split <;> simp [pure, Noted.clean]

/-- The components are read item by item, if there is a list of them. -/
theorem problemsUnder_componentsField (depth : Nat) (doc : Yaml.Entries) (i : Nat) (r : List Nat) :
    problemsUnder (text (i :: r)) (componentsField depth doc).problems =
      problemsUnder (text (i :: r))
        (readItems depth depth [] ((Yaml.map doc).itemsUnder "components") 0).problems := by
  unfold componentsField itemsUnder field? untagged
  cases hget : doc.get? "components" with
  | none => simp only [hget, readItems_nil, Noted.clean]
  | some v =>
    cases v with
    | seq items =>
      simp only [hget]
      rfl
    | null => simp only [hget, readItems_nil, Noted.clean]
    | _ =>
      simp only [hget, readItems_nil]
      have hnot : ¬ "components[".toList <+: "components".toList := by decide
      have hcomponents : (Noted.problem "components" "must be a sequence of nodes"
          ([] : List Component)).Only Elsewhere := .problem hnot _
      exact hcomponents.problemsUnder_eq_nil fun _ hp => not_under_of_elsewhere hp

/-- **The problems at an item of a document are noted when the components are read.** -/
theorem problemsUnder_document (depth : Nat) (doc : Yaml.Entries) (i : Nat) (r : List Nat) :
    problemsUnder (text (i :: r)) (document depth doc).problems =
      problemsUnder (text (i :: r))
        (readItems depth depth [] ((Yaml.map doc).itemsUnder "components") 0).problems := by
  have hnil : ∀ {α : Type} {x : Noted α} {part : String}, x.Only (Under part) →
      ¬ "components[".toList <+: part.toList → ¬ part.toList <+: "components[".toList →
      problemsUnder (text (i :: r)) x.problems = [] :=
    fun h hc hp => h.problemsUnder_eq_nil fun _ hu =>
      not_under_of_elsewhere (.of_under hu hc hp)
  simp only [problems_document, problemsUnder_append,
    hnil (under_nameField doc) (by decide) (by decide),
    hnil (under_bootstrapField doc) (by decide) (by decide),
    hnil (under_descriptionField doc) (by decide) (by decide),
    hnil (under_versionField doc) (by decide) (by decide),
    hnil (under_actionsField doc) (by decide) (by decide),
    hnil (under_eventsField doc) (by decide) (by decide),
    hnil (under_stateField doc) (by decide) (by decide), List.nil_append, List.append_nil]
  exact problemsUnder_componentsField depth doc i r

/-- **The problems at an item of a document, and in it, are those that reading it alone gives.** -/
theorem problemsUnder_itemAt {depth : Nat} {doc : Yaml.Entries} {location : Location} {item : Yaml}
    (h : (Yaml.map doc).itemAt? location = some item) (hl : location.length ≤ depth + 1) :
    problemsUnder (text location) (document depth doc).problems =
      (component depth (depth + 1 - location.length) location item).problems := by
  cases location with
  | nil => cases h
  | cons i r =>
    obtain ⟨first, hi, hinner⟩ := Option.bind_eq_some_iff.1 h
    have hitems : problemsUnder (text ([] ++ (0 + i) :: r))
        (readItems depth depth [] ((Yaml.map doc).itemsUnder "components") 0).problems = _ :=
      problemsUnder_readItems hi r
    rw [List.nil_append, Nat.zero_add] at hitems
    have hfirst : problemsUnder (text ([i] ++ r)) (component depth depth [i] first).problems = _ :=
      problemsUnder_component (by simp) hinner (Nat.le_of_succ_le_succ hl)
    rw [problemsUnder_document, hitems]
    exact hfirst.trans (by rw [List.length_cons, Nat.add_sub_add_right]; rfl)

section

variable {depth : Nat} {doc : Yaml.Entries} {item : Yaml}
  (h : (Yaml.map doc).itemAt? location = some item)
include h

/-- An item that is kept is not noted itself. -/
theorem not_noted_of_wellFormed (hl : location.length ≤ depth) (hw : item.WellFormed) :
    ∀ p ∈ (document depth doc).problems, p.path ≠ text location := by
  intro p hp heq
  have hne : location ≠ [] := by
    rintro rfl
    cases h
  have hunder : p ∈ problemsUnder (text location) (document depth doc).problems :=
    List.mem_filter.2 ⟨hp, decide_eq_true (heq ▸ List.prefix_rfl)⟩
  rw [problemsUnder_itemAt h (Nat.le_succ_of_le hl), Nat.succ_sub hl] at hunder
  exact ne_of_wellFormed hne hw p hunder heq

/-- An item that cannot be used gives one problem, whatever is in it. -/
theorem noted_of_not_wellFormed (hl : location.length ≤ depth) (hw : ¬ item.WellFormed) :
    problemsUnder (text location) (document depth doc).problems =
      [⟨"component must be a mapping", text location, none, none⟩] := by
  rw [problemsUnder_itemAt h (Nat.le_succ_of_le hl), Nat.succ_sub hl, component_of_not _ _ _ hw]
  rfl

/-- An item that is nested too deep gives one problem, whatever it is. -/
theorem noted_of_too_deep (hl : location.length = depth + 1) :
    problemsUnder (text location) (document depth doc).problems =
      [⟨"nesting exceeds the maximum depth of " ++ toString depth, text location, none, none⟩] := by
  rw [problemsUnder_itemAt h hl.le, hl, Nat.sub_self, component_zero]
  rfl

end

end Template.FromYaml

open Template.FromYaml

namespace Template

/-! ### Locations of the slots -/

mutual

theorem locations_place (next : Nat) : (c : Component) →
    ((place next c).1.map (·.location)).Perm (c.walk.map (·.location))
  | ⟨location, kind, condition, props, bindings, icons, children⟩ => by
    simp only [place, Component.walk, List.map_append, List.map_cons, List.map_nil]
    exact (List.perm_append_singleton ..).trans ((locations_placeAll next children).cons _)

/-- The slots of an arena lie where the components of the tree do. -/
theorem locations_placeAll (next : Nat) : (cs : List Component) →
    ((placeAll next cs).1.map (·.location)).Perm ((Component.walkAll cs).map (·.location))
  | [] => .nil
  | c :: rest => by
    simp only [placeAll, Component.walkAll, List.map_append]
    exact (locations_place next c).append (locations_placeAll _ rest)

end

end Template

/-- The items of a document that become components: those that can be used, down to a depth. -/
def Yaml.Keeps (doc : Yaml) (depth : Nat) (location : Location) : Prop :=
  ∃ item, doc.itemAt? location = some item ∧ item.WellFormed ∧ location.length ≤ depth

namespace Template

/-- A component has been read at a location exactly if the document keeps the item there. -/
theorem mem_locations_iff {depth : Nat} {doc : Yaml.Entries} {t : Template}
    (ht : t.components = (componentsField depth doc).value) (location : Location) :
    location ∈ t.arena.slots.map (·.location) ↔ (Yaml.map doc).Keeps depth location := by
  rw [show t.arena.slots = (placeAll 0 t.components).1 from rfl,
    (locations_placeAll 0 t.components).mem_iff, ht, List.mem_map]
  constructor
  · rintro ⟨c, hc, rfl⟩
    obtain ⟨location, item, hitem, hc⟩ := mem_walk_componentsField.1 hc
    obtain ⟨hleft, hw⟩ := (isSome_component ..).1 (Option.isSome_of_eq_some hc)
    rw [(settled_component hc).location]
    exact ⟨item, hitem, hw, by omega⟩
  · rintro ⟨item, hitem, hw, hlen⟩
    obtain ⟨c, hc⟩ := Option.isSome_iff_exists.1
      ((isSome_component depth (depth + 1 - location.length) location item).2 ⟨by omega, hw⟩)
    exact ⟨c, mem_walk_componentsField.2 ⟨location, item, hitem, hc⟩,
      (settled_component hc).location⟩

/-- No two components lie at the same location. -/
theorem nodup_locations {depth : Nat} {doc : Yaml.Entries} {t : Template}
    (ht : t.components = (componentsField depth doc).value) :
    (t.arena.slots.map (·.location)).Nodup := by
  rw [show t.arena.slots = (placeAll 0 t.components).1 from rfl,
    (locations_placeAll 0 t.components).nodup_iff, ht]
  refine (List.pairwise_map.2 (arranged_componentsField depth doc).ascends.2).imp fun h heq => ?_
  exact List.lt_irrefl _ (heq ▸ h)

/-- **The components of a template are the items of its document that can be used.** They are
those that can be used, lie no deeper than allowed, and lie only in such that can be used as well;
the analysis counts them, and none is noted itself. An item that is met and cannot be used gives one
problem, and one that is nested too deep gives one; nothing is noted that lies in it. -/
theorem kept_items {source : String} {depth : Nat} {t : Template}
    (h : (parse source depth).template = some t) :
    ∃ doc, Yaml.read source = .ok doc ∧
      (t.arena.slots.map (·.location)).Nodup ∧
      (∀ location, location ∈ t.arena.slots.map (·.location) ↔ doc.Keeps depth location) ∧
      (parse source depth).analysis.componentCount = Set.ncard {l | doc.Keeps depth l} ∧
      ∀ location item, doc.itemAt? location = some item →
        (location.length ≤ depth → item.WellFormed →
          ∀ p ∈ (parse source depth).problems, p.path ≠ Location.text location) ∧
        (location.length ≤ depth → ¬ item.WellFormed →
          problemsUnder (Location.text location) (parse source depth).problems =
            [⟨"component must be a mapping", Location.text location, none, none⟩]) ∧
        (location.length = depth + 1 →
          problemsUnder (Location.text location) (parse source depth).problems =
            [⟨"nesting exceeds the maximum depth of " ++ toString depth, Location.text location,
              none, none⟩]) := by
  obtain ⟨doc, hread, hparse, hdoc⟩ := map_of_parse h
  have ht := (components_actions_document hdoc).1
  have hmem := mem_locations_iff ht
  have hnodup := nodup_locations ht
  refine ⟨.map doc, hread, hnodup, hmem, ?_, fun location item hitem => ?_⟩
  · have hset : {l | (Yaml.map doc).Keeps depth l} =
        ((t.arena.slots.map (·.location)).toFinset : Set Location) := by
      ext location
      rw [List.coe_toFinset, Set.mem_ofPred_eq, Set.mem_ofPred_eq, hmem]
    rw [hset, Set.ncard_coe_finset, List.toFinset_card_of_nodup hnodup, List.length_map, hparse]
    rfl
  · rw [hparse]
    exact ⟨not_noted_of_wellFormed hitem, noted_of_not_wellFormed hitem, noted_of_too_deep hitem⟩

/-- A number among the children of the first item, and an item below the third of them. -/
theorem kept_items_number_and_too_deep :
    let source := "name: a\nbootstrap: b\ncomponents: [{children: [c, 7, {children: [d]}]}, 7, e]"
    (∃ t, (parse source 2).template = some t) ∧ (parse source 2).analysis.componentCount = 4 ∧
      problemsUnder (Location.text [0, 1]) (parse source 2).problems =
        [⟨"component must be a mapping", "components[0].children[1]", none, none⟩] ∧
      problemsUnder (Location.text [0, 2, 0]) (parse source 2).problems =
        [⟨"nesting exceeds the maximum depth of 2", "components[0].children[2].children[0]",
          none, none⟩] := by
  intro source
  have hsome : (parse source 2).template.isSome = true := by decide +kernel
  have hcount : (parse source 2).analysis.componentCount = 4 := by decide +kernel
  have hitems : (Yaml.read source).toOption.map (fun doc =>
      ((doc.itemAt? [0, 1]).map fun v => decide v.WellFormed,
        (doc.itemAt? [0, 2, 0]).isSome)) = some (some false, true) := by
    decide +kernel
  obtain ⟨t, ht⟩ := Option.isSome_iff_exists.1 hsome
  obtain ⟨doc, hread, -, -, -, hnoted⟩ := kept_items ht
  rw [hread] at hitems
  obtain ⟨hseven, hdeep⟩ := Prod.mk.inj (Option.some.inj hitems)
  obtain ⟨seven, hseven, hw⟩ := Option.map_eq_some_iff.1 hseven
  obtain ⟨deep, hdeep⟩ := Option.isSome_iff_exists.1 hdeep
  exact ⟨⟨t, ht⟩, hcount, (hnoted _ _ hseven).2.1 (by decide) (of_decide_eq_false hw),
    (hnoted _ _ hdeep).2.2 rfl⟩

end Template

end LivePanel
