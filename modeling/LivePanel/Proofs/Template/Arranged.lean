import LivePanel.Proofs.Value.Ordered
import LivePanel.Template.FromYaml.Document

/-!
# Templates as they are read

The components that are read from a document lie where their locations say: a child's location is
that of its parent with one more step, and the steps of siblings ascend. Their bindings are in
order, one for each event. The actions of a template are in order, one for each name, and they are
actions in place, never mere calls.

The text of a location can be read back, so the text alone tells whether one component lies under
another (`isUnder_text`).
-/

namespace LivePanel

/-! ### Locations as text -/

/-- Whether one location's text is that of a place under another's. -/
def Location.isUnder (path above : String) : Bool :=
  (above.toList ++ ".children[".toList).isPrefixOf path.toList

namespace Location

theorem isDigit_of_mem {n : Nat} {c : Char} (h : c ∈ Nat.toDigits 10 n) : c.isDigit = true :=
  Nat.isDigit_of_mem_toDigits (by omega) (by omega) h

theorem toDigits_inj {m n : Nat} (h : Nat.toDigits 10 m = Nat.toDigits 10 n) : m = n := by
  rw [← Nat.ofDigitChars_toDigits (b := 10) (n := m) (by omega) (by omega), h,
    Nat.ofDigitChars_toDigits (by omega) (by omega)]

/-- Digits end where a bracket stands. -/
theorem digits_prefix {u v x y : List Char} (hu : ∀ c ∈ u, c.isDigit = true)
    (hv : ∀ c ∈ v, c.isDigit = true) (h : u ++ ']' :: x <+: v ++ ']' :: y) :
    u = v ∧ x <+: y := by
  induction u generalizing v with
  | nil =>
    cases v with
    | nil => exact ⟨rfl, (List.cons_prefix_cons.1 h).2⟩
    | cons c v =>
      have hc := hv c (List.mem_cons_self ..)
      rw [← (List.cons_prefix_cons.1 h).1] at hc
      exact absurd hc (by decide)
  | cons c u ih =>
    cases v with
    | nil =>
      have hc := hu c (List.mem_cons_self ..)
      rw [(List.cons_prefix_cons.1 h).1] at hc
      exact absurd hc (by decide)
    | cons d v =>
      obtain ⟨rfl, hrest⟩ := List.cons_prefix_cons.1 h
      obtain ⟨rfl, hxy⟩ := ih (fun a ha => hu a (List.mem_cons_of_mem _ ha))
        (fun a ha => hv a (List.mem_cons_of_mem _ ha)) hrest
      exact ⟨rfl, hxy⟩

theorem toList_stepsText_cons (i : Nat) (rest : List Nat) :
    (stepsText (i :: rest)).toList =
      ".children[".toList ++ (Nat.toDigits 10 i ++ ']' :: (stepsText rest).toList) := by
  simp [stepsText]

theorem toList_text_cons (i : Nat) (rest : List Nat) :
    (text (i :: rest)).toList =
      "components[".toList ++ (Nat.toDigits 10 i ++ ']' :: (stepsText rest).toList) := by
  simp [text]

theorem stepsText_append (a b : List Nat) : stepsText (a ++ b) = stepsText a ++ stepsText b := by
  induction a with
  | nil => simp [stepsText]
  | cons i a ih => simp [stepsText, ih, String.append_assoc]

theorem stepsText_prefix {a b : List Nat}
    (h : (stepsText a).toList <+: (stepsText b).toList) : a <+: b := by
  induction a generalizing b with
  | nil => exact List.nil_prefix
  | cons i a ih =>
    cases b with
    | nil =>
      rw [toList_stepsText_cons] at h
      exact absurd (List.prefix_nil.1 h) (by simp)
    | cons k b =>
      rw [toList_stepsText_cons, toList_stepsText_cons, List.prefix_append_right_inj] at h
      obtain ⟨hik, hrest⟩ := digits_prefix (fun _ => isDigit_of_mem) (fun _ => isDigit_of_mem) h
      rw [toDigits_inj hik]
      exact List.cons_prefix_cons.2 ⟨rfl, ih hrest⟩

/-- The text of a place further down. -/
theorem toList_text_append {a : Location} (ha : a ≠ []) (r : List Nat) :
    (text (a ++ r)).toList = (text a).toList ++ (stepsText r).toList := by
  obtain ⟨i, a, rfl⟩ := List.exists_cons_of_ne_nil ha
  rw [List.cons_append, toList_text_cons, toList_text_cons, stepsText_append,
    String.toList_append]
  simp only [List.append_assoc, List.cons_append]

/-- **The text of a location begins that of another exactly if the other lies in it.** -/
theorem text_prefix_text {a b : Location} (ha : a ≠ []) (hb : b ≠ []) :
    (text a).toList <+: (text b).toList ↔ a <+: b := by
  constructor
  · intro h
    obtain ⟨i, a, rfl⟩ := List.exists_cons_of_ne_nil ha
    obtain ⟨k, b, rfl⟩ := List.exists_cons_of_ne_nil hb
    rw [toList_text_cons, toList_text_cons, List.prefix_append_right_inj] at h
    obtain ⟨hik, hrest⟩ := digits_prefix (fun _ => isDigit_of_mem) (fun _ => isDigit_of_mem) h
    rw [toDigits_inj hik]
    exact List.cons_prefix_cons.2 ⟨rfl, stepsText_prefix hrest⟩
  · rintro ⟨r, rfl⟩
    rw [toList_text_append ha]
    exact List.prefix_append ..

/-- **The text of a location tells what it lies under.** -/
theorem isUnder_text {a b : Location} (ha : a ≠ []) (hb : b ≠ []) :
    isUnder (text b) (text a) = true ↔ ∃ j r, b = a ++ j :: r := by
  rw [isUnder, List.isPrefixOf_iff_prefix]
  constructor
  · intro h
    obtain ⟨r, rfl⟩ := (text_prefix_text ha hb).1 ((List.prefix_append ..).trans h)
    cases r with
    | nil =>
      rw [List.append_nil] at h
      exact absurd h.length_le (by simp)
    | cons j r => exact ⟨j, r, rfl⟩
  · rintro ⟨j, r, rfl⟩
    rw [toList_text_append ha, toList_stepsText_cons, List.prefix_append_right_inj]
    exact List.prefix_append ..

end Location

/-! ### Components in their places -/

/-- Components that lie under a location, the steps down to them ascending from `i` on. -/
inductive Arranged : Location → Nat → List Component → Prop where
  | nil (above : Location) (i : Nat) : Arranged above i []
  | cons {above : Location} {i j : Nat} {c : Component} {rest : List Component} (hij : i ≤ j)
      (hl : c.location = above ++ [j]) (hb : Table.Ordered c.bindings)
      (hc : Arranged c.location 0 c.children) (hr : Arranged above (j + 1) rest) :
      Arranged above i (c :: rest)

theorem Arranged.mono {above : Location} {i j : Nat} {cs : List Component}
    (h : Arranged above j cs) (hij : i ≤ j) : Arranged above i cs := by
  cases h with
  | nil => exact .nil above i
  | cons hjk hl hb hc hr => exact .cons (Nat.le_trans hij hjk) hl hb hc hr

/-- A component lies at a location, and its children under it. -/
structure Component.Settled (c : Component) (location : Location) : Prop where
  location : c.location = location
  bindings : Table.Ordered c.bindings
  children : Arranged c.location 0 c.children

/-- No action of the table is a mere call. -/
def Action.InPlace (actions : Table Action) : Prop := ∀ e ∈ actions, e.2.called? = none

namespace Template.FromYaml

theorem value_collect {α : Type u} (xs : List (Noted (Option α))) :
    (Noted.collect xs).value = xs.filterMap (·.value) := by
  have hall : (Noted.all xs).value = xs.map (·.value) := by
    induction xs with
    | nil => rfl
    | cons x rest ih => simp [Noted.all, ih]
  rw [Noted.collect, hall, List.filterMap_map]
  rfl

theorem ordered_bindingEntries (path : String) {acc : Table String} (h : acc.Ordered)
    (entries : Yaml.Entries) : (bindingEntries path acc entries).value.Ordered := by
  induction entries generalizing acc with
  | nil => exact h
  | cons e rest ih =>
    obtain ⟨k, v⟩ := e
    simp only [bindingEntries]
    split
    · exact ih (Table.ordered_put h ..)
    · exact ih h

theorem ordered_bindingsField (m : Yaml.Entries) (path : String) :
    (bindingsField m path).value.Ordered := by
  unfold bindingsField
  split
  · exact Table.ordered_nil
  · exact Table.ordered_nil
  · exact ordered_bindingEntries path Table.ordered_nil _
  · exact Table.ordered_nil

/-- Components that are read item by item are arranged. -/
theorem arranged_items {above : Location} (read : Yaml → Nat → Noted (Option Component))
    (hread : ∀ item i c, (read item i).value = some c → c.Settled (above ++ [i]))
    (items : List Yaml) (k : Nat) :
    Arranged above k (Noted.collect ((items.zipIdx k).map fun (item, i) => read item i)).value := by
  rw [value_collect, List.filterMap_map]
  induction items generalizing k with
  | nil => exact .nil above k
  | cons item rest ih =>
    rw [List.zipIdx_cons]
    cases hc : (read item k).value with
    | none =>
      rw [List.filterMap_cons_none (by simpa using hc)]
      exact (ih (k + 1)).mono (by omega)
    | some c =>
      rw [List.filterMap_cons_some (by simpa using hc)]
      obtain ⟨hl, hb, hch⟩ := hread item k c hc
      exact .cons (Nat.le_refl k) hl hb hch (ih (k + 1))

/-- **A component is read in the place that is given for it.** -/
theorem settled_component {limit left : Nat} {location : Location} {item : Yaml} {c : Component}
    (h : (component limit left location item).value = some c) : c.Settled location := by
  induction left generalizing location item c with
  | zero => cases h
  | succ left ih =>
    unfold component at h
    split at h
    · rename_i m
      cases h
      exact ⟨rfl, ordered_bindingsField m _,
        arranged_items (fun item i => component limit left (location ++ [i]) item)
          (fun _ _ _ hc => ih hc) _ 0⟩
    · split at h
      · cases h
        exact ⟨rfl, Table.ordered_nil, .nil _ _⟩
      · cases h
    · cases h

theorem arranged_componentsField (depth : Nat) (doc : Yaml.Entries) :
    Arranged [] 0 (componentsField depth doc).value := by
  unfold componentsField
  split
  · exact .nil _ _
  · exact .nil _ _
  · exact arranged_items (fun item i => component depth depth [i] item)
      (fun _ _ _ hc => settled_component hc) _ 0
  · exact .nil _ _

/-! ### Actions in place -/

theorem called?_withThen {a : Action} (h : a.called? = none) (following : List Action) :
    (withThen a following).called? = none := by
  unfold withThen
  split
  · exact h
  · rfl

theorem called?_actionOfEntries {m : Yaml.Entries} {path : String} {a : Action}
    (h : (actionOfEntries m path).value = some a) : a.called? = none := by
  unfold actionOfEntries at h
  split at h
  · cases h
  · extract_lets storeAs described at h
    split at h
    · cases h
    · rename_i b hb
      cases h
      apply called?_withThen
      simp only [described, bind, Noted.andThen] at hb
      split at hb
      · cases hb
      · split at hb <;> cases hb
        rfl
      · split at hb <;> cases hb
        rfl
      · cases hb
        rfl
      · split at hb <;> cases hb
        rfl
      · cases hb
        rfl

theorem called?_action {v : Yaml} {path : String} {a : Action}
    (h : (action v path).value = some a) : a.called? = none := by
  unfold action at h
  split at h
  · exact called?_actionOfEntries h
  · cases h
    rfl
  · cases h

theorem inPlace_namedActions {acc : Table Action} (h : Action.InPlace acc) (entries : Yaml.Entries) :
    Action.InPlace (namedActions acc entries).value := by
  induction entries generalizing acc with
  | nil => exact h
  | cons e rest ih =>
    obtain ⟨k, v⟩ := e
    simp only [namedActions]
    split
    · exact ih h
    · split
      · exact ih h
      · rename_i name _ _
        apply ih
        split
        · rename_i a ha
          intro e he
          rcases Table.mem_put he with rfl | he
          · exact called?_action ha
          · exact h e he
        · exact h

theorem inPlace_actionsField (doc : Yaml.Entries) : Action.InPlace (actionsField doc).value := by
  have hnil : Action.InPlace [] := fun _ h => absurd h List.not_mem_nil
  unfold actionsField
  split
  · exact hnil
  · exact hnil
  · exact inPlace_namedActions hnil _
  · exact hnil

theorem ordered_namedActions {acc : Table Action} (h : acc.Ordered) (entries : Yaml.Entries) :
    (namedActions acc entries).value.Ordered := by
  induction entries generalizing acc with
  | nil => exact h
  | cons e rest ih =>
    obtain ⟨k, v⟩ := e
    simp only [namedActions]
    split
    · exact ih h
    · split
      · exact ih h
      · apply ih
        split
        · exact Table.ordered_put h ..
        · exact h

theorem ordered_actionsField (doc : Yaml.Entries) : (actionsField doc).value.Ordered := by
  unfold actionsField
  split
  · exact Table.ordered_nil
  · exact Table.ordered_nil
  · exact ordered_namedActions Table.ordered_nil _
  · exact Table.ordered_nil

/-! ### Templates -/

theorem components_actions_document {depth : Nat} {doc : Yaml.Entries} {t : Template}
    (h : (document depth doc).value = some t) :
    t.components = (componentsField depth doc).value ∧ t.actions = (actionsField doc).value := by
  unfold document at h
  simp only [bind, Noted.andThen] at h
  split at h
  · cases h
    exact ⟨rfl, rfl⟩
  · cases h

theorem parse_of_read {source : String} {doc : Yaml} (h : Yaml.read source = .ok doc) (depth : Nat) :
    parse source depth = ofYaml depth doc := by
  unfold parse
  split
  · rename_i herr
    rw [h] at herr
    cases herr
  · rename_i hok
    rw [h] at hok
    cases hok
    rfl

/-- There is a template only where the document is a mapping. -/
theorem map_of_parse {source : String} {depth : Nat} {t : Template}
    (h : (parse source depth).template = some t) :
    ∃ doc, Yaml.read source = .ok (.map doc) ∧
      parse source depth = ⟨some t, (document depth doc).problems⟩ ∧
      (document depth doc).value = some t := by
  unfold parse at h ⊢
  split at h
  · cases h
  · rename_i hread
    rw [hread]
    unfold ofYaml at h ⊢
    split at h
    · exact ⟨_, rfl, congrArg (Outcome.mk · _) h, h⟩
    · cases h
    · cases h

theorem document_of_parse {source : String} {depth : Nat} {t : Template}
    (h : (parse source depth).template = some t) :
    ∃ doc, (document depth doc).value = some t :=
  (map_of_parse h).imp fun _ hdoc => hdoc.2.2

end Template.FromYaml

open Template.FromYaml

/-- **What is read from a document is in its places.** -/
theorem Template.arranged_parse {source : String} {depth : Nat} {t : Template}
    (h : (Template.parse source depth).template = some t) : Arranged [] 0 t.components := by
  obtain ⟨doc, hdoc⟩ := document_of_parse h
  rw [(components_actions_document hdoc).1]
  exact arranged_componentsField depth doc

/-- What is read from a document has its actions in place. -/
theorem Template.inPlace_parse {source : String} {depth : Nat} {t : Template}
    (h : (Template.parse source depth).template = some t) : Action.InPlace t.actions := by
  obtain ⟨doc, hdoc⟩ := document_of_parse h
  rw [(components_actions_document hdoc).2]
  exact inPlace_actionsField doc

/-- What is read from a document has its actions in order, one for each name. -/
theorem Template.ordered_actions_parse {source : String} {depth : Nat} {t : Template}
    (h : (Template.parse source depth).template = some t) : Table.Ordered t.actions := by
  obtain ⟨doc, hdoc⟩ := document_of_parse h
  rw [(components_actions_document hdoc).2]
  exact ordered_actionsField doc

end LivePanel
