import LivePanel.Proofs.Template.Kept

/-!
# One item changed

Two documents that differ in one item, in the list of components or in a list of children, are read
alike everywhere else. Positions in the arena say nothing about that: they shift as soon as the
item takes more room or less. So the components of an arena are looked at by location, with the
locations of their children.

## The model

* `Sight`: a component of an arena with the locations of its children.
* `Entries.DifferAt`: mappings with the same values but for one item of a list, or of a list of
  children further down. Lists and items may be tagged.
* `AlikeBut`: what is read of two lists is the same but for what lies at a location or below.

## What is proved

* `sights_placeAll`: the components seen in an arena are those of the trees it was laid out from.
* `alike_readItems`: items that differ in one place are read alike but for that place.
* `alike_elsewhere`: templates of documents that differ in one item are the same outside it.
-/

namespace LivePanel

open SyntaxProblem

namespace Template

/-! ### The components of an arena by location -/

/-- A component of an arena, with the locations of its children. -/
structure Sight where
  location : Location
  kind : ComponentKind
  condition : Option String
  props : Table Value
  bindings : Table String
  icons : List Icon
  children : List Location

/-- The locations of the slots at the given positions. -/
def locationsAt (slots : List Slot) (positions : List Nat) : List Location :=
  positions.filterMap fun i => slots[i]?.map (·.location)

/-- What is seen of a slot among others. -/
def Slot.sight (slots : List Slot) (s : Slot) : Sight :=
  ⟨s.location, s.kind, s.condition, s.props, s.bindings, s.icons, locationsAt slots s.children⟩

/-- What is seen of an arena, slot by slot. -/
def Arena.sights (a : Arena) : List Sight := a.slots.map (Slot.sight a.slots)

/-- The locations of the components at the top. -/
def Arena.tops (a : Arena) : List Location := locationsAt a.slots a.roots

mutual
/-- What is seen of a tree, children first. -/
def sightsOf (c : Component) : List Sight :=
  match c with
  | ⟨location, kind, condition, props, bindings, icons, children⟩ =>
    sightsOfAll children ++
      [⟨location, kind, condition, props, bindings, icons, children.map (·.location)⟩]

/-- What is seen of several trees. -/
def sightsOfAll : List Component → List Sight
  | [] => []
  | c :: rest => sightsOf c ++ sightsOfAll rest
end

theorem sightsOfAll_append (cs cs' : List Component) :
    sightsOfAll (cs ++ cs') = sightsOfAll cs ++ sightsOfAll cs' := by
  induction cs with
  | nil => rfl
  | cons c rest ih => simp only [List.cons_append, sightsOfAll, ih, List.append_assoc]

/-- The root of a tree is found where it was placed, whatever lies before and behind. -/
theorem location_place (front back : List Slot) (c : Component) :
    (front ++ (place front.length c).1 ++ back)[(place front.length c).2]?.map (·.location) =
      some c.location := by
  obtain ⟨location, kind, condition, props, bindings, icons, children⟩ := c
  simp [place]

theorem locationsAt_placeAll (front back : List Slot) (cs : List Component) :
    locationsAt (front ++ (placeAll front.length cs).1 ++ back) (placeAll front.length cs).2 =
      cs.map (·.location) := by
  induction cs generalizing front with
  | nil => rfl
  | cons c rest ih =>
    have hfirst := location_place front
      ((placeAll (front.length + (place front.length c).1.length) rest).1 ++ back) c
    have hrest := ih (front ++ (place front.length c).1)
    rw [List.length_append] at hrest
    simp only [placeAll, locationsAt, List.filterMap_cons, List.map_cons, List.append_assoc]
      at hfirst hrest ⊢
    rw [hfirst, hrest]

mutual

theorem sights_place (front back : List Slot) : (c : Component) →
    (place front.length c).1.map (Slot.sight (front ++ (place front.length c).1 ++ back)) =
      sightsOf c
  | ⟨location, kind, condition, props, bindings, icons, children⟩ => by
    have hbelow := sights_placeAll front
      (⟨location, kind, condition, props, bindings, icons,
        (placeAll front.length children).2⟩ :: back) children
    have hchildren := locationsAt_placeAll front
      (⟨location, kind, condition, props, bindings, icons,
        (placeAll front.length children).2⟩ :: back) children
    simp only [place, sightsOf, List.map_append, List.map_cons, List.map_nil, List.append_assoc,
      List.cons_append, List.nil_append] at hbelow hchildren ⊢
    rw [hbelow, Slot.sight, hchildren]

/-- **The components seen in an arena are those of the trees that it was laid out from.** -/
theorem sights_placeAll (front back : List Slot) : (cs : List Component) →
    (placeAll front.length cs).1.map (Slot.sight (front ++ (placeAll front.length cs).1 ++ back)) =
      sightsOfAll cs
  | [] => rfl
  | c :: rest => by
    have hfirst := sights_place front
      ((placeAll (front.length + (place front.length c).1.length) rest).1 ++ back) c
    have hrest := sights_placeAll (front ++ (place front.length c).1) back rest
    rw [List.length_append] at hrest
    simp only [placeAll, sightsOfAll, List.map_append, List.append_assoc] at hfirst hrest ⊢
    rw [hfirst, hrest]

end

theorem sights_arena (t : Template) : t.arena.sights = sightsOfAll t.components := by
  have h := sights_placeAll [] [] t.components
  rwa [List.nil_append, List.append_nil] at h

theorem tops_arena (t : Template) : t.arena.tops = t.components.map (·.location) := by
  have h := locationsAt_placeAll [] [] t.components
  rwa [List.nil_append, List.append_nil] at h

theorem locations_sights (cs : List Component) :
    ((sightsOfAll cs).map (·.location)).Perm ((Component.walkAll cs).map (·.location)) := by
  rw [← sights_placeAll [] [] cs, List.map_map]
  exact locations_placeAll 0 cs

end Template

/-! ### Documents that differ in one item -/

/-- A value under tags, the outermost first. -/
def Yaml.withTags : List String → Yaml → Yaml
  | [], v => v
  | tag :: rest, v => .tagged tag (withTags rest v)

/-- Two mappings that are the same but for one item, at a location below a key: of the list under
the key, or of a list of children further down. -/
inductive Yaml.Entries.DifferAt : String → Location → Yaml.Entries → Yaml.Entries → Prop where
  | item {key : String} {m m' : Yaml.Entries} {tags : List String} {before after : List Yaml}
      {item item' : Yaml} (hkeys : ∀ k, k ≠ key → m.get? k = m'.get? k)
      (hm : m.get? key = some (.withTags tags (.seq (before ++ item :: after))))
      (hm' : m'.get? key = some (.withTags tags (.seq (before ++ item' :: after)))) :
      DifferAt key [before.length] m m'
  | inside {key : String} {m m' : Yaml.Entries} {tags tags' : List String}
      {before after : List Yaml} {inner inner' : Yaml.Entries} {below : Location}
      (hkeys : ∀ k, k ≠ key → m.get? k = m'.get? k)
      (hm : m.get? key =
        some (.withTags tags (.seq (before ++ .withTags tags' (.map inner) :: after))))
      (hm' : m'.get? key =
        some (.withTags tags (.seq (before ++ .withTags tags' (.map inner') :: after))))
      (h : DifferAt "children" below inner inner') : DifferAt key (before.length :: below) m m'

/-- Mappings that differ in an item have lists in the same place, tagged alike. -/
theorem Yaml.Entries.DifferAt.lists {key : String} {below : Location} {m m' : Yaml.Entries}
    (h : Yaml.Entries.DifferAt key below m m') : below ≠ [] ∧ (∀ k, k ≠ key → m.get? k = m'.get? k) ∧
      ∃ tags items items', m.get? key = some (.withTags tags (.seq items)) ∧
        m'.get? key = some (.withTags tags (.seq items')) := by
  cases h with
  | item hkeys hm hm' => exact ⟨by simp, hkeys, _, _, _, hm, hm'⟩
  | inside hkeys hm hm' _ => exact ⟨by simp, hkeys, _, _, _, hm, hm'⟩

/-- The problems that do not lie at a path or further down. -/
def problemsOutside (path : String) (ps : List SyntaxProblem) : List SyntaxProblem :=
  ps.filter fun p => ¬ Under path p

theorem problemsOutside_append (path : String) (ps qs : List SyntaxProblem) :
    problemsOutside path (ps ++ qs) = problemsOutside path ps ++ problemsOutside path qs :=
  List.filter_append ..

namespace Template

/-- What is seen elsewhere than at a location or below it, without that location among children. -/
def sightsOutside (p : Location) (ss : List Sight) : List Sight :=
  (ss.filter fun s => ¬ p <+: s.location).map fun s =>
    { s with children := s.children.filter (· ≠ p) }

theorem sightsOutside_append (p : Location) (ss ss' : List Sight) :
    sightsOutside p (ss ++ ss') = sightsOutside p ss ++ sightsOutside p ss' := by
  rw [sightsOutside, List.filter_append, List.map_append]
  rfl

theorem sightsOutside_singleton {p : Location} {s : Sight} (h : ¬ p <+: s.location) :
    sightsOutside p [s] = [{ s with children := s.children.filter (· ≠ p) }] := by
  simp [sightsOutside, h]

namespace FromYaml

open Yaml

/-- What is read of two lists is the same but for what lies at a location or below it. -/
structure AlikeBut (p : Location) (x x' : Noted (List Component)) : Prop where
  sights : sightsOutside p (sightsOfAll x.value) = sightsOutside p (sightsOfAll x'.value)
  tops : (x.value.map (·.location)).filter (· ≠ p) = (x'.value.map (·.location)).filter (· ≠ p)
  problems : problemsOutside p.text x.problems = problemsOutside p.text x'.problems

namespace AlikeBut

theorem refl (p : Location) (x : Noted (List Component)) : AlikeBut p x x := ⟨rfl, rfl, rfl⟩

theorem append {p : Location} {x x' y y' : Noted (List Component)} (hx : AlikeBut p x x')
    (hy : AlikeBut p y y') :
    AlikeBut p ⟨x.value ++ y.value, x.problems ++ y.problems⟩
      ⟨x'.value ++ y'.value, x'.problems ++ y'.problems⟩ where
  sights := by
    simp only [sightsOfAll_append, sightsOutside_append, hx.sights, hy.sights]
  tops := by simp only [List.map_append, List.filter_append, hx.tops, hy.tops]
  problems := by simp only [problemsOutside_append, hx.problems, hy.problems]

end AlikeBut

/-- What is read of one item. -/
def readItem (limit left : Nat) (location : Location) (item : Yaml) : Noted (List Component) :=
  ⟨(component limit left location item).value.toList, (component limit left location item).problems⟩

/-- All that is read of an item lies at its location or below it. -/
theorem alike_readItem (limit left : Nat) {p : Location} (hp : p ≠ []) (item item' : Yaml) :
    AlikeBut p (readItem limit left p item) (readItem limit left p item') := by
  have hnothing : ∀ item, sightsOutside p (sightsOfAll (readItem limit left p item).value) = [] ∧
      ((readItem limit left p item).value.map (·.location)).filter (· ≠ p) = [] ∧
      problemsOutside p.text (readItem limit left p item).problems = [] := by
    intro item
    have hsettled : ∀ c ∈ (readItem limit left p item).value, c.Settled p := fun c hc =>
      settled_component (Option.mem_toList.1 hc)
    refine ⟨?_, ?_, ?_⟩
    · rw [sightsOutside, List.map_eq_nil_iff, List.filter_eq_nil_iff]
      intro s hs
      have hmem := (locations_sights _).mem_iff.1 (List.mem_map_of_mem (f := (·.location)) hs)
      obtain ⟨c, hc, hlocation⟩ := List.mem_map.1 hmem
      obtain ⟨root, hroot, hc⟩ := Component.mem_walkAll.1 hc
      have hunder : p <+: c.location := by
        have hs := hsettled root hroot
        rw [root.walk_eq] at hc
        rcases List.mem_cons.1 hc with rfl | hc
        · rw [hs.location]
        · obtain ⟨j, r, -, hl⟩ := hs.children.ascends.1 c hc
          rw [hl, hs.location]
          exact List.prefix_append ..
      simpa [← hlocation] using hunder
    · rw [List.filter_eq_nil_iff]
      intro l hl
      obtain ⟨c, hc, rfl⟩ := List.mem_map.1 hl
      simp [(hsettled c hc).location]
    · rw [problemsOutside, List.filter_eq_nil_iff]
      intro q hq
      simpa using under_component hp item q hq
  obtain ⟨hsights, htops, hproblems⟩ := hnothing item
  obtain ⟨hsights', htops', hproblems'⟩ := hnothing item'
  exact ⟨hsights.trans hsights'.symm, htops.trans htops'.symm, hproblems.trans hproblems'.symm⟩

/-- The fields of a component are read of the values under their keys alone. -/
theorem componentFields_congr {m m' : Entries} (h : ∀ k, k ≠ "children" → m.get? k = m'.get? k)
    (path : String) : componentFields m path = componentFields m' path := by
  have hblock : blockField m path = blockField m' path := by
    simp only [blockField, firstOf, h "block" (by decide), h "capabilityId" (by decide)]
  have hprops : propsField m path = propsField m' path := by
    simp only [propsField, h "props" (by decide)]
  have hbindings : bindingsField m path = bindingsField m' path := by
    simp only [bindingsField, h "on" (by decide)]
  have hicons : iconsField m path = iconsField m' path := by
    simp only [iconsField, h "icons" (by decide)]
  have hcondition : conditionField m path = conditionField m' path := by
    simp only [conditionField, firstOf, h "condition" (by decide), h "if" (by decide)]
  simp only [componentFields, hblock, hprops, hbindings, hicons, hcondition]

/-- What follows other items is read behind them. -/
theorem readItems_append (limit left : Nat) (above : Location) (items more : List Yaml) (i : Nat) :
    readItems limit left above (items ++ more) i =
      ⟨(readItems limit left above items i).value ++
          (readItems limit left above more (i + items.length)).value,
        (readItems limit left above items i).problems ++
          (readItems limit left above more (i + items.length)).problems⟩ := by
  induction items generalizing i with
  | nil => rfl
  | cons item rest ih =>
    rw [List.cons_append, readItems_cons, readItems_cons, ih (i + 1), List.length_cons,
      show i + 1 + rest.length = i + (rest.length + 1) by omega]
    simp only [List.append_assoc]

theorem itemsUnder_withTags {m : Entries} {key tag : String} {tags : List String} {v : Yaml}
    (h : m.get? key = some (.withTags (tag :: tags) v)) : (Yaml.map m).itemsUnder key = [] := by
  rw [itemsUnder, field?_map, h]
  rfl

theorem itemsUnder_seq {m : Entries} {key : String} {items : List Yaml}
    (h : m.get? key = some (.seq items)) : (Yaml.map m).itemsUnder key = items := by
  rw [itemsUnder, field?_map, h]

/-- Lists that differ in one item are read alike if that item is. -/
theorem alike_around {limit left : Nat} {above p : Location} {m m' : Entries} {key : String}
    {tags : List String} {before after : List Yaml} {item item' : Yaml}
    (hm : m.get? key = some (.withTags tags (.seq (before ++ item :: after))))
    (hm' : m'.get? key = some (.withTags tags (.seq (before ++ item' :: after))))
    (h : AlikeBut p (readItem limit left (above ++ [before.length]) item)
      (readItem limit left (above ++ [before.length]) item')) :
    AlikeBut p (readItems limit left above ((Yaml.map m).itemsUnder key) 0)
      (readItems limit left above ((Yaml.map m').itemsUnder key) 0) := by
  cases tags with
  | cons tag tags =>
    rw [itemsUnder_withTags hm, itemsUnder_withTags hm']
    exact .refl ..
  | nil =>
    rw [itemsUnder_seq hm, itemsUnder_seq hm', readItems_append, readItems_append, Nat.zero_add,
      readItems_cons, readItems_cons]
    exact .append (.refl ..) (.append h (.refl ..))

/-- What is noted about a list of children does not depend on what is in the list. -/
theorem childItems_withTags {m m' : Entries} {tags : List String} {items items' : List Yaml}
    (hm : m.get? "children" = some (.withTags tags (.seq items)))
    (hm' : m'.get? "children" = some (.withTags tags (.seq items'))) (path : String) :
    (childItems m path).value.isSome = (childItems m' path).value.isSome ∧
      (childItems m path).problems = (childItems m' path).problems := by
  cases tags <;> rw [childItems, childItems, hm, hm'] <;> exact ⟨rfl, rfl⟩

/-- A mapping that differs below is read the same itself. -/
theorem alike_map {limit left : Nat} {location below : Location} {m m' : Entries}
    (h : Entries.DifferAt "children" below m m')
    (hchildren : AlikeBut (location ++ below)
      (readItems limit left location ((Yaml.map m).itemsUnder "children") 0)
      (readItems limit left location ((Yaml.map m').itemsUnder "children") 0)) :
    AlikeBut (location ++ below) (readItem limit (left + 1) location (.map m))
      (readItem limit (left + 1) location (.map m')) := by
  obtain ⟨hbelow, hkeys, tags, items, items', hm, hm'⟩ := h.lists
  obtain ⟨hsome, hproblems⟩ := childItems_withTags hm hm' location.text
  have hfields := componentFields_congr hkeys location.text
  have hself : ¬ location ++ below <+: location := fun hp => by
    have := hp.length_le
    rw [List.length_append] at this
    exact hbelow (List.eq_nil_of_length_eq_zero (by omega))
  constructor
  · simp only [readItem, component_map, Option.toList_some, sightsOfAll, sightsOf, List.append_nil,
      sightsOutside_append, hchildren.sights, hfields, hsome]
    rw [sightsOutside_singleton hself, sightsOutside_singleton hself, hchildren.tops]
  · simp only [readItem, component_map, Option.toList_some, List.map_cons, List.map_nil]
  · simp only [readItem, component_map, problemsOutside_append, hchildren.problems, hfields,
      hproblems]

/-- **Items that differ in one place are read alike but for that place**, at any depth. -/
theorem alike_readItems {key : String} {below : Location} {m m' : Entries}
    (h : Entries.DifferAt key below m m') (limit left : Nat) (above : Location) :
    AlikeBut (above ++ below) (readItems limit left above ((Yaml.map m).itemsUnder key) 0)
      (readItems limit left above ((Yaml.map m').itemsUnder key) 0) := by
  induction h generalizing left above with
  | item hkeys hm hm' => exact alike_around hm hm' (alike_readItem limit left (by simp) _ _)
  | @inside key m m' tags tags' before after inner inner' below hkeys hm hm' h ih =>
    refine alike_around hm hm' ?_
    have happend : above ++ before.length :: below = (above ++ [before.length]) ++ below := by
      rw [List.append_assoc, List.singleton_append]
    rw [happend]
    cases left with
    | zero => exact .refl ..
    | succ left =>
      cases tags' with
      | nil => exact alike_map h (ih left _)
      | cons tag tags' =>
        -- under a tag the item cannot be used, whatever is in it
        exact .refl ..

/-! ### Documents -/

/-- The fields of a template are what its document's fields are read as. -/
theorem fields_document {depth : Nat} {doc : Entries} {t : Template}
    (h : (document depth doc).value = some t) :
    (nameField doc).value = some t.name ∧ (bootstrapField doc).value = some t.bootstrap ∧
      t.description = (descriptionField doc).value ∧ t.version = (versionField doc).value ∧
      t.components = (componentsField depth doc).value ∧ t.actions = (actionsField doc).value ∧
      t.events = (eventsField doc).value ∧ t.state = (stateField doc).value := by
  unfold document at h
  simp only [bind, Noted.andThen] at h
  split at h
  · rename_i hname hbootstrap
    cases h
    exact ⟨hname, hbootstrap, rfl, rfl, rfl, rfl, rfl, rfl⟩
  · cases h

/-- The readers of the fields of a document besides its components, together. -/
def ownFields (doc : Entries) : Noted (Option String) × Noted (Option Bootstrap) ×
    Noted (Option String) × Noted String × Noted (Table Action) × Noted (List EventBinding) ×
    Noted Value :=
  (nameField doc, bootstrapField doc, descriptionField doc, versionField doc, actionsField doc,
    eventsField doc, stateField doc)

/-- The fields of a document besides its components are read of the values under their keys. -/
theorem ownFields_congr {doc doc' : Entries}
    (h : ∀ k, k ≠ "components" → doc.get? k = doc'.get? k) : ownFields doc = ownFields doc' := by
  simp only [ownFields, nameField, bootstrapField, descriptionField, versionField, actionsField,
    eventsField, stateField, h "name" (by decide), h "bootstrap" (by decide),
    h "description" (by decide), h "version" (by decide), h "actions" (by decide),
    h "events" (by decide), h "state" (by decide)]

theorem alike_componentsField {p : Location} {doc doc' : Entries}
    (h : Entries.DifferAt "components" p doc doc') (depth : Nat) :
    AlikeBut p (componentsField depth doc) (componentsField depth doc') := by
  obtain ⟨-, -, tags, items, items', hm, hm'⟩ := h.lists
  cases tags with
  | nil =>
    have hitems := alike_readItems h depth depth []
    rw [itemsUnder_seq hm, itemsUnder_seq hm'] at hitems
    rw [componentsField, componentsField, hm, hm']
    exact hitems
  | cons tag tags =>
    rw [componentsField, componentsField, hm, hm']
    exact .refl ..

end FromYaml

open Yaml FromYaml

/-- **A template is the same outside an item that is changed.** For documents that differ in one
item and both give a template: name, description, version, bootstrap, actions, events and state are
the same; so are the components elsewhere than at the item and below it, with their children but
for the item; so are the roots but for the item; and so are the problems that do not lie at the
item or below it, in their order. -/
theorem alike_elsewhere {source source' : String} {depth : Nat} {doc doc' : Entries} {p : Location}
    {t t' : Template} (hread : Yaml.read source = .ok (.map doc))
    (hread' : Yaml.read source' = .ok (.map doc')) (hd : Entries.DifferAt "components" p doc doc')
    (h : (parse source depth).template = some t) (h' : (parse source' depth).template = some t') :
    t.name = t'.name ∧ t.description = t'.description ∧ t.version = t'.version ∧
      t.bootstrap = t'.bootstrap ∧ t.actions = t'.actions ∧ t.events = t'.events ∧
      t.state = t'.state ∧
      sightsOutside p t.arena.sights = sightsOutside p t'.arena.sights ∧
      t.arena.tops.filter (· ≠ p) = t'.arena.tops.filter (· ≠ p) ∧
      problemsOutside p.text (parse source depth).problems =
        problemsOutside p.text (parse source' depth).problems := by
  rw [parse_of_read hread] at h ⊢
  rw [parse_of_read hread'] at h' ⊢
  have hown := ownFields_congr hd.lists.2.1
  simp only [ownFields, Prod.mk.injEq] at hown
  obtain ⟨hname, hbootstrap, hdescription, hversion, hactions, hevents, hstate⟩ := hown
  have hcomponents := alike_componentsField hd depth
  obtain ⟨hn, hb, hd, hv, hc, ha, he, hs⟩ := fields_document h
  obtain ⟨hn', hb', hd', hv', hc', ha', he', hs'⟩ := fields_document h'
  refine ⟨?_, ?_, ?_, ?_, ?_, ?_, ?_, ?_, ?_, ?_⟩
  · exact Option.some.inj (hn.symm.trans ((congrArg Noted.value hname).trans hn'))
  · rw [hd, hd', hdescription]
  · rw [hv, hv', hversion]
  · exact Option.some.inj (hb.symm.trans ((congrArg Noted.value hbootstrap).trans hb'))
  · rw [ha, ha', hactions]
  · rw [he, he', hevents]
  · rw [hs, hs', hstate]
  · rw [sights_arena, sights_arena, hc, hc']
    exact hcomponents.sights
  · rw [tops_arena, tops_arena, hc, hc']
    exact hcomponents.tops
  · simp only [ofYaml, problems_document, problemsOutside_append, hname, hbootstrap, hdescription,
      hversion, hactions, hevents, hstate, hcomponents.problems]

/-- A number among the children of the first item gives way to a component with a problem. -/
theorem alike_elsewhere_child_replaced :
    let source := "name: a\nbootstrap: b\ncomponents: [{children: [c, 7, {props: 1}]}, 9]"
    let source' := "name: a\nbootstrap: b\ncomponents: [{children: [c, {on: 1}, {props: 1}]}, 9]"
    ∃ t t', (parse source 4).template = some t ∧ (parse source' 4).template = some t' ∧
      sightsOutside [0, 1] t.arena.sights = sightsOutside [0, 1] t'.arena.sights ∧
      problemsOutside "components[0].children[1]" (parse source 4).problems =
        problemsOutside "components[0].children[1]" (parse source' 4).problems := by
  let inner (item : Yaml) : Entries :=
    [(.str "children", .seq ([.str "c"] ++ item :: [.map [(.str "props", .int 1)]]))]
  let doc (item : Yaml) : Entries :=
    [(.str "name", .str "a"), (.str "bootstrap", .str "b"),
      (.str "components", .seq ([] ++ .map (inner item) :: [.int 9]))]
  have hread : Yaml.read "name: a\nbootstrap: b\ncomponents: [{children: [c, 7, {props: 1}]}, 9]" =
      .ok (.map (doc (.int 7))) := by
    rfl
  have hread' :
      Yaml.read "name: a\nbootstrap: b\ncomponents: [{children: [c, {on: 1}, {props: 1}]}, 9]" =
        .ok (.map (doc (.map [(.str "on", .int 1)]))) := by
    rfl
  have hkeys : ∀ k, k ≠ "components" →
      (doc (.int 7)).get? k = (doc (.map [(.str "on", .int 1)])).get? k := by
    intro k hk
    simp [doc, Entries.get?, Ne.symm hk]
  have hkeys' : ∀ k, k ≠ "children" →
      (inner (.int 7)).get? k = (inner (.map [(.str "on", .int 1)])).get? k := by
    intro k hk
    simp [inner, Entries.get?, Ne.symm hk]
  have hlist : ∀ item, (doc item).get? "components" =
      some (withTags [] (.seq ([] ++ withTags [] (.map (inner item)) :: [.int 9]))) := fun _ => rfl
  have hlist' : ∀ item, (inner item).get? "children" =
      some (withTags [] (.seq ([.str "c"] ++ item :: [.map [(.str "props", .int 1)]]))) :=
    fun _ => rfl
  have hd : Entries.DifferAt "components" [0, 1] (doc (.int 7))
      (doc (.map [(.str "on", .int 1)])) :=
    .inside hkeys (hlist _) (hlist _) (.item hkeys' (hlist' _) (hlist' _))
  obtain ⟨t, ht⟩ := Option.isSome_iff_exists.1
    (show (ofYaml 4 (.map (doc (.int 7)))).template.isSome = true by rfl)
  obtain ⟨t', ht'⟩ := Option.isSome_iff_exists.1
    (show (ofYaml 4 (.map (doc (.map [(.str "on", .int 1)])))).template.isSome = true by rfl)
  rw [← parse_of_read hread] at ht
  rw [← parse_of_read hread'] at ht'
  obtain ⟨-, -, -, -, -, -, -, hsights, -, hproblems⟩ := alike_elsewhere hread hread' hd ht ht'
  exact ⟨t, t', ht, ht', hsights, hproblems⟩

end Template

end LivePanel
