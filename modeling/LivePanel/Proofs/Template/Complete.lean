import LivePanel.Proofs.Template.Misfits

/-!
# Every misfit is noted

Actions lie in actions: under fields that hold steps, in lists of steps and in branches. What is
noted about one is noted about the one around it, so up to the document. With the fields of
components, events and the document itself this covers all fields that are consulted.

## What is proved

* `notes_step`: what is no step is noted where it stands.
* `problems_of_usable`: what is noted about an action that can be used is what is noted about its
  fields.
* `notes_action`, `notes_branch`, `notes_eventItem`, `notes_document`: each field of an action,
  branch, event entry or document with a value that does not fit is noted at that part.
* `subset_of_standsAt`: what is noted about a step, however deep, is noted about the document.
* `misfits_noted`: every field that is consulted and has a value that is not allowed is noted in
  the part that has it, the place of an answer apart. `storeAs_dropped`: that one is dropped.
-/

namespace LivePanel

open SyntaxProblem Yaml Noted

namespace Template.FromYaml

/-! ### Steps -/

theorem subset_stepItems {items : List Yaml} {i : Nat} {v : Yaml} (hi : items[i]? = some v)
    (path : String) (k : Nat) :
    (step v (indexed path (k + i))).problems ⊆ (stepItems items path k).problems := by
  induction items generalizing i k with
  | nil => cases hi
  | cons first rest ih =>
    rw [stepItems]
    cases i with
    | zero =>
      obtain rfl := Option.some.inj hi
      exact List.subset_append_left ..
    | succ i =>
      rw [show k + (i + 1) = k + 1 + i by omega]
      exact List.Subset.trans (ih hi (k + 1)) (List.subset_append_right ..)

theorem problems_step_seq (items : List Yaml) (path : String) :
    (step (.seq items) path).problems = (stepItems items path 0).problems := by
  rw [step]

theorem problems_step_map (m : Entries) (path : String) :
    step (.map m) path = actionOfEntries m path := by
  rw [step]

/-- **What is no step is noted where it stands.** -/
theorem notes_step {v : Yaml} (h : ¬ v.IsStep) (path : String) : (step v path).Notes path := by
  induction hn : sizeOf v using Nat.strongRecOn generalizing v path with
  | ind n ih =>
    subst hn
    cases v with
    | map m => exact absurd (.described m) h
    | str name =>
      have hname : name.isEmpty = true := by
        rw [String.isEmpty_iff]
        exact by_contra fun hne => h (.call hne)
      rw [step, if_pos hname]
      exact notes_problem ..
    | seq items =>
      obtain ⟨i, item, hi, hbad⟩ := exists_getElem?_of_not_forall fun hall => h (.list hall)
      have hlt : sizeOf item < sizeOf (Yaml.seq items) := by
        have := List.sizeOf_lt_of_mem (List.mem_of_getElem? hi)
        simp only [Yaml.seq.sizeOf_spec]
        omega
      have hitem := ih _ hlt hbad (indexed path (0 + i)) rfl
      rw [Notes, problems_step_seq]
      refine (hitem.mono ?_).of_subset (subset_stepItems hi path 0)
      rw [indexed_eq]
      exact prefix_append ..
    | _ =>
      rw [step]
      · exact notes_problem ..
      all_goals
        intro _ h
        cases h

/-- The steps under a field are read as one step would be. -/
theorem problems_stepsField {m : Entries} {key : String} {v : Yaml} (h : m.get? key = some v)
    (hn : v ≠ .null) (path : String) :
    (stepsField m key path).problems = (step v (path ++ "." ++ key)).problems := by
  unfold stepsField
  split
  · simp_all
  · simp_all
  · rename_i items hget
    rw [h] at hget
    obtain rfl := Option.some.inj hget
    rw [problems_step_seq]
  · rename_i single _ _ hget
    rw [h] at hget
    obtain rfl := Option.some.inj hget
    rfl

/-! ### Actions -/

/-- What is noted about a field of an action that can be used. -/
def notedOf (m : Entries) (path : String) : Field → List SyntaxProblem
  | .value => (jsonField m "value" path).problems
  | .payload => (jsonField m "payload" path).problems
  | .context => (jsonField m "context" path).problems
  | .branches => (branchesField m path).problems
  | .onSuccess => (stepsField m "onSuccess" path).problems
  | .steps => (stepsField m "steps" path).problems
  | .following => (stepsField m "then" path).problems
  | _ => []

theorem exists_of_typeOf? {m : Entries} {t : ActionType} (h : typeOf? m = some t) :
    ∃ name, (m.get? "type").bind asStr? = some name ∧ actionType? name = some t :=
  Option.bind_eq_some_iff.1 h

/-- A text that is required and there is read. -/
theorem stringField_of_allows {m : Entries} {names : List String} {key : String} {v : Yaml}
    (h : (Yaml.map m).firstField? names = some (key, v))
    (ha : ∃ s, v = .str s ∧ Text.allBlank s = false) (path : String) :
    ∃ s, stringField m names path = .clean (some s) := by
  obtain ⟨s, rfl, hs⟩ := ha
  rw [firstField?_map] at h
  refine ⟨s, ?_⟩
  simp only [stringField, h, hs, Bool.false_eq_true, if_false]

/-- A text that is required and is another value is noted. -/
theorem notes_stringField {m : Entries} {names : List String} {key : String} {v : Yaml}
    (h : (Yaml.map m).firstField? names = some (key, v))
    (ha : ¬ ∃ s, v = .str s ∧ Text.allBlank s = false) (path : String) :
    (stringField m names path).value = none ∧
      (stringField m names path).Notes (path ++ "." ++ key) := by
  rw [firstField?_map] at h
  unfold stringField
  rw [h]
  cases v with
  | str s =>
    have hs : Text.allBlank s = true := by
      simpa using ha
    simp only [hs, if_true]
    exact ⟨rfl, notes_problem ..⟩
  | _ => exact ⟨rfl, notes_problem ..⟩

/-- **What is noted about an action that can be used is what is noted about its fields.** -/
theorem problems_of_usable {m : Entries} {t : ActionType} (hu : Usable m t) (path : String) :
    (actionOfEntries m path).problems = (furtherFields t).flatMap (notedOf m path) := by
  obtain ⟨name, hname, ht⟩ := exists_of_typeOf? hu.type
  rw [actionOfEntries]
  simp only [hname, ht]
  cases t with
  | setState =>
    obtain ⟨key, v, hv, ha⟩ := hu.required _ rfl
    obtain ⟨s, hs⟩ := stringField_of_allows hv ha path
    simp [Field.names] at hs
    simp [hs, bind, Noted.andThen, pure, Noted.clean, furtherFields, notedOf]
  | send =>
    obtain ⟨key, v, hv, ha⟩ := hu.required _ rfl
    obtain ⟨s, hs⟩ := stringField_of_allows hv ha path
    simp [Field.names] at hs
    simp [hs, bind, Noted.andThen, pure, Noted.clean, furtherFields, notedOf]
  | branch => simp [bind, Noted.andThen, pure, Noted.clean, furtherFields, notedOf]
  | request =>
    obtain ⟨key, v, hv, ha⟩ := hu.required _ rfl
    obtain ⟨s, hs⟩ := stringField_of_allows hv ha path
    simp [Field.names] at hs
    simp [hs, bind, Noted.andThen, pure, Noted.clean, furtherFields, notedOf]
  | sequence => simp [bind, Noted.andThen, pure, Noted.clean, furtherFields, notedOf]

/-- A text that an action requires and that is another value is noted. -/
theorem notes_required {m : Entries} {t : ActionType} {f : Field} (ht : typeOf? m = some t)
    (hf : requiredField t = some f) {key : String} {v : Yaml}
    (hv : (Yaml.map m).firstField? f.names = some (key, v)) (ha : ¬ f.Allows v) (path : String) :
    (actionOfEntries m path).Notes (path ++ "." ++ key) := by
  obtain ⟨name, hname, ht⟩ := exists_of_typeOf? ht
  rw [actionOfEntries]
  simp only [hname, ht]
  cases t with
  | setState =>
    obtain rfl := Option.some.inj hf
    obtain ⟨hnone, hnotes⟩ := notes_stringField hv ha path
    simp only [Field.names] at hnone hnotes
    exact hnotes.of_subset (by simp [hnone, bind, Noted.andThen, pure, Noted.clean])
  | send =>
    obtain rfl := Option.some.inj hf
    obtain ⟨hnone, hnotes⟩ := notes_stringField hv ha path
    simp only [Field.names] at hnone hnotes
    exact hnotes.of_subset (by simp [hnone, bind, Noted.andThen, pure, Noted.clean])
  | request =>
    obtain rfl := Option.some.inj hf
    obtain ⟨hnone, hnotes⟩ := notes_stringField hv ha path
    simp only [Field.names] at hnone hnotes
    exact hnotes.of_subset (by simp [hnone, bind, Noted.andThen, pure, Noted.clean])
  | branch => cases hf
  | sequence => cases hf

/-- A type that is not known is noted, and so is one that is no text. -/
theorem notes_type {m : Entries} {key : String} {v : Yaml}
    (hv : (Yaml.map m).firstField? Field.type.names = some (key, v)) (ha : ¬ Field.type.Allows v)
    (path : String) : (actionOfEntries m path).Notes (path ++ "." ++ key) := by
  obtain ⟨rfl, hget⟩ := firstField?_one.1 hv
  rw [field?_map] at hget
  rw [String.append_assoc]
  rw [actionOfEntries]
  simp only [hget, Option.bind_some]
  cases hs : v.asStr? with
  | none => exact notes_problem ..
  | some name =>
    have ht : actionType? name = none := by
      rw [← Option.not_isSome_iff_eq_none]
      exact fun ht => ha ⟨name, hs, ht⟩
    simp only [ht]
    exact notes_problem ..

theorem notes_jsonField {m : Entries} {key : String} {v : Yaml} (h : m.get? key = some v)
    (hp : ¬ v.Plain) (path : String) : (jsonField m key path).Notes (path ++ "." ++ key) := by
  simp only [jsonField, h]
  exact (notes_jsonOf hp _).of_subset (List.Subset.refl _)

theorem notes_stepsField {m : Entries} {key : String} {v : Yaml} (h : m.get? key = some v)
    (hn : v ≠ .null) (hs : ¬ v.IsStep) (path : String) :
    (stepsField m key path).Notes (path ++ "." ++ key) :=
  (notes_step hs _).of_subset (problems_stepsField h hn path ▸ List.Subset.refl _)

/-! ### Branches -/

theorem problems_branchItems_cons (item : Yaml) (rest : List Yaml) (path : String) (i : Nat) :
    (branchItems (item :: rest) path i).problems =
      (branchItems [item] path i).problems ++ (branchItems rest path (i + 1)).problems := by
  have hnil : (branchItems [] path (i + 1)).problems = [] := by
    rw [branchItems]
    rfl
  rw [branchItems.eq_def (item :: rest), branchItems.eq_def [item]]
  dsimp only
  rw [hnil, List.append_nil]

/-- What is noted about a branch is noted about the list that it is in. -/
theorem subset_branchItems {items : List Yaml} {i : Nat} {item : Yaml} (hi : items[i]? = some item)
    (path : String) (k : Nat) :
    (branchItems [item] path (k + i)).problems ⊆ (branchItems items path k).problems := by
  induction items generalizing i k with
  | nil => cases hi
  | cons first rest ih =>
    rw [problems_branchItems_cons first rest]
    cases i with
    | zero =>
      obtain rfl := Option.some.inj hi
      exact List.subset_append_left ..
    | succ i =>
      rw [show k + (i + 1) = k + 1 + i by omega]
      exact List.Subset.trans (ih hi (k + 1)) (List.subset_append_right ..)

theorem field?_of_not_map {v : Yaml} (h : ¬ ∃ m, v.untagged = .map m) (key : String) :
    v.field? key = none := by
  unfold field?
  split
  · exact absurd ⟨_, ‹_›⟩ h
  · rfl

theorem whenOf?_of_allows {item cond : Yaml} (hw : item.field? "when" = some cond)
    (hc : Field.when.Allows cond) : (whenOf? item).isSome := by
  obtain ⟨s, rfl⟩ | ⟨b, rfl⟩ := hc
  · simp [whenOf?, hw]
  · cases b <;> simp [whenOf?, hw]

theorem whenOf?_of_not {item : Yaml}
    (h : ∀ cond, item.field? "when" = some cond → ¬ Field.when.Allows cond) :
    whenOf? item = none := by
  unfold whenOf?
  split
  · exact absurd (.inl ⟨_, rfl⟩) (h _ ‹_›)
  · exact absurd (.inr ⟨_, rfl⟩) (h _ ‹_›)
  · exact absurd (.inr ⟨_, rfl⟩) (h _ ‹_›)
  · rfl

/-- A branch without a condition that can be used is noted. -/
theorem notes_branch_of_when {item : Yaml} (h : whenOf? item = none) (path : String) (i : Nat) :
    (branchItems [item] path i).Notes (indexed path i) := by
  rw [branchItems, h]
  exact (notes_problem (indexed path i) _ (none : Option (String × Action))).of_subset
    (List.subset_append_left ..)

/-- Under a condition the step of a branch is read, and what is noted about it is kept. -/
theorem subset_branch {item v : Yaml} (hw : (whenOf? item).isSome)
    (ha : item.field? "action" = some v) (path : String) (i : Nat) :
    (step v (indexed path i ++ ".action")).problems ⊆ (branchItems [item] path i).problems := by
  obtain ⟨cond, hcond⟩ := Option.isSome_iff_exists.1 hw
  rw [branchItems, hcond]
  refine List.Subset.trans ?_ (List.subset_append_left ..)
  dsimp only
  split
  · rename_i hnone
    rw [ha] at hnone
    cases hnone
  · rename_i w hw
    rw [ha] at hw
    obtain rfl := Option.some.inj hw
    split
    · exact List.Subset.refl _
    · exact List.subset_append_left ..

/-- **A branch whose condition or step does not fit is noted.** -/
theorem notes_branch {item : Yaml} {f : Field} (hf : f ∈ [Field.when, .outcome]) {key : String}
    {v : Yaml} (hv : item.firstField? f.names = some (key, v)) (ha : ¬ f.Allows v) (path : String)
    (i : Nat) : (branchItems [item] path i).Notes (indexed path i) := by
  simp only [List.mem_cons, List.not_mem_nil, or_false] at hf
  rcases hf with rfl | rfl
  · obtain ⟨rfl, hget⟩ := firstField?_one.1 hv
    refine notes_branch_of_when (whenOf?_of_not fun cond hcond => ?_) path i
    rw [hget] at hcond
    obtain rfl := Option.some.inj hcond
    exact ha
  · obtain ⟨rfl, hget⟩ := firstField?_one.1 hv
    cases hw : whenOf? item with
    | none => exact notes_branch_of_when hw path i
    | some cond =>
      exact ((notes_step ha (indexed path i ++ ".action")).mono (prefix_append ..)).of_subset
        (subset_branch (by simp [hw]) hget path i)

theorem branchesField_seq {m : Entries} {items : List Yaml} (h : m.get? "branches" = some (.seq items))
    (path : String) : branchesField m path = branchItems items (path ++ ".branches") 0 := by
  unfold branchesField
  split
  · simp_all
  · rename_i items' hget
    rw [h] at hget
    obtain rfl := Yaml.seq.inj (Option.some.inj hget)
    rfl
  · rename_i hnot hget
    rw [h] at hget
    exact absurd (Option.some.inj hget).symm (hnot items)

theorem notes_branchesField {m : Entries} {v : Yaml} (h : m.get? "branches" = some v)
    (ha : ¬ Field.branches.Allows v) (path : String) :
    (branchesField m path).Notes (path ++ ".branches") := by
  cases v with
  | seq items =>
    obtain ⟨i, item, hi, hbad⟩ := exists_getElem?_of_not_forall fun hall => ha ⟨items, rfl, hall⟩
    have hwhen : whenOf? item = none := by
      simp [whenOf?, field?_of_not_map hbad]
    rw [branchesField_seq h]
    refine ((notes_branch_of_when hwhen _ _).mono ?_).of_subset (subset_branchItems hi _ 0)
    rw [indexed_eq]
    exact prefix_append ..
  | _ =>
    unfold branchesField
    split
    · simp_all
    · simp_all
    · exact notes_problem ..

/-! ### Fields of an action -/

/-- **Every field of an action that has a value of a shape that is not allowed is noted**, the
place of an answer apart. -/
theorem notes_action {m : Entries} {f : Field} (hf : f.OfAction m) (hs : f ≠ .storeAs)
    {key : String} {v : Yaml} (hv : (Yaml.map m).firstField? f.names = some (key, v))
    (hn : v ≠ .null) (ha : ¬ f.Allows v) (path : String) :
    (actionOfEntries m path).Notes (path ++ "." ++ key) := by
  cases hf with
  | type => exact notes_type hv ha path
  | required ht hreq => exact notes_required ht hreq hv ha path
  | further hu hf =>
    rename_i t
    have hnotes : ∃ p ∈ notedOf m path f, Under (path ++ "." ++ key) p := by
      have hone : ∀ {name : String}, f.names = [name] → key = name ∧ m.get? name = some v := by
        intro name hname
        rw [hname, firstField?_one, field?_map] at hv
        exact hv
      have hfields : f ∈ [Field.value, .payload, .context, .branches, .onSuccess, .steps,
          .following] := by
        cases t <;> simp [furtherFields] at hf ⊢ <;> grind
      simp only [List.mem_cons, List.not_mem_nil, or_false] at hfields
      rcases hfields with rfl | rfl | rfl | rfl | rfl | rfl | rfl
      · obtain ⟨rfl, hget⟩ := hone rfl
        exact notes_jsonField hget ha path
      · obtain ⟨rfl, hget⟩ := hone rfl
        exact notes_jsonField hget ha path
      · obtain ⟨rfl, hget⟩ := hone rfl
        exact notes_jsonField hget ha path
      · obtain ⟨rfl, hget⟩ := hone rfl
        rw [String.append_assoc]
        exact notes_branchesField hget ha path
      · obtain ⟨rfl, hget⟩ := hone rfl
        exact notes_stepsField hget hn ha path
      · obtain ⟨rfl, hget⟩ := hone rfl
        exact notes_stepsField hget hn ha path
      · obtain ⟨rfl, hget⟩ := hone rfl
        exact notes_stepsField hget hn ha path
    obtain ⟨p, hp, hunder⟩ := hnotes
    refine ⟨p, ?_, hunder⟩
    rw [problems_of_usable hu]
    exact List.mem_flatMap.2 ⟨f, hf, hp⟩

/-! ### Steps that are read -/

theorem subset_namedActions {entries : Entries} {k v : Yaml} {name : String}
    (h : (k, v) ∈ entries) (hk : k.asStr? = some name) (hne : name ≠ "") (acc : Table Action) :
    (action v ("actions." ++ name)).problems ⊆ (namedActions acc entries).problems := by
  induction entries generalizing acc with
  | nil => exact absurd h List.not_mem_nil
  | cons first rest ih =>
    rw [namedActions]
    rcases List.mem_cons.1 h with heq | h
    · obtain ⟨rfl, rfl⟩ := Prod.mk.inj heq.symm
      simp only [hk, String.isEmpty_iff, hne, if_false]
      exact List.subset_append_left ..
    · split
      · exact List.Subset.trans (ih h acc) (List.subset_append_right ..)
      · split
        · exact List.Subset.trans (ih h acc) (List.subset_append_right ..)
        · exact List.Subset.trans (ih h _) (List.subset_append_right ..)

theorem action_eq_step {v : Yaml} (h : (∃ m, v = .map m) ∨ ∃ items, v = .seq items) (path : String) :
    action v path = step v path := by
  obtain ⟨m, rfl⟩ | ⟨items, rfl⟩ := h <;> rw [action, step]

theorem actionsField_map {doc m : Entries} (h : doc.get? "actions" = some (.map m)) :
    actionsField doc = namedActions [] m := by
  simp only [actionsField, h]

/-- What is noted about a branch is noted about the action that it belongs to. -/
theorem subset_step_of_branches {m : Entries} {items : List Yaml} {i : Nat} {item : Yaml}
    {path : String} (hu : Usable m .branch) (hb : m.get? "branches" = some (.seq items))
    (hi : items[i]? = some item) :
    (branchItems [item] (path ++ ".branches") i).problems ⊆ (step (.map m) path).problems := by
  have hitems := subset_branchItems hi (path ++ ".branches") 0
  rw [Nat.zero_add, ← branchesField_seq hb] at hitems
  rw [problems_step_map, problems_of_usable hu]
  exact fun p hp => List.mem_flatMap.2 ⟨.branches, by simp [furtherFields], hitems hp⟩

/-- **What is noted about a step that is read is noted about the document.** -/
theorem subset_of_standsAt {doc : Entries} {path : String} {v : Yaml} (h : StandsAt doc path v) :
    (step v path).problems ⊆ (actionsField doc).problems := by
  induction h with
  | named hm hv hk hne ha =>
    rw [actionsField_map hm, ← action_eq_step ha]
    exact subset_namedActions hv hk hne []
  | @item path items i v _ hi ih =>
    refine List.Subset.trans ?_ ih
    rw [problems_step_seq]
    simpa using subset_stepItems hi path 0
  | @under path key m t f v _ hu hf hs hv hn ih =>
    refine List.Subset.trans ?_ ih
    rw [problems_step_map, problems_of_usable hu]
    have hnoted : notedOf m path f = (stepsField m key path).problems ∧ m.get? key = some v := by
      rcases hs with rfl | rfl | rfl <;>
        · obtain ⟨rfl, hget⟩ := firstField?_one.1 hv
          exact ⟨rfl, field?_map m _ ▸ hget⟩
    rw [← problems_stepsField hnoted.2 hn, ← hnoted.1]
    exact fun p hp => List.mem_flatMap.2 ⟨f, hf, hp⟩
  | @branch path m items i item cond v _ hu hb hi hw hc ha ih =>
    refine List.Subset.trans ?_ (List.Subset.trans (subset_step_of_branches hu hb hi) ih)
    exact subset_branch (whenOf?_of_allows hw hc) ha _ _

/-! ### Fields of the document -/

/-- An event entry whose event or action is no text is noted. -/
theorem notes_eventItem {item : Yaml} {f : Field} (hf : f ∈ [Field.event, .run]) {key : String}
    {v : Yaml} (hv : item.firstField? f.names = some (key, v)) (ha : ¬ f.Allows v) (i : Nat) :
    (eventItem item i).Notes (indexed "events" i) := by
  have hnone : v.asStr? = none := by
    cases hs : v.asStr? with
    | none => rfl
    | some s =>
      simp only [List.mem_cons, List.not_mem_nil, or_false] at hf
      rcases hf with rfl | rfl <;> exact absurd ⟨s, hs⟩ ha
  unfold eventItem
  dsimp only
  split
  · rename_i event run hevent hrun
    exfalso
    simp only [List.mem_cons, List.not_mem_nil, or_false] at hf
    rcases hf with rfl | rfl
    · have hfirst : (item.field? "event").or (item.field? "on") = some v := by
        simp only [Field.names, firstField?, List.findSome?_cons, List.findSome?_nil] at hv
        cases he : item.field? "event" <;> cases ho : item.field? "on" <;> simp_all
      rw [hfirst, Option.bind_some, hnone] at hevent
      cases hevent
    · obtain ⟨rfl, hget⟩ := firstField?_one.1 hv
      rw [hget, Option.bind_some, hnone] at hrun
      cases hrun
  · exact notes_problem ..

theorem eventsField_seq {doc : Entries} {items : List Yaml}
    (h : doc.get? "events" = some (.seq items)) :
    eventsField doc = collect (items.zipIdx.map fun (item, i) => eventItem item i) := by
  simp only [eventsField, h]

theorem subset_eventItem {doc : Entries} {items : List Yaml} {i : Nat} {item : Yaml}
    (h : doc.get? "events" = some (.seq items)) (hi : items[i]? = some item) :
    (eventItem item i).problems ⊆ (eventsField doc).problems := by
  rw [eventsField_seq h]
  exact subset_collect
    (List.mem_map.2 ⟨(item, i), List.mem_zipIdx_iff_getElem?.2 hi, rfl⟩)

theorem notes_namedActions_of_name {entries : Entries} {k v : Yaml} (h : (k, v) ∈ entries)
    (hk : ¬ ∃ name, k.asStr? = some name ∧ name ≠ "") (acc : Table Action) :
    (namedActions acc entries).Notes "actions" := by
  have hself : (Noted.problem "actions" "action names must be non-empty strings" ()).Notes
      "actions" := notes_problem ..
  induction entries generalizing acc with
  | nil => exact absurd h List.not_mem_nil
  | cons first rest ih =>
    rw [namedActions]
    rcases List.mem_cons.1 h with heq | h
    · obtain ⟨rfl, rfl⟩ := Prod.mk.inj heq.symm
      split
      · exact hself.of_subset (List.subset_append_left ..)
      · rename_i name hname
        have hempty : name = "" := by_contra fun hne => hk ⟨name, hname, hne⟩
        rw [if_pos (by simp [hempty])]
        exact hself.of_subset (List.subset_append_left ..)
    · split
      · exact (ih h acc).of_subset (List.subset_append_right ..)
      · split
        · exact (ih h acc).of_subset (List.subset_append_right ..)
        · exact (ih h _).of_subset (List.subset_append_right ..)

/-- An action without a name that can be used, or that is no action, is noted. -/
theorem notes_namedActions {entries : Entries} {e : Yaml × Yaml} (he : e ∈ entries)
    (ha : ¬ ((∃ name, e.1.asStr? = some name ∧ name ≠ "") ∧ (∀ name, e.2 ≠ .str name) ∧ e.2.IsStep))
    (acc : Table Action) : (namedActions acc entries).Notes "actions" := by
  obtain ⟨k, v⟩ := e
  by_cases hname : ∃ name, k.asStr? = some name ∧ name ≠ ""
  · obtain ⟨name, hk, hne⟩ := hname
    have hnotes : (action v ("actions." ++ name)).Notes ("actions." ++ name) := by
      by_cases hplain : (∃ m, v = .map m) ∨ ∃ items, v = .seq items
      · rw [action_eq_step hplain]
        refine notes_step (fun hs => ha ⟨⟨name, hk, hne⟩, ?_, hs⟩) _
        obtain ⟨m, rfl⟩ | ⟨items, rfl⟩ := hplain <;> exact fun _ h => nomatch h
      · unfold action
        split
        · exact absurd (.inl ⟨_, rfl⟩) hplain
        · exact absurd (.inr ⟨_, rfl⟩) hplain
        · exact notes_problem ..
    have hactions : "actions".toList <+: "actions.".toList := by decide
    refine (hnotes.mono ?_).of_subset (subset_namedActions he hk hne acc)
    rw [String.toList_append]
    exact hactions.trans (List.prefix_append ..)
  · exact notes_namedActions_of_name he hname acc

/-- What is noted about the document is all that is noted about its parts. -/
theorem subset_document (depth : Nat) (doc : Entries) :
    (descriptionField doc).problems ⊆ (document depth doc).problems ∧
    (versionField doc).problems ⊆ (document depth doc).problems ∧
    (componentsField depth doc).problems ⊆ (document depth doc).problems ∧
    (actionsField doc).problems ⊆ (document depth doc).problems ∧
    (eventsField doc).problems ⊆ (document depth doc).problems ∧
    (stateField doc).problems ⊆ (document depth doc).problems := by
  rw [problems_document]
  refine ⟨?_, ?_, ?_, ?_, ?_, ?_⟩ <;> intro p hp <;> simp [hp]

/-- **Every field of the document that has a value of a shape that is not allowed is noted.** -/
theorem notes_document (depth : Nat) {doc : Entries} {f : Field} (hf : f ∈ documentFields)
    {key : String} {v : Yaml} (hv : (Yaml.map doc).firstField? f.names = some (key, v))
    (hn : v ≠ .null) (ha : ¬ f.Allows v) : (document depth doc).Notes key := by
  obtain ⟨hdescription, hversion, hcomponents, hactions, hevents, hstate⟩ :=
    subset_document depth doc
  have hone : ∀ {name : String}, f.names = [name] → key = name ∧ doc.get? name = some v := by
    intro name hname
    rw [hname, firstField?_one, field?_map] at hv
    exact hv
  simp only [documentFields, List.mem_cons, List.not_mem_nil, or_false] at hf
  rcases hf with rfl | rfl | rfl | rfl | rfl | rfl
  · obtain ⟨rfl, hget⟩ := hone rfl
    refine Notes.of_subset ?_ hdescription
    unfold descriptionField
    rw [hget]
    cases v with
    | null => exact absurd rfl hn
    | str s => exact absurd ⟨s, rfl⟩ ha
    | _ => exact notes_problem ..
  · obtain ⟨rfl, hget⟩ := hone rfl
    refine Notes.of_subset ?_ hversion
    unfold versionField
    rw [hget]
    cases v with
    | null => exact absurd rfl hn
    | str s => exact absurd (.inl ⟨s, rfl⟩) ha
    | int n => exact absurd (.inr (.inl ⟨n, rfl⟩)) ha
    | real r => exact absurd (.inr (.inr ⟨r, rfl⟩)) ha
    | _ => exact notes_problem ..
  · obtain ⟨rfl, hget⟩ := hone rfl
    refine Notes.of_subset ?_ hcomponents
    unfold componentsField
    rw [hget]
    cases v with
    | null => exact absurd rfl hn
    | seq items =>
      obtain ⟨i, hi⟩ := notes_readItems depth depth [] fun hall => ha ⟨items, rfl, hall⟩
      have hcomponents : "components".toList <+: "components[".toList := by decide
      refine hi.mono ?_
      rw [List.nil_append, Location.toList_text_cons]
      exact hcomponents.trans (List.prefix_append ..)
    | _ => exact notes_problem ..
  · obtain ⟨rfl, hget⟩ := hone rfl
    refine Notes.of_subset ?_ hactions
    unfold actionsField
    rw [hget]
    cases v with
    | null => exact absurd rfl hn
    | map entries =>
      obtain ⟨i, e, hi, hbad⟩ := exists_getElem?_of_not_forall fun hall => ha ⟨entries, rfl, hall⟩
      exact notes_namedActions (List.mem_of_getElem? hi) hbad []
    | _ => exact notes_problem ..
  · obtain ⟨rfl, hget⟩ := hone rfl
    refine Notes.of_subset ?_ hevents
    cases v with
    | null => exact absurd rfl hn
    | seq items =>
      obtain ⟨i, item, hi, hbad⟩ := exists_getElem?_of_not_forall fun hall => ha ⟨items, rfl, hall⟩
      have hevent : (eventItem item i).Notes "events" := by
        have hitem : (eventItem item i).Notes (indexed "events" i) := by
          simp [eventItem, field?_of_not_map hbad]
          exact notes_problem ..
        refine hitem.mono ?_
        rw [indexed_eq]
        exact prefix_append ..
      exact hevent.of_subset (subset_eventItem hget hi)
    | _ =>
      unfold eventsField
      rw [hget]
      exact notes_problem ..
  · obtain ⟨rfl, hget⟩ := hone rfl
    refine Notes.of_subset ?_ hstate
    unfold stateField
    rw [hget]
    cases v with
    | null => exact absurd rfl hn
    | map entries => exact notes_jsonOf (fun hp => ha ⟨⟨_, rfl⟩, hp⟩) _
    | _ => exact notes_problem ..

/-- What is noted about a component, however deep, is noted about the document. -/
theorem notes_of_component {depth : Nat} {doc : Entries} {location : Location} {m : Entries}
    (hi : (Yaml.map doc).itemAt? location = some (.map m)) (hl : location.length ≤ depth)
    {f : Field} (hf : f ∈ fieldsOfComponent) {key : String} {v : Yaml}
    (hv : (Yaml.map m).firstField? f.names = some (key, v)) (hn : v ≠ .null) (ha : ¬ f.Allows v) :
    (document depth doc).Notes (location.text ++ f.site key) := by
  have hne : location ≠ [] := by
    rintro rfl
    cases hi
  have hleft : depth + 1 - location.length = depth - location.length + 1 := by omega
  have hproblems := problemsUnder_itemAt hi (Nat.le_succ_of_le hl)
  rw [hleft] at hproblems
  refine (notes_component depth (depth - location.length) hne hf hv hn ha).of_subset ?_
  rw [← hproblems]
  exact List.filter_subset_self _

/-- **Every field that is consulted is noted if it does not fit.** -/
theorem notes_of_consults {depth : Nat} {doc : Entries} {place : String} {part : Yaml} {f : Field}
    (hc : Consults depth doc place part f) (hs : f ≠ .storeAs) {key : String} {v : Yaml}
    (hv : part.firstField? f.names = some (key, v)) (hn : v ≠ .null) (ha : ¬ f.Allows v) :
    (document depth doc).Notes (place ++ f.site key) := by
  obtain ⟨-, -, -, hactions, hevents, -⟩ := subset_document depth doc
  cases hc with
  | document hf =>
    have hsite : f.site key = key := by
      simp only [documentFields, List.mem_cons, List.not_mem_nil, or_false] at hf
      rcases hf with rfl | rfl | rfl | rfl | rfl | rfl <;> rfl
    rw [hsite, String.empty_append]
    exact notes_document depth hf hv hn ha
  | component hi hl hf => exact notes_of_component hi hl hf hv hn ha
  | action h hf =>
    have hsite : f.site key = "." ++ key := by
      cases hf with
      | type => rfl
      | @required t f ht hreq => cases t <;> cases hreq <;> rfl
      | @further t f hu hf => cases t <;> simp [furtherFields] at hf <;> grind [Field.site]
    rw [hsite, ← String.append_assoc]
    refine (notes_action hf hs hv hn ha place).of_subset (List.Subset.trans ?_ hactions)
    rw [← problems_step_map]
    exact subset_of_standsAt h
  | @branch path m items i item f h hu hb hi hf =>
    have hsite : f.site key = "" := by
      simp only [List.mem_cons, List.not_mem_nil, or_false] at hf
      rcases hf with rfl | rfl <;> rfl
    rw [hsite, String.append_empty]
    refine (notes_branch hf hv ha (path ++ ".branches") i).of_subset ?_
    exact List.Subset.trans (subset_step_of_branches hu hb hi)
      (List.Subset.trans (subset_of_standsAt h) hactions)
  | event he hi hf =>
    have hsite : f.site key = "" := by
      simp only [List.mem_cons, List.not_mem_nil, or_false] at hf
      rcases hf with rfl | rfl <;> rfl
    rw [hsite, String.append_empty]
    exact (notes_eventItem hf hv ha _).of_subset
      (List.Subset.trans (subset_eventItem he hi) hevents)

end FromYaml

open FromYaml

/-- **Diagnostics are complete.** Of a text that is a mapping, every field that is consulted and
has a value that is not null and of a shape that the notation does not allow is noted: at the field
or, where that is one of an entry of a list, at the entry. The place of an answer is left out. -/
theorem misfits_noted {source : String} {depth : Nat} {doc : Entries}
    (hread : Yaml.read source = .ok (.map doc)) {place : String} {part : Yaml} {f : Field}
    (hc : Consults depth doc place part f) (hs : f ≠ .storeAs) {key : String} {v : Yaml}
    (hv : part.firstField? f.names = some (key, v)) (hn : v ≠ .null) (ha : ¬ f.Allows v) :
    ∃ p ∈ (parse source depth).problems, Under (place ++ f.site key) p := by
  obtain ⟨p, hp, hunder⟩ := notes_of_consults hc hs hv hn ha
  refine ⟨p, ?_, hunder⟩
  rw [parse_of_read hread]
  exact hp

/-- An event entry whose event is a number. -/
theorem misfits_noted_numeric_event :
    let source := "name: a\nbootstrap: b\nevents: [{on: 1, action: go}]"
    ∃ doc item, Yaml.read source = .ok (.map doc) ∧ Consults 32 doc "events[0]" item .event ∧
      item.firstField? Field.event.names = some ("on", .int 1) ∧ ¬ Field.event.Allows (.int 1) ∧
      ∃ p ∈ (parse source 32).problems, Under "events[0]" p := by
  let item : Entries := [(.str "on", .int 1), (.str "action", .str "go")]
  let doc : Entries :=
    [(.str "name", .str "a"), (.str "bootstrap", .str "b"), (.str "events", .seq [.map item])]
  have hread : Yaml.read "name: a\nbootstrap: b\nevents: [{on: 1, action: go}]" =
      .ok (.map doc) := by
    rfl
  have hevents : doc.get? "events" = some (.seq [.map item]) := rfl
  have hitem : [Yaml.map item][0]? = some (.map item) := rfl
  have hc : Consults 32 doc "events[0]" (.map item) .event := .event hevents hitem (by simp)
  have ha : ¬ Field.event.Allows (.int 1) := fun ⟨s, hs⟩ => nomatch hs
  exact ⟨doc, .map item, hread, hc, rfl, ha, misfits_noted hread hc (by decide) rfl (by simp) ha⟩

/-- A place for an answer that is a number is dropped, and nothing is said about it. -/
theorem storeAs_dropped :
    let source := "name: a\nbootstrap: b\nactions: {go: {type: ai, prompt: p, storeAs: 5}}"
    ∃ doc part, Yaml.read source = .ok (.map doc) ∧ Consults 32 doc "actions.go" part .storeAs ∧
      part.firstField? Field.storeAs.names = some ("storeAs", .int 5) ∧
      ¬ Field.storeAs.Allows (.int 5) ∧ (parse source 32).clean = true := by
  let part : Entries := [(.str "type", .str "ai"), (.str "prompt", .str "p"), (.str "storeAs", .int 5)]
  let doc : Entries :=
    [(.str "name", .str "a"), (.str "bootstrap", .str "b"),
      (.str "actions", .map [(.str "go", .map part)])]
  have hread : Yaml.read "name: a\nbootstrap: b\nactions: {go: {type: ai, prompt: p, storeAs: 5}}" =
      .ok (.map doc) := by
    rfl
  have hstands : StandsAt doc ("actions." ++ "go") (.map part) :=
    .named rfl (List.mem_singleton.2 rfl) rfl (by decide) (.inl ⟨part, rfl⟩)
  have hu : Usable part .request := by
    refine ⟨rfl, fun f hf => ?_⟩
    obtain rfl := Option.some.inj hf
    exact ⟨"prompt", .str "p", rfl, "p", rfl, rfl⟩
  have hc : Consults 32 doc "actions.go" (.map part) .storeAs :=
    .action hstands (.further hu (by simp [furtherFields]))
  have ha : ¬ Field.storeAs.Allows (.int 5) := fun ⟨s, hs⟩ => nomatch hs
  exact ⟨doc, .map part, hread, hc, rfl, ha, by decide +kernel⟩

end Template

end LivePanel
