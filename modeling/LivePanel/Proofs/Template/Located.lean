import LivePanel.Template.FromYaml.Document

/-!
# Where problems lie

A problem names the place in the document where it lies. Whatever reads a part of a document is
given the path of that part, and notes only what lies there or further down. So the parts of a
document do not get into each other's way: what is noted about one of them can be told from the
paths alone.

## What is proved

* `own_fields`: the fields of an item are noted as its own, and not as those of an item inside.
* `under_step`: a step of an action is noted where it stands, with all that is in it.
* `under_nameField` and the like: each part of a document is noted under its name.
-/

namespace LivePanel

namespace SyntaxProblem

/-- A problem lies at a path or further down. -/
def Under (path : String) (p : SyntaxProblem) : Prop := path.toList <+: p.path.toList

instance (path : String) : DecidablePred (Under path) := fun _ =>
  decidable_of_iff _ List.isPrefixOf_iff_prefix

/-- A problem of an item's own: it lies at a field of the item, and not at an item inside. -/
def Own (path : String) (p : SyntaxProblem) : Prop :=
  ∃ s, p.path.toList = path.toList ++ '.' :: s ∧ ¬ "children[".toList <+: s

theorem prefix_append (a b : String) : a.toList <+: (a ++ b).toList := by
  rw [String.toList_append]
  exact List.prefix_append ..

theorem Under.mono {path below : String} {p : SyntaxProblem} (h : Under below p)
    (hp : path.toList <+: below.toList) : Under path p := hp.trans h

theorem Own.under {path : String} {p : SyntaxProblem} (h : Own path p) : Under path p := by
  obtain ⟨s, hs, -⟩ := h
  exact ⟨'.' :: s, hs.symm⟩

theorem Own.ne {path : String} {p : SyntaxProblem} (h : Own path p) : p.path ≠ path := by
  rintro rfl
  obtain ⟨s, hs, -⟩ := h
  simpa using congrArg List.length hs

end SyntaxProblem

open SyntaxProblem

namespace Noted

variable {α β : Type} {good : SyntaxProblem → Prop}

/-- All that is noted has a property. -/
def Only (good : SyntaxProblem → Prop) (x : Noted α) : Prop := ∀ p ∈ x.problems, good p

namespace Only

theorem clean (a : α) : (Noted.clean a).Only good := fun _ h => absurd h List.not_mem_nil

theorem problem {path message : String} (h : good ⟨message, path, none, none⟩) (a : α) :
    (Noted.problem path message a).Only good := by
  intro p hp
  rw [List.mem_singleton.1 hp]
  exact h

theorem append {γ : Type} {x : Noted α} {y : Noted β} (hx : x.Only good) (hy : y.Only good)
    (c : γ) : Only good ⟨c, x.problems ++ y.problems⟩ :=
  fun p hp => (List.mem_append.1 hp).elim (hx p) (hy p)

theorem bind {x : Noted α} {f : α → Noted β} (hx : x.Only good) (hf : (f x.value).Only good) :
    (x >>= f).Only good :=
  hx.append hf _

theorem mono {good' : SyntaxProblem → Prop} {x : Noted α} (hx : x.Only good)
    (h : ∀ p, good p → good' p) : x.Only good' :=
  fun p hp => h p (hx p hp)

theorem all {xs : List (Noted α)} (h : ∀ x ∈ xs, x.Only good) : (Noted.all xs).Only good := by
  induction xs with
  | nil => exact clean _
  | cons x rest ih =>
    exact (h x (List.mem_cons_self ..)).append (ih fun y hy => h y (List.mem_cons_of_mem _ hy)) _

theorem collect {xs : List (Noted (Option α))} (h : ∀ x ∈ xs, x.Only good) :
    (Noted.collect xs).Only good :=
  fun p hp => all h p hp

end Only

end Noted

namespace Template.FromYaml

open Noted

variable (m : Yaml.Entries) (path : String)

/-! ### Fields of an item -/

theorem only_jsonOf {good : SyntaxProblem → Prop} (v : Yaml)
    (h : ∀ message, good ⟨message, path, none, none⟩) : (jsonOf v path).Only good := by
  unfold jsonOf
  split
  · exact .clean _
  · exact .problem (h _) _

/-- A field of an item is its own, unless its name leads to the items inside. -/
theorem own_of_field (field : String) {s : List Char} (hs : field.toList = '.' :: s)
    (hc : ¬ "children[".toList <+: s) (message : String) :
    Own path ⟨message, path ++ field, none, none⟩ :=
  ⟨s, by rw [String.toList_append, hs], hc⟩

theorem firstOf_mem {m : Yaml.Entries} {keys : List String} {key : String} {v : Yaml}
    (h : firstOf m keys = some (key, v)) : key ∈ keys := by
  induction keys with
  | nil => cases h
  | cons k rest ih =>
    rw [firstOf] at h
    split at h
    · cases h
      exact List.mem_cons_self ..
    · exact List.mem_cons_of_mem _ (ih h)

theorem only_blockField : (blockField m path).Only (Own path) := by
  have hkey : ∀ key ∈ ["block", "capabilityId"], ∀ message,
      Own path ⟨message, path ++ "." ++ key, none, none⟩ := by
    intro key hkey message
    rw [String.append_assoc]
    refine own_of_field path _ (s := key.toList) (by simp) ?_ message
    rcases List.mem_cons.1 hkey with rfl | hkey
    · decide
    · rw [List.mem_singleton.1 hkey]
      decide
  unfold blockField
  split
  · exact .clean _
  · rename_i hfirst
    split
    · exact .clean _
    · exact .problem (hkey _ (firstOf_mem hfirst) _) _
  · exact .clean _
  · rename_i hfirst
    exact .problem (hkey _ (firstOf_mem hfirst) _) _

theorem only_propsField : (propsField m path).Only (Own path) := by
  have hfield := own_of_field path ".props" (s := "props".toList) rfl (by decide)
  unfold propsField
  split
  · exact .clean _
  · exact .clean _
  · exact only_jsonOf _ _ hfield
  · exact .problem (hfield _) _

theorem only_bindingEntries (acc : Table String) (entries : Yaml.Entries) :
    (bindingEntries path acc entries).Only (Own path) := by
  have hfield := own_of_field path ".on" (s := "on".toList) rfl (by decide)
  induction entries generalizing acc with
  | nil => exact .clean _
  | cons e rest ih =>
    obtain ⟨k, v⟩ := e
    rw [bindingEntries]
    dsimp only
    split
    · exact ih _
    · exact Only.append (.problem (hfield _) ()) (ih _) _

theorem only_bindingsField : (bindingsField m path).Only (Own path) := by
  unfold bindingsField
  split
  · exact .clean _
  · exact .clean _
  · exact only_bindingEntries _ _ _
  · exact .problem (own_of_field path _ (s := "on".toList) rfl (by decide) _) _

theorem only_iconsField : (iconsField m path).Only (Own path) := by
  unfold iconsField
  split
  · exact .clean _
  · exact .clean _
  · refine .collect fun x hx => ?_
    obtain ⟨⟨v, i⟩, -, rfl⟩ := List.mem_map.1 hx
    have hfield : ∀ message,
        Own path ⟨message, path ++ ".icons[" ++ toString i ++ "]", none, none⟩ := by
      intro message
      rw [String.append_assoc, String.append_assoc]
      exact own_of_field path _ (s := "icons[".toList ++ (toString i ++ "]").toList) (by simp)
        (by simp) message
    dsimp only [iconItem]
    split
    · exact .problem (hfield _) _
    · split
      · exact .problem (hfield _) _
      · exact .clean _
  · exact .problem (own_of_field path _ (s := "icons".toList) rfl (by decide) _) _

theorem only_conditionField : (conditionField m path).Only (Own path) := by
  unfold conditionField
  split
  · exact .clean _
  · exact .clean _
  · exact .clean _
  · exact .clean _
  · exact .clean _
  · exact .problem (own_of_field path _ (s := "condition".toList) rfl (by decide) _) _

/-- The fields of an item other than its children. -/
theorem only_componentFields : (componentFields m path).Only (Own path) :=
  (only_blockField m path).bind <| (only_propsField m path).bind <|
    (only_bindingsField m path).bind <| (only_iconsField m path).bind <|
      (only_conditionField m path).bind (.clean _)

/-- A list of children that is none is noted where the list should be. -/
theorem only_childItems : (childItems m path).Only (Own path) := by
  unfold childItems
  split
  · exact .clean _
  · exact .clean _
  · exact .clean _
  · exact .problem (own_of_field path _ (s := "children".toList) rfl (by decide) _) _

/-- **The fields of an item are noted as its own**, its list of children among them. -/
theorem own_fields :
    Only (Own path) (⟨(), (componentFields m path).problems ++ (childItems m path).problems⟩ :
      Noted Unit) :=
  (only_componentFields m path).append (only_childItems m path) ()

/-! ### Actions -/

theorem under_self (message : String) : Under path ⟨message, path, none, none⟩ := List.prefix_rfl

theorem under_append (field message : String) :
    Under path ⟨message, path ++ field, none, none⟩ := prefix_append path field

theorem only_jsonField (key : String) : (jsonField m key path).Only (Under path) := by
  unfold jsonField
  split
  · exact .clean _
  · refine (only_jsonOf (path ++ "." ++ key) _ fun message => ?_)
    rw [String.append_assoc]
    exact under_append ..

theorem only_stringField (keys : List String) : (stringField m keys path).Only (Under path) := by
  have hkey : ∀ key message, Under path ⟨message, path ++ "." ++ key, none, none⟩ := by
    intro key message
    rw [String.append_assoc]
    exact under_append ..
  unfold stringField
  split
  · split
    · exact .problem (hkey ..) _
    · exact .clean _
  · exact .problem (hkey ..) _
  · exact .problem (hkey ..) _

theorem under_within {path : String} {x : Noted α} (field : String)
    (h : x.Only (Under (path ++ field))) : x.Only (Under path) :=
  h.mono fun _ hp => hp.mono (prefix_append ..)

theorem indexed_eq (path : String) (i : Nat) :
    indexed path i = path ++ ("[" ++ (toString i ++ "]")) := by
  simp only [indexed, String.append_assoc]

theorem under_branchItems {items : List Yaml}
    (h : ∀ item ∈ items, ∀ v, item.field? "action" = some v →
      ∀ path, (step v path).Only (Under path)) (path : String) (i : Nat) :
    (branchItems items path i).Only (Under path) := by
  induction items generalizing i with
  | nil =>
    rw [branchItems]
    exact .clean _
  | cons item rest ih =>
    have hplace : ∀ message, Under path ⟨message, indexed path i, none, none⟩ := by
      intro message
      rw [indexed_eq]
      exact under_append ..
    have hinside : ∀ v, item.field? "action" = some v →
        (step v (indexed path i ++ ".action")).Only (Under path) := by
      intro v hv
      rw [indexed_eq, String.append_assoc]
      exact under_within _ (h item (List.mem_cons_self ..) v hv _)
    rw [branchItems]
    refine Only.append ?_ (ih (fun item hi => h item (List.mem_cons_of_mem _ hi)) (i + 1)) _
    split
    · exact .problem (hplace _) _
    · split
      · exact .problem (hplace _) _
      · rename_i v hv
        dsimp only
        split
        · exact hinside v hv
        · exact (hinside v hv).append (.problem (hplace _) ()) _

theorem under_stepItems {items : List Yaml}
    (h : ∀ item ∈ items, ∀ path, (step item path).Only (Under path)) (path : String) (i : Nat) :
    (stepItems items path i).Only (Under path) := by
  induction items generalizing i with
  | nil =>
    rw [stepItems]
    exact .clean _
  | cons item rest ih =>
    have hfirst := h item (List.mem_cons_self ..) (indexed path i)
    rw [indexed_eq] at hfirst
    rw [stepItems, indexed_eq]
    have hrest := ih (fun item hi => h item (List.mem_cons_of_mem _ hi)) (i + 1)
    exact (under_within _ hfirst).append hrest _

section

variable {m : Yaml.Entries} (h : ∀ v, sizeOf v < sizeOf m → ∀ path, (step v path).Only (Under path))
include h

theorem under_branchesField (path : String) : (branchesField m path).Only (Under path) := by
  unfold branchesField
  split
  · exact .problem (under_append ..) _
  · rename_i items hget
    have hm := Yaml.Entries.sizeOf_get? hget
    refine under_within _ (under_branchItems (fun item hi v hv => h v ?_) _ 0)
    have := List.sizeOf_lt_of_mem hi
    have := Yaml.sizeOf_field? hv
    simp at hm
    omega
  · exact .problem (under_append ..) _

theorem under_stepsField (key path : String) : (stepsField m key path).Only (Under path) := by
  unfold stepsField
  rw [String.append_assoc]
  split
  · exact .clean _
  · exact .clean _
  · rename_i items hget
    have hm := Yaml.Entries.sizeOf_get? hget
    refine under_within _ (under_stepItems (fun item hi => h item ?_) _ 0)
    have := List.sizeOf_lt_of_mem hi
    simp at hm
    omega
  · rename_i single _ _ hget
    exact under_within _ (h single (Yaml.Entries.sizeOf_get? hget) _)

/-- An action is noted where it stands, if the steps in it are. -/
theorem under_actionOfEntries (path : String) :
    (actionOfEntries m path).Only (Under path) := by
  unfold actionOfEntries
  split
  · exact .problem (under_append ..) _
  · extract_lets storeAs described
    have hdescribed : described.Only (Under path) := by
      dsimp only [described]
      split
      · exact .problem (under_append ..) _
      · refine (only_stringField m path _).bind ?_
        split
        · exact .clean _
        · exact (only_jsonField m path _).bind (.clean _)
      · refine (only_stringField m path _).bind ?_
        split
        · exact .clean _
        · exact (only_jsonField m path _).bind (.clean _)
      · exact (under_branchesField h path).bind (.clean _)
      · refine (only_stringField m path _).bind ?_
        split
        · exact .clean _
        · exact (only_jsonField m path _).bind
            ((under_stepsField h "onSuccess" path).bind (.clean _))
      · exact (under_stepsField h "steps" path).bind (.clean _)
    split
    · exact hdescribed
    · exact hdescribed.append (under_stepsField h "then" path) _

end

/-- **A step is noted where it stands, with all that is in it.** -/
theorem under_step (v : Yaml) (path : String) : (step v path).Only (Under path) := by
  induction hn : sizeOf v using Nat.strongRecOn generalizing v path with
  | ind n ih =>
    subst hn
    have hinside : ∀ w, sizeOf w < sizeOf v → ∀ path, (step w path).Only (Under path) :=
      fun w hw path => ih _ hw w path rfl
    unfold step
    split
    · split
      · exact .problem (under_self ..) _
      · exact .clean _
    · refine under_actionOfEntries (fun w hw => hinside w ?_) path
      simp only [Yaml.map.sizeOf_spec]
      omega
    · refine under_stepItems (fun item hi => hinside item ?_) path 0
      have := List.sizeOf_lt_of_mem hi
      simp only [Yaml.seq.sizeOf_spec]
      omega
    · exact .problem (under_self ..) _

theorem under_action (v : Yaml) (path : String) : (action v path).Only (Under path) := by
  unfold action
  split
  · exact under_actionOfEntries (fun w _ => under_step w) path
  · exact under_stepItems (fun item _ => under_step item) path 0
  · exact .problem (under_self ..) _

theorem under_namedActions (acc : Table Action) (entries : Yaml.Entries) :
    (namedActions acc entries).Only (Under "actions") := by
  induction entries generalizing acc with
  | nil => exact .clean _
  | cons e rest ih =>
    obtain ⟨k, v⟩ := e
    rw [namedActions]
    split
    · exact Only.append (.problem (under_self ..) ()) (ih _) _
    · split
      · exact Only.append (.problem (under_self ..) ()) (ih _) _
      · rename_i name _ _
        have hactions : "actions".toList <+: "actions.".toList := by decide
        exact Only.append ((under_action v _).mono fun _ hp =>
          hp.mono (hactions.trans (prefix_append "actions." name))) (ih _) _

/-! ### Parts of a document -/

/-- A problem lies elsewhere than at an item of a document or in it. -/
def Elsewhere (p : SyntaxProblem) : Prop := ¬ "components[".toList <+: p.path.toList

theorem Elsewhere.of_under {part : String} {p : SyntaxProblem} (h : Under part p)
    (hc : ¬ "components[".toList <+: part.toList) (hp : ¬ part.toList <+: "components[".toList) :
    Elsewhere p :=
  fun hcomponents => (List.prefix_or_prefix_of_prefix hcomponents h).elim hc hp

variable (doc : Yaml.Entries)

theorem under_nameField : (nameField doc).Only (Under "name") := by
  unfold nameField
  split
  · exact .problem (under_self ..) _
  · exact .problem (under_self ..) _
  · split
    · exact .clean _
    · exact .problem (under_self ..) _
  · exact .problem (under_self ..) _

theorem under_bootstrapField : (bootstrapField doc).Only (Under "bootstrap") := by
  unfold bootstrapField
  split
  · exact .problem (under_self ..) _
  · exact .problem (under_self ..) _
  · split
    · exact .clean _
    · exact .problem (under_self ..) _
  · refine ((only_blockField _ _).mono fun _ => Own.under).bind
      (((only_propsField _ _).mono fun _ => Own.under).bind ?_)
    split
    · exact .clean _
    · exact .problem (under_self ..) _
  · exact .problem (under_self ..) _

theorem under_descriptionField : (descriptionField doc).Only (Under "description") := by
  unfold descriptionField
  split
  · exact .clean _
  · exact .clean _
  · exact .clean _
  · exact .problem (under_self ..) _

theorem under_versionField : (versionField doc).Only (Under "version") := by
  unfold versionField
  split
  · exact .clean _
  · exact .clean _
  · exact .clean _
  · exact .clean _
  · exact .clean _
  · exact .problem (under_self ..) _

theorem under_actionsField : (actionsField doc).Only (Under "actions") := by
  unfold actionsField
  split
  · exact .clean _
  · exact .clean _
  · exact under_namedActions _ _
  · exact .problem (under_self ..) _

theorem under_eventsField : (eventsField doc).Only (Under "events") := by
  unfold eventsField
  split
  · exact .clean _
  · exact .clean _
  · refine .collect fun x hx => ?_
    obtain ⟨⟨item, i⟩, -, rfl⟩ := List.mem_map.1 hx
    dsimp only [eventItem]
    split
    · exact .clean _
    · refine .problem ?_ _
      rw [indexed_eq]
      exact under_append ..
  · exact .problem (under_self ..) _

theorem under_stateField : (stateField doc).Only (Under "state") := by
  unfold stateField
  split
  · exact .clean _
  · exact .clean _
  · exact only_jsonOf _ _ (under_self _)
  · exact .problem (under_self ..) _

end Template.FromYaml

end LivePanel
