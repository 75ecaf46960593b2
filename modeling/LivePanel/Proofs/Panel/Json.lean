import LivePanel.Panel.Json
import LivePanel.Proofs.Value.Ordered

/-!
# Nodes and their JSON forms

A node is written as an object: its kind by name, and each of its other parts unless it is empty. It is
read from any object that says the same: the kind may be given by its number, an icon as an array, a
part that is empty may be there or not, the members may stand in any order and among others.

## The model

`Node.Read` and `Icon.Read` list what the members of an object, or the parts of a record, say of each
field; reading is this and nothing else. For the way back a `Value.Rewriting` makes values anew and
keeps what stands in each place: to leave a value as it is is one, to put the members of its objects in
order is another. `Node.tidy` takes a value to the form in which its node is written, and does so
without reading the node.

## What is proved

* `Node.ofValue?_rewritten`: what was written, and perhaps made anew, is read as it was. The induction
  is on the node; the members of its form are looked up, each under its own name.
* `Node.toValue_eq_tidy`: a node that was read is written in the tidy form of what it was read from,
  by induction on the value (`Node.read_induction`).
* `Node.Agree.ofValue?_eq`: members that agree up to defaults are read alike.
* `Node.json_normal`: all of this together.
-/

namespace LivePanel

namespace Value

/-- Texts are read from strings and nothing else. -/
theorem eq_str_of_asStr? {v : Value} {s : String} (h : v.asStr? = some s) : v = str s := by
  cases v with
  | str s' => exact congrArg str (Option.some.inj h)
  | _ => cases h

theorem eq_bool_of_asBool? {v : Value} {b : Bool} (h : v.asBool? = some b) : v = bool b := by
  cases v with
  | bool b' => exact congrArg bool (Option.some.inj h)
  | _ => cases h

/-- Null and what is empty, so that it may as well be left out. -/
def isVacant : Value → Bool
  | null => true
  | arr items => items.isEmpty
  | obj fields => fields.isEmpty
  | _ => false

/-- An array with each element made anew. -/
def mapItems (g : Value → Value) : Value → Value
  | arr items => arr (items.map g)
  | v => v

/-- A way of making values anew that keeps texts and truth values, and what an array or an object
has at each place, made anew in its turn. -/
structure Rewriting (g : Value → Value) : Prop where
  str : ∀ s, g (str s) = .str s
  bool : ∀ b, g (bool b) = .bool b
  arr : ∀ items, g (arr items) = .arr (items.map g)
  obj : ∀ fields : Table Value, fields.keys.Nodup → ∃ fields' : Table Value,
    g (obj fields) = .obj fields' ∧ fields'.keys.Nodup ∧ ∀ k, fields'.get? k = (fields.get? k).map g

theorem rewriting_id : Rewriting id where
  str _ := rfl
  bool _ := rfl
  arr items := by rw [id, List.map_id]
  obj fields h := ⟨fields, rfl, h, fun k => (congrFun Option.map_id _).symm⟩

theorem rewriting_sorted : Rewriting sorted where
  str _ := rfl
  bool _ := rfl
  arr := sorted_arr
  obj fields h :=
    ⟨_, sorted_obj fields, Table.nodup_of_ordered (Table.ordered_ofPairs _), get?_sorted h⟩

end Value

/-! ### Members that may be left out -/

/-- A member that stands under a name, made anew, unless it is vacant. -/
def Table.kept (members : Table Value) (name : String) (g : Value → Value) : Table Value :=
  match members.get? name with
  | some v => if v.isVacant then [] else [(name, g v)]
  | none => []

namespace Table

theorem keys_append {β : Type} (s t : Table β) : keys (s ++ t) = s.keys ++ t.keys :=
  List.map_append

theorem get?_optionalField (name : String) (v : Option Value) (k : String) :
    get? (Value.optionalField name v) k = if name = k then v else none := by
  cases v with
  | none => exact (ite_self none).symm
  | some v => rfl

theorem keys_optionalField (name : String) (v : Option Value) :
    List.Sublist (keys (Value.optionalField name v)) [name] := by
  cases v with
  | none => exact List.nil_sublist _
  | some v => exact List.Sublist.refl _

theorem get?_listField {α : Type} (name : String) (xs : List α) (v : Value) (k : String) :
    get? (Node.listField name xs v) k =
      if name = k then if xs.isEmpty then none else some v else none := by
  rw [Node.listField]
  cases xs.isEmpty <;> simp [get?]

theorem keys_listField {α : Type} (name : String) (xs : List α) (v : Value) :
    List.Sublist (keys (Node.listField name xs v)) [name] := by
  rw [Node.listField]
  split
  · exact List.nil_sublist _
  · exact List.Sublist.refl _

end Table

namespace Record

open Table

variable {α : Type} {r : Record} {name : String}

/-- A field that may be absent is the one that is there, or its default. -/
theorem orElse_eq_some_iff {d x : α} {f : Value → Option α} :
    r.orElse name d f = some x ↔
      (r.parts.get? name = none ∧ d = x) ∨ ∃ v, r.parts.get? name = some v ∧ f v = some x := by
  rw [orElse]
  cases r.parts.get? name <;> simp

/-- A field is read alike where it is there with its default and where it is absent. -/
theorem orElse_of_default {r' : Record} {d x : α} {w : Value} {f : Value → Option α}
    (hd : f w = some d) (h : (r.parts.get? name).getD w = (r'.parts.get? name).getD w)
    (hx : r.orElse name d f = some x) : r'.orElse name d f = some x := by
  have hread : ∀ r : Record, r.orElse name d f = f ((r.parts.get? name).getD w) := by
    intro r
    rw [orElse]
    cases r.parts.get? name with
    | none => exact hd.symm
    | some v => rfl
  rw [hread, ← h, ← hread, hx]

/-- A field that may be null is written back as it was, or left out. -/
theorem optionalField_eq_kept {s : Option String} (h : r.orNull name Value.asStr? = some s) :
    Value.optionalField name (s.map .str) = kept r.parts name id := by
  rcases orElse_eq_some_iff.1 h with ⟨hv, rfl⟩ | ⟨v, hv, hs⟩
  · rw [kept, hv]
    rfl
  · rw [kept, hv]
    cases v with
    | null =>
      cases hs
      rfl
    | str s' =>
      cases hs
      rfl
    | _ => cases hs

/-- A list is written back as it was, with its items anew, or left out. -/
theorem listField_eq_kept {f : Value → Option (List α)} {w : List α → Value} {g : Value → Value}
    {xs : List α} (h : r.orElse name [] f = some xs)
    (hf : ∀ v, r.parts.get? name = some v → f v = some xs → g v = w xs ∧ v.isVacant = xs.isEmpty) :
    Node.listField name xs (w xs) = kept r.parts name g := by
  rcases orElse_eq_some_iff.1 h with ⟨hv, rfl⟩ | ⟨v, hv, hxs⟩
  · rw [kept, hv]
    rfl
  · obtain ⟨hg, hvacant⟩ := hf v hv hxs
    rw [kept, hv, Node.listField, ← hvacant, ← hg]

/-- A list that was written, and perhaps made anew, is read as it was. -/
theorem orElse_of_listField {f : Value → Option (List α)} {v : Value} {xs : List α}
    (h : r.parts.get? name = if xs.isEmpty then none else some v) (hf : f v = some xs) :
    r.orElse name [] f = some xs := by
  rw [orElse, h]
  cases xs with
  | nil => rfl
  | cons x rest => exact hf

/-- A text that was written, or left out, is read as it was. -/
theorem orNull_of_optionalField {s : Option String}
    (h : r.parts.get? name = s.map Value.str) : r.orNull name Value.asStr? = some s := by
  rw [orNull, orElse, h]
  cases s <;> rfl

/-- Without other names for it a field is looked up under its name. -/
theorem among_of_nodup {f : Field} (hf : f.aliases = []) {members : Table Value}
    (hm : members.keys.Nodup) :
    f.among members = some ((members.get? f.name).map (f.name, ·)) := by
  have hfilter : members.filter (fun e => e.1 = f.name || e.1 ∈ f.aliases) =
      ((members.get? f.name).map (f.name, ·)).toList := by
    rw [hf]
    induction members with
    | nil => rfl
    | cons e rest ih =>
      obtain ⟨hnot, hrest⟩ := List.nodup_cons.1 hm
      rw [List.filter_cons, ih hrest, Table.get?]
      by_cases he : e.1 = f.name
      · rw [get?_eq_none_of_not_mem (he ▸ hnot), if_pos he, if_pos (by simp [he])]
        exact congrArg ([·]) (Prod.ext he rfl)
      · rw [if_neg he, if_neg (by simp [he])]
  rw [Field.among, hfilter]
  cases members.get? f.name <;> rfl

theorem get?_filterMap (members : Table Value) (names : List String) (k : String) :
    Table.get? (names.filterMap fun n => (members.get? n).map (n, ·)) k =
      if k ∈ names then members.get? k else none := by
  induction names with
  | nil => rfl
  | cons n rest ih =>
    by_cases hk : k = n
    · subst hk
      rw [if_pos (List.mem_cons_self ..)]
      cases hv : members.get? k with
      | none =>
        rw [List.filterMap_cons_none (by rw [hv]; rfl), ih, hv]
        split <;> rfl
      | some v =>
        rw [List.filterMap_cons_some (by rw [hv]; rfl)]
        exact if_pos rfl
    · simp only [List.mem_cons, hk, false_or]
      rw [← ih]
      cases hv : members.get? n with
      | none => rw [List.filterMap_cons_none (by rw [hv]; rfl)]
      | some v =>
        rw [List.filterMap_cons_some (by rw [hv]; rfl)]
        exact if_neg (Ne.symm hk)

/-- The fields of a record are found under their names among the members of an object. -/
theorem exists_ofMembers? {fields : List Field} (hf : ∀ f ∈ fields, f.aliases = [])
    {members : Table Value} (hm : members.keys.Nodup) :
    ∃ r, ofMembers? fields members = some r ∧
      ∀ f ∈ fields, r.parts.get? f.name = members.get? f.name := by
  refine ⟨_, by rw [ofMembers?, mapM_eq_some_map fun f h => among_of_nodup (hf f h) hm]; rfl, ?_⟩
  intro f hmem
  have hget := get?_filterMap members (fields.map (·.name)) f.name
  rw [if_pos (List.mem_map.2 ⟨f, hmem, rfl⟩), List.filterMap_map] at hget
  dsimp only
  rw [List.filterMap_map]
  exact hget

end Record

/-! ### Icons -/

namespace Icon

open Record

/-- **A record says what an icon is.** -/
structure Read (r : Record) (icon : Icon) : Prop where
  block : r.required "block" Value.asStr? = some icon.block
  color : r.orNull "color" Value.asStr? = some icon.color
  action : r.orNull "action" Value.asStr? = some icon.action
  matchColor : r.orElse "matchColor" false Value.asBool? = some icon.matchColor
  position : r.orNull "position" Value.asStr? = some icon.position

theorem ofValue?_eq_some_iff {v : Value} {icon : Icon} :
    ofValue? v = some icon ↔ ∃ r, Record.ofValue? recordFields v = some r ∧ Read r icon := by
  constructor
  · intro h
    obtain ⟨r, hr, h⟩ := Option.bind_eq_some_iff.1 h
    obtain ⟨block, hblock, h⟩ := Option.bind_eq_some_iff.1 h
    obtain ⟨color, hcolor, h⟩ := Option.bind_eq_some_iff.1 h
    obtain ⟨action, haction, h⟩ := Option.bind_eq_some_iff.1 h
    obtain ⟨matchColor, hmatch, h⟩ := Option.bind_eq_some_iff.1 h
    obtain ⟨position, hposition, h⟩ := Option.bind_eq_some_iff.1 h
    cases h
    exact ⟨r, hr, hblock, hcolor, haction, hmatch, hposition⟩
  · rintro ⟨r, hr, h⟩
    simp [ofValue?, hr, h.block, h.color, h.action, h.matchColor, h.position]

/-- The JSON form of the icon that a record says, made of the record alone. -/
def tidyMembers (parts : Table Value) : Table Value :=
  [("block", (parts.get? "block").getD .null)] ++ parts.kept "color" id ++ parts.kept "action" id ++
    [("matchColor", (parts.get? "matchColor").getD (.bool false))] ++ parts.kept "position" id

/-- The same icon, written as an object without what may be left out. -/
def tidy (v : Value) : Value :=
  match Record.ofValue? recordFields v with
  | some r => .obj (tidyMembers r.parts)
  | none => v

/-- **An icon that was read is written in the tidy form of what it was read from.** -/
theorem toValue_eq_tidy {v : Value} {icon : Icon} (h : ofValue? v = some icon) :
    icon.toValue = tidy v := by
  obtain ⟨r, hr, h⟩ := ofValue?_eq_some_iff.1 h
  obtain ⟨s, hs, hblock⟩ := Option.bind_eq_some_iff.1 h.block
  have hmatch : (r.parts.get? "matchColor").getD (.bool false) = .bool icon.matchColor := by
    rcases orElse_eq_some_iff.1 h.matchColor with ⟨hv, hfalse⟩ | ⟨v, hv, hbool⟩
    · rw [hv, ← hfalse]
      rfl
    · rw [hv]
      exact Value.eq_bool_of_asBool? hbool
  rw [tidy, hr, toValue, optionalField_eq_kept h.color, optionalField_eq_kept h.action,
    optionalField_eq_kept h.position]
  simp only [tidyMembers, hmatch, hs, Value.eq_str_of_asStr? hblock, Option.getD_some]

theorem toValue_eq (icon : Icon) : icon.toValue = .obj icon.toValue.fields := rfl

theorem nodup_fields (icon : Icon) : icon.toValue.fields.keys.Nodup := by
  have hnames : (["block"] ++ ["color"] ++ ["action"] ++ ["matchColor"] ++ ["position"]).Nodup := by
    decide
  refine List.Nodup.sublist ?_ hnames
  rw [toValue]
  simp only [Value.fields, Table.keys_append]
  exact ((((List.Sublist.refl _).append (Table.keys_optionalField ..)).append
    (Table.keys_optionalField ..)).append (List.Sublist.refl _)).append
    (Table.keys_optionalField ..)

theorem get?_fields (icon : Icon) (k : String) : icon.toValue.fields.get? k =
    (if "block" = k then some (.str icon.block) else none).or
      ((if "color" = k then icon.color.map .str else none).or
        ((if "action" = k then icon.action.map .str else none).or
          ((if "matchColor" = k then some (.bool icon.matchColor) else none).or
            (if "position" = k then icon.position.map .str else none)))) := by
  rw [toValue]
  simp only [Value.fields, Table.get?_append, Table.get?_optionalField, Table.get?, Option.or_assoc]

/-- **An icon that was written, and perhaps made anew, is read as it was.** -/
theorem ofValue?_rewritten {g : Value → Value} (hg : Value.Rewriting g) (icon : Icon) :
    ofValue? (g icon.toValue) = some icon := by
  obtain ⟨members, hmembers, hnodup, hget⟩ := hg.obj _ icon.nodup_fields
  have haliases : ∀ f ∈ recordFields, f.aliases = [] := by simp [recordFields]
  obtain ⟨r, hr, hparts⟩ := exists_ofMembers? haliases hnodup
  refine ofValue?_eq_some_iff.2 ⟨r, by rw [toValue_eq, hmembers]; exact hr, ?_⟩
  have hpart : ∀ f ∈ recordFields, r.parts.get? f.name = (icon.toValue.fields.get? f.name).map g :=
    fun f hf => (hparts f hf).trans (hget f.name)
  have hstr : g ∘ Value.str = Value.str := funext hg.str
  simp only [recordFields, List.forall_mem_cons, get?_fields] at hpart
  obtain ⟨hblock, hcolor, haction, hmatch, hposition, -⟩ := hpart
  have hblock : r.parts.get? "block" = some (.str icon.block) := by simpa [hg.str] using hblock
  have hmatch : r.parts.get? "matchColor" = some (.bool icon.matchColor) := by
    simpa [hg.bool] using hmatch
  refine ⟨?_, ?_, ?_, ?_, ?_⟩
  · rw [required, hblock]
    rfl
  · exact orNull_of_optionalField (by simpa [hstr] using hcolor)
  · exact orNull_of_optionalField (by simpa [hstr] using haction)
  · rw [orElse, hmatch]
    rfl
  · exact orNull_of_optionalField (by simpa [hstr] using hposition)

end Icon

/-! ### Kinds -/

namespace Value

theorem exists_items {α : Type} {f : Value → Option α} {v : Value} {xs : List α}
    (h : v.listOf? f = some xs) : ∃ items, v = arr items ∧ items.mapM f = some xs := by
  cases v with
  | arr items => exact ⟨items, rfl, h⟩
  | _ => cases h

/-- A list of texts is written as it was read. -/
theorem eq_ofStrings_of_listOf? {v : Value} {ss : List String} (h : v.listOf? asStr? = some ss) :
    v = .ofStrings ss := by
  cases v with
  | arr items =>
    have hmap := map_eq_of_mapM (w := str) (g := id) h fun a _ s hs => (eq_str_of_asStr? hs).symm
    rw [ofStrings, hmap, List.map_id]
  | _ => cases h

theorem listOf?_ofStrings (ss : List String) : (ofStrings ss).listOf? asStr? = some ss :=
  mapM_map_eq_some fun _ _ => rfl

/-- A table of texts is written as it was read. -/
theorem eq_ofTexts_of_tableOf? {v : Value} {t : Table String} (h : v.tableOf? asStr? = some t) :
    v = .ofTexts t := by
  cases v with
  | obj fields =>
    have hmap := map_eq_of_mapM (w := fun e => (e.1, Value.str e.2)) (g := id) h fun a _ e he => by
      obtain ⟨s, hs, rfl⟩ := Option.map_eq_some_iff.1 he
      exact Prod.ext rfl (eq_str_of_asStr? hs).symm
    rw [ofTexts, hmap, List.map_id]
  | _ => cases h

theorem tableOf?_ofTexts (t : Table String) : (ofTexts t).tableOf? asStr? = some t :=
  mapM_map_eq_some fun _ _ => rfl

theorem ordered_ofTexts_iff {t : Table String} : (ofTexts t).Ordered ↔ t.Ordered := by
  constructor
  · intro h
    have hkeys := h.keys
    rwa [Table.Ordered, List.pairwise_map] at hkeys
  · intro h
    refine .obj (List.pairwise_map.2 h) fun e he => ?_
    obtain ⟨a, -, rfl⟩ := List.mem_map.1 he
    exact .str a.2

theorem Rewriting.ofStrings {g : Value → Value} (hg : Rewriting g) (ss : List String) :
    g (.ofStrings ss) = .ofStrings ss := by
  rw [Value.ofStrings, hg.arr, List.map_map]
  exact congrArg (fun w => Value.arr (ss.map w)) (funext hg.str)

end Value

namespace NodeKind

/-- **A kind that was written, and perhaps made anew, is read as it was.** -/
theorem ofMembers?_rewritten {g : Value → Value} (hg : Value.Rewriting g) (kind : NodeKind)
    {members : Table Value}
    (htype : members.get? "type" = (Table.get? kind.toFields "type").map g)
    (hmessages : members.get? "messages" = (Table.get? kind.toFields "messages").map g) :
    ofMembers? members = some kind := by
  cases kind with
  | element =>
    have htype : members.get? "type" = some (.str "element") := htype.trans (congrArg some (hg.str _))
    rw [ofMembers?, htype]
    rfl
  | group =>
    have htype : members.get? "type" = some (.str "group") := htype.trans (congrArg some (hg.str _))
    rw [ofMembers?, htype]
    rfl
  | diagnostic messages =>
    have htype : members.get? "type" = some (.str "diagnostic") :=
      htype.trans (congrArg some (hg.str _))
    have hmessages : members.get? "messages" = some (.ofStrings messages) :=
      hmessages.trans (congrArg some (hg.ofStrings messages))
    rw [ofMembers?, htype, hmessages]
    exact congrArg (Option.map diagnostic) (Value.listOf?_ofStrings messages)

/-- The members that show the kind that is read, by its name. -/
def tidyMembers (members : Table Value) : Table Value :=
  match (members.get? "type").bind index? with
  | some 0 => element.toFields
  | some 1 => group.toFields
  | some 2 => [("type", .str "diagnostic"), ("messages", (members.get? "messages").getD .null)]
  | _ => []

theorem toFields_eq_tidy {members : Table Value} {kind : NodeKind}
    (h : ofMembers? members = some kind) : kind.toFields = tidyMembers members := by
  unfold ofMembers? at h
  unfold tidyMembers
  cases hindex : (members.get? "type").bind index? with
  | none =>
    rw [hindex] at h
    cases h
  | some i =>
    rw [hindex] at h
    match i with
    | 0 =>
      cases h
      rfl
    | 1 =>
      cases h
      rfl
    | 2 =>
      obtain ⟨messages, hmessages, rfl⟩ := Option.map_eq_some_iff.1 h
      obtain ⟨v, hv, hlist⟩ := Option.bind_eq_some_iff.1 hmessages
      rw [hv, Option.getD_some, Value.eq_ofStrings_of_listOf? hlist]
      rfl
    | _ + 3 => cases h

theorem keys_toFields (kind : NodeKind) :
    List.Sublist (Table.keys kind.toFields) (["type"] ++ ["messages"]) := by
  cases kind with
  | element => exact List.sublist_append_left ["type"] ["messages"]
  | group => exact List.sublist_append_left ["type"] ["messages"]
  | diagnostic messages => exact List.Sublist.refl _

theorem get?_toFields_of_ne (kind : NodeKind) {k : String} (ht : "type" ≠ k) (hm : "messages" ≠ k) :
    Table.get? kind.toFields k = none := by
  cases kind <;> simp [toFields, Table.get?, ht, hm]

end NodeKind

/-! ### Nodes -/

namespace Node

open Record

/-- **The members of an object say what a node is.** -/
structure Read (members : Table Value) (n : Node) : Prop where
  kind : NodeKind.ofMembers? members = some n.kind
  block : orNull ⟨members, false⟩ "block" Value.asStr? = some n.block
  props : orElse ⟨members, false⟩ "props" [] Value.object? = some n.props
  bindings : orElse ⟨members, false⟩ "bindings" [] (Value.tableOf? Value.asStr?) = some n.bindings
  icons : orElse ⟨members, false⟩ "icons" [] (Value.listOf? Icon.ofValue?) = some n.icons
  children : orElse ⟨members, false⟩ "children" [] (Value.listOf? ofValue?) = some n.children

theorem ofValues?_eq_mapM (items : List Value) : ofValues? items = items.mapM ofValue? := by
  induction items with
  | nil => rfl
  | cons v rest ih =>
    rw [ofValues?, ih, List.mapM_cons]
    cases ofValue? v with
    | none => rfl
    | some n => cases rest.mapM ofValue? <;> rfl

/-- The children are read like any other field. -/
theorem childrenOf?_eq (members : Table Value) :
    childrenOf? members = orElse ⟨members, false⟩ "children" [] (Value.listOf? ofValue?) := by
  rw [orElse]
  induction members with
  | nil => rfl
  | cons e rest ih =>
    obtain ⟨k, v⟩ := e
    dsimp only at ih ⊢
    unfold childrenOf?
    rw [ih, Table.get?]
    split
    · cases v with
      | arr items => exact ofValues?_eq_mapM items
      | _ => rfl
    · rfl

theorem ofValue?_obj_eq_some_iff {members : Table Value} {n : Node} :
    ofValue? (.obj members) = some n ↔ Read members n := by
  rw [ofValue?, childrenOf?_eq]
  constructor
  · intro h
    split at h
    · rename_i bare children hbare hchildren
      cases h
      obtain ⟨kind, hkind, h⟩ := Option.bind_eq_some_iff.1 hbare
      obtain ⟨block, hblock, h⟩ := Option.bind_eq_some_iff.1 h
      obtain ⟨props, hprops, h⟩ := Option.bind_eq_some_iff.1 h
      obtain ⟨bindings, hbindings, h⟩ := Option.bind_eq_some_iff.1 h
      obtain ⟨icons, hicons, h⟩ := Option.bind_eq_some_iff.1 h
      cases h
      exact ⟨hkind, hblock, hprops, hbindings, hicons, hchildren⟩
    · cases h
  · intro h
    have hbare : ofMembers? members = some { n with children := [] } := by
      simp [ofMembers?, h.kind, h.block, h.props, h.bindings, h.icons]
    rw [hbare, h.children]
    cases n
    rfl

/-- A node is read from an object only. -/
theorem exists_read {v : Value} {n : Node} (h : ofValue? v = some n) :
    ∃ members, v = .obj members ∧ Read members n := by
  cases v with
  | obj members => exact ⟨members, rfl, ofValue?_obj_eq_some_iff.1 h⟩
  | _ => cases h

/-! ### Reading what was written -/

theorem toValues_eq_map (ns : List Node) : toValues ns = ns.map toValue := by
  induction ns with
  | nil => rfl
  | cons n rest ih => rw [toValues, ih, List.map_cons]

theorem toValue_eq (n : Node) : n.toValue = .obj n.toValue.fields := by
  cases n
  rfl

theorem fields_toValue (n : Node) : n.toValue.fields =
    n.kind.toFields ++ Value.optionalField "block" (n.block.map .str) ++
      listField "props" n.props (.obj n.props) ++
      listField "bindings" n.bindings (Value.ofTexts n.bindings) ++
      listField "icons" n.icons (.arr (n.icons.map Icon.toValue)) ++
      listField "children" n.children (.arr (n.children.map toValue)) := by
  rw [← toValues_eq_map]
  cases n
  rfl

theorem nodup_fields (n : Node) : n.toValue.fields.keys.Nodup := by
  have hnames : (["type"] ++ ["messages"] ++ ["block"] ++ ["props"] ++ ["bindings"] ++ ["icons"] ++
      ["children"]).Nodup := by
    decide
  refine List.Nodup.sublist ?_ hnames
  simp only [fields_toValue, Table.keys_append]
  exact ((((n.kind.keys_toFields.append (Table.keys_optionalField ..)).append
    (Table.keys_listField ..)).append (Table.keys_listField ..)).append
    (Table.keys_listField ..)).append (Table.keys_listField ..)

/-- What stands under each name in the JSON form of a node. -/
structure Written (n : Node) (members : Table Value) : Prop where
  type : members.get? "type" = Table.get? n.kind.toFields "type"
  messages : members.get? "messages" = Table.get? n.kind.toFields "messages"
  block : members.get? "block" = n.block.map .str
  props : members.get? "props" = if n.props.isEmpty then none else some (.obj n.props)
  bindings : members.get? "bindings" =
    if n.bindings.isEmpty then none else some (Value.ofTexts n.bindings)
  icons : members.get? "icons" =
    if n.icons.isEmpty then none else some (.arr (n.icons.map Icon.toValue))
  children : members.get? "children" =
    if n.children.isEmpty then none else some (.arr (n.children.map toValue))

theorem written_fields (n : Node) : n.Written n.toValue.fields := by
  constructor <;>
  simp [fields_toValue, Table.get?_append, Table.get?_optionalField, Table.get?_listField,
    NodeKind.get?_toFields_of_ne]

/-- Properties and bindings that stay when they are made anew, here and below. -/
inductive Fixed (g : Value → Value) : Node → Prop where
  | mk {n : Node} (hprops : g (.obj n.props) = .obj n.props)
      (hbindings : g (Value.ofTexts n.bindings) = Value.ofTexts n.bindings)
      (hchildren : ∀ c ∈ n.children, Fixed g c) : Fixed g n

/-- **A node that was written, and perhaps made anew, is read as it was.** -/
theorem ofValue?_rewritten {g : Value → Value} (hg : Value.Rewriting g) {n : Node}
    (hn : n.Fixed g) : ofValue? (g n.toValue) = some n := by
  induction hn with
  | @mk n hprops hbindings _ ih =>
    obtain ⟨members, hmembers, -, hget⟩ := hg.obj _ n.nodup_fields
    have hw := n.written_fields
    rw [toValue_eq, hmembers, ofValue?_obj_eq_some_iff]
    refine ⟨n.kind.ofMembers?_rewritten hg ?_ ?_, orNull_of_optionalField ?_,
      orElse_of_listField (v := g (.obj n.props)) ?_ ?_,
      orElse_of_listField (v := g (Value.ofTexts n.bindings)) ?_ ?_,
      orElse_of_listField (v := g (.arr (n.icons.map Icon.toValue))) ?_ ?_,
      orElse_of_listField (v := g (.arr (n.children.map toValue))) ?_ ?_⟩
    · rw [hget, hw.type]
    · rw [hget, hw.messages]
    · rw [hget, hw.block, Option.map_map]
      exact congrArg (fun w => n.block.map w) (funext hg.str)
    · rw [hget, hw.props, apply_ite (Option.map g)]
      rfl
    · rw [hprops]
      rfl
    · rw [hget, hw.bindings, apply_ite (Option.map g)]
      rfl
    · rw [hbindings]
      exact Value.tableOf?_ofTexts n.bindings
    · rw [hget, hw.icons, apply_ite (Option.map g)]
      rfl
    · rw [hg.arr, List.map_map]
      exact mapM_map_eq_some fun icon _ => icon.ofValue?_rewritten hg
    · rw [hget, hw.children, apply_ite (Option.map g)]
      rfl
    · rw [hg.arr, List.map_map]
      exact mapM_map_eq_some ih

theorem fixed_id : (n : Node) → n.Fixed id
  | ⟨_, _, _, _, _, children⟩ => .mk rfl rfl fun c _ => fixed_id c

/-- The properties and bindings of a node are in order, here and below. -/
inductive Ordered : Node → Prop where
  | mk {n : Node} (hprops : (Value.obj n.props).Ordered) (hbindings : Table.Ordered n.bindings)
      (hchildren : ∀ c ∈ n.children, Ordered c) : Ordered n

theorem Ordered.fixed {n : Node} (h : n.Ordered) : n.Fixed Value.sorted := by
  induction h with
  | mk hprops hbindings _ ih =>
    exact .mk (Value.sorted_of_ordered hprops)
      (Value.sorted_of_ordered (Value.ordered_ofTexts_iff.2 hbindings)) ih

/-- **What was written is read as it was**, with the members of its objects as they are written. -/
theorem ofValue?_toValue (n : Node) : ofValue? n.toValue = some n :=
  ofValue?_rewritten Value.rewriting_id n.fixed_id

/-- **What was written is read as it was**, with the members of all objects in order. -/
theorem ofValue?_sorted {n : Node} (h : n.Ordered) : ofValue? n.toValue.sorted = some n :=
  ofValue?_rewritten Value.rewriting_sorted h.fixed

/-! ### Writing what was read -/

/-- What is said of a value and the node that is read from it follows if it follows from what is
said of the children. -/
theorem read_induction {motive : Value → Node → Prop}
    (step : ∀ members n, Read members n → (∀ items, Table.get? members "children" = some (.arr items) →
      ∀ v ∈ items, ∀ c, ofValue? v = some c → motive v c) → motive (.obj members) n)
    (v : Value) (n : Node) (h : ofValue? v = some n) : motive v n := by
  induction hsize : sizeOf v using Nat.strongRecOn generalizing v n with
  | ind size ih =>
    obtain ⟨members, rfl, hread⟩ := exists_read h
    refine step members n hread fun items hitems w hw c hc => ih (sizeOf w) ?_ w c hc rfl
    have hmem := List.sizeOf_lt_of_mem (Table.mem_of_get? hitems)
    have hlt := List.sizeOf_lt_of_mem hw
    simp only [Prod.mk.sizeOf_spec, Value.arr.sizeOf_spec] at hmem
    rw [← hsize, Value.obj.sizeOf_spec]
    omega

mutual
/-- The same node, written without what may be left out and without what is not read. -/
def tidy : Value → Value
  | .obj members => .obj (NodeKind.tidyMembers members ++
      Table.kept members "block" id ++ Table.kept members "props" id ++ Table.kept members "bindings" id ++
      Table.kept members "icons" (Value.mapItems Icon.tidy) ++
      listField "children" (tidyChildren members) (.arr (tidyChildren members)))
  | v => v

/-- The children among the members of a node, each of them tidy. -/
def tidyChildren : List (String × Value) → List Value
  | [] => []
  | (k, v) :: rest =>
    if k = "children" then
      match v with
      | .arr items => tidyAll items
      | _ => []
    else tidyChildren rest

/-- Nodes, each of them tidy. -/
def tidyAll : List Value → List Value
  | [] => []
  | v :: rest => tidy v :: tidyAll rest
end

theorem tidyAll_eq_map (items : List Value) : tidyAll items = items.map tidy := by
  induction items with
  | nil => rfl
  | cons v rest ih => rw [tidyAll, ih, List.map_cons]

theorem tidyChildren_eq (members : Table Value) :
    tidyChildren members = match members.get? "children" with
      | some (.arr items) => items.map tidy
      | _ => [] := by
  induction members with
  | nil => rfl
  | cons e rest ih =>
    obtain ⟨k, v⟩ := e
    unfold tidyChildren
    rw [ih, Table.get?]
    split
    · cases v with
      | arr items => exact tidyAll_eq_map items
      | _ => rfl
    · rfl

/-- **A node that was read is written in the tidy form of what it was read from.** -/
theorem toValue_eq_tidy {v : Value} {n : Node} (h : ofValue? v = some n) : n.toValue = tidy v := by
  refine read_induction (motive := fun v n => n.toValue = tidy v) ?_ v n h
  intro members n hread ih
  have hprops : listField "props" n.props (.obj n.props) = members.kept "props" id :=
    listField_eq_kept hread.props fun v _ hv => by
      cases v with
      | obj fields =>
        cases hv
        exact ⟨rfl, rfl⟩
      | _ => cases hv
  have hbindings : listField "bindings" n.bindings (Value.ofTexts n.bindings) =
      members.kept "bindings" id :=
    listField_eq_kept hread.bindings fun v _ hv => by
      rw [Value.eq_ofTexts_of_tableOf? hv]
      exact ⟨rfl, List.isEmpty_map⟩
  have hicons : listField "icons" n.icons (.arr (n.icons.map Icon.toValue)) =
      members.kept "icons" (Value.mapItems Icon.tidy) :=
    listField_eq_kept (w := fun icons => .arr (icons.map Icon.toValue)) hread.icons fun v _ hv => by
      obtain ⟨items, rfl, hitems⟩ := Value.exists_items hv
      have hmap := map_eq_of_mapM hitems fun v _ icon hicon => Icon.toValue_eq_tidy hicon
      refine ⟨congrArg Value.arr hmap.symm, ?_⟩
      rw [← List.isEmpty_map (f := Icon.toValue), hmap, List.isEmpty_map, Value.isVacant]
  have hchildren : n.children.map toValue = tidyChildren members := by
    rcases orElse_eq_some_iff.1 hread.children with ⟨hnone, hnil⟩ | ⟨v, hv, hlist⟩
    · rw [← hnil, tidyChildren_eq, hnone, List.map_nil]
    · obtain ⟨items, rfl, hitems⟩ := Value.exists_items hlist
      rw [tidyChildren_eq, hv]
      exact map_eq_of_mapM hitems (ih items hv)
  have hempty : listField "children" n.children (.arr (n.children.map toValue)) =
      listField "children" (tidyChildren members) (.arr (tidyChildren members)) := by
    rw [← hchildren, listField, listField, List.isEmpty_map]
  rw [toValue_eq, fields_toValue, tidy, NodeKind.toFields_eq_tidy hread.kind,
    optionalField_eq_kept hread.block, hprops, hbindings, hicons, hempty]

/-- **What is read of a value in order is in order.** -/
theorem ordered_of_ofValue? {v : Value} {n : Node} (hv : v.Ordered) (h : ofValue? v = some n) :
    n.Ordered := by
  revert hv
  refine read_induction (motive := fun v n => v.Ordered → n.Ordered) ?_ v n h
  intro members n hread ih hv
  refine .mk ?_ ?_ fun c hc => ?_
  · rcases orElse_eq_some_iff.1 hread.props with ⟨-, hnil⟩ | ⟨w, hw, hprops⟩
    · rw [← hnil]
      exact .obj Table.ordered_nil fun _ he => absurd he List.not_mem_nil
    · cases w with
      | obj fields =>
        cases hprops
        exact hv.field hw
      | _ => cases hprops
  · rcases orElse_eq_some_iff.1 hread.bindings with ⟨-, hnil⟩ | ⟨w, hw, hbindings⟩
    · rw [← hnil]
      exact Table.ordered_nil
    · rw [Value.eq_ofTexts_of_tableOf? hbindings] at hw
      exact Value.ordered_ofTexts_iff.1 (hv.field hw)
  · rcases orElse_eq_some_iff.1 hread.children with ⟨-, hnil⟩ | ⟨w, hw, hlist⟩
    · rw [← hnil] at hc
      exact absurd hc List.not_mem_nil
    · obtain ⟨items, rfl, hitems⟩ := Value.exists_items hlist
      obtain ⟨i, hi, hread⟩ := exists_of_mapM hitems hc
      cases hv.field hw with
      | arr hall => exact ih items hw i hi c hread (hall i hi)

/-! ### Members that make no difference -/

/-- What stands for a member that is absent. -/
def defaults : Table Value :=
  [("block", .null), ("props", .obj []), ("bindings", .obj []), ("icons", .arr []),
    ("children", .arr [])]

/-- The members of two objects agree under the names of a node, up to defaults. There may be other
members. -/
structure Agree (members members' : Table Value) : Prop where
  type : members.get? "type" = members'.get? "type"
  messages : members.get? "messages" = members'.get? "messages"
  rest : ∀ e ∈ defaults,
    (members.get? e.1).getD e.2 = (members'.get? e.1).getD e.2

theorem Agree.symm {members members' : Table Value} (h : Agree members members') :
    Agree members' members :=
  ⟨h.type.symm, h.messages.symm, fun e he => (h.rest e he).symm⟩

theorem Agree.read {members members' : Table Value} (h : Agree members members') {n : Node}
    (hread : Read members n) : Read members' n := by
  obtain ⟨htype, hmessages, hrest⟩ := h
  simp only [defaults, List.forall_mem_cons] at hrest
  obtain ⟨hblock, hprops, hbindings, hicons, hchildren, -⟩ := hrest
  refine ⟨?_, orElse_of_default rfl hblock hread.block, orElse_of_default rfl hprops hread.props,
    orElse_of_default rfl hbindings hread.bindings, orElse_of_default rfl hicons hread.icons,
    orElse_of_default rfl hchildren hread.children⟩
  rw [NodeKind.ofMembers?, ← htype, ← hmessages]
  exact hread.kind

/-- **Members that agree are read alike.** -/
theorem Agree.ofValue?_eq {members members' : Table Value} (h : Agree members members') :
    ofValue? (.obj members) = ofValue? (.obj members') :=
  Option.ext fun _ => by
    rw [ofValue?_obj_eq_some_iff, ofValue?_obj_eq_some_iff]
    exact ⟨h.read, h.symm.read⟩

/-- **Nodes and their JSON forms.** A node is read back from its form, whether the members stand as
they are written or in order, so no two nodes have one form. What a node was read from has one tidy
form, and that is the form of the node; and the members of an object count up to defaults, and up to
members that a node does not have. -/
theorem json_normal :
    (∀ n : Node, ofValue? n.toValue = some n) ∧
    Function.Injective toValue ∧
    (∀ n : Node, n.toValue.sorted.Ordered ∧ (n.Ordered → ofValue? n.toValue.sorted = some n)) ∧
    (∀ n n' : Node, n.Ordered → n'.Ordered → n.toValue.sorted = n'.toValue.sorted → n = n') ∧
    (∀ v n, ofValue? v = some n → n.toValue = tidy v ∧ ofValue? (tidy v) = some n ∧
      ∀ n', ofValue? (tidy v) = some n' → n'.toValue = tidy v) ∧
    (∀ v n, v.Ordered → ofValue? v = some n → n.Ordered) ∧
    ∀ members members', Agree members members' →
      ofValue? (.obj members) = ofValue? (.obj members') := by
  refine ⟨ofValue?_toValue, fun n n' h => ?_,
    fun n => ⟨Value.ordered_sorted n.toValue, ofValue?_sorted⟩, fun n n' hn hn' h => ?_,
    fun v n h => ?_, fun v n => ordered_of_ofValue?, fun members members' => Agree.ofValue?_eq⟩
  · have hread := ofValue?_toValue n
    rw [h, ofValue?_toValue] at hread
    exact (Option.some.inj hread).symm
  · have hread := ofValue?_sorted hn
    rw [h, ofValue?_sorted hn'] at hread
    exact (Option.some.inj hread).symm
  · have htidy := toValue_eq_tidy h
    have hread := ofValue?_toValue n
    rw [htidy] at hread
    refine ⟨htidy, hread, fun n' h' => ?_⟩
    rw [← Option.some.inj (hread.symm.trans h'), htidy]

/-- A terse diagnostic: its kind by number, its icon as an array, and members that say nothing. -/
theorem json_normal_terse :
    let terse : Table Value :=
      [("block", .null), ("children", .arr []), ("icons", .arr [.arr [.str "save", .null, .str "go"]]),
        ("messages", .arr [.str "boom"]), ("note", .bool true), ("type", .ofNat 2)]
    let bare : Table Value :=
      [("type", .ofNat 2), ("icons", .arr [.arr [.str "save", .null, .str "go"]]),
        ("messages", .arr [.str "boom"])]
    let n : Node :=
      { kind := .diagnostic ["boom"], icons := [{ block := "save", action := some "go" }] }
    (Value.obj terse).Ordered ∧ Agree terse bare ∧ ofValue? (.obj terse) = some n ∧
      ofValue? (.obj bare) = some n ∧
      tidy (.obj terse) = .obj [("type", .str "diagnostic"), ("messages", .arr [.str "boom"]),
        ("icons", .arr [.obj [("block", .str "save"), ("action", .str "go"),
          ("matchColor", .bool false)]])] ∧
      ofValue? (tidy (.obj terse)) = some n ∧ ofValue? n.toValue.sorted = some n := by
  intro terse bare n
  obtain ⟨-, -, hsorted, -, htidy, hordered, hagree⟩ := json_normal
  have hicon : (Value.arr [.arr [.str "save", .null, .str "go"]]).Ordered := by
    refine .arr (List.forall_mem_singleton.2 (.arr ?_))
    simp only [List.forall_mem_cons]
    exact ⟨.str _, .null, .str _, by simp⟩
  have hterse : (Value.obj terse).Ordered := by
    dsimp only [terse]
    refine .obj (by decide) ?_
    simp only [List.forall_mem_cons]
    exact ⟨.null, .arr (by simp), hicon, .arr (List.forall_mem_singleton.2 (.str _)), .bool _,
      .num _, by simp⟩
  have hread : ofValue? (.obj terse) = some n := rfl
  have hbare : Agree terse bare := by
    refine ⟨rfl, rfl, ?_⟩
    simp only [defaults, List.forall_mem_cons]
    exact ⟨rfl, rfl, rfl, rfl, rfl, by simp⟩
  obtain ⟨hform, hback, -⟩ := htidy _ n hread
  refine ⟨hterse, hbare, hread, ?_, ?_, hback, (hsorted n).2 (hordered _ n hterse hread)⟩
  · rw [← hagree terse bare hbare, hread]
  · rw [← hform]
    rfl

end Node

end LivePanel
