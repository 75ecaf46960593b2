import LivePanel.Proofs.Template.Kept
import LivePanel.Proofs.Template.Notation

/-!
# Values that do not fit a component

A value of a shape that its field may not have is noted where it stands. Readers differ in how they
tell: some match the shapes that they can use and note all others, some read entry by entry and
note what is left over. The reader of each field of a component is followed here.

## What is proved

* `plain_of_toValue`: what has a JSON form is a value that JSON can represent.
* `isIcon_of_iconOf`: what is read as an icon is one, if its block is not blank.
* `notes_component`: each field of a component that has a value that does not fit is noted.
-/

namespace LivePanel

open SyntaxProblem Yaml

/-- Not all items of a list have a property: there is one that does not, at some position. -/
theorem exists_getElem?_of_not_forall {α : Type} {P : α → Prop} {items : List α}
    (h : ¬ ∀ item ∈ items, P item) : ∃ (i : Nat) (item : α), items[i]? = some item ∧ ¬ P item := by
  by_contra hall
  refine h fun item hitem => by_contra fun hb => hall ?_
  obtain ⟨i, hi⟩ := List.mem_iff_getElem?.1 hitem
  exact ⟨i, item, hi, hb⟩

namespace Noted

variable {α β : Type}

/-- Something is noted at a path or further down. -/
def Notes (x : Noted α) (path : String) : Prop := ∃ p ∈ x.problems, Under path p

theorem notes_problem (path message : String) (a : α) : (Noted.problem path message a).Notes path :=
  ⟨_, List.mem_singleton.2 rfl, List.prefix_rfl⟩

theorem Notes.of_subset {x : Noted α} {y : Noted β} {path : String} (h : x.Notes path)
    (hxy : x.problems ⊆ y.problems) : y.Notes path :=
  h.imp fun _ hp => ⟨hxy hp.1, hp.2⟩

theorem Notes.mono {x : Noted α} {path below : String} (h : x.Notes below)
    (hp : path.toList <+: below.toList) : x.Notes path :=
  h.imp fun _ hu => ⟨hu.1, hu.2.mono hp⟩

theorem subset_collect {x : Noted (Option α)} {xs : List (Noted (Option α))} (h : x ∈ xs) :
    x.problems ⊆ (collect xs).problems := by
  induction xs with
  | nil => exact absurd h List.not_mem_nil
  | cons y rest ih =>
    rw [collect_cons]
    rcases List.mem_cons.1 h with rfl | h
    · exact List.subset_append_left ..
    · exact List.Subset.trans (ih h) (List.subset_append_right ..)

end Noted

open Noted

/-! ### Values that JSON cannot represent -/

namespace Yaml

theorem isKey_of_keyText {k : Yaml} {s : String} (h : k.keyText = .ok s) : k.IsKey := by
  unfold keyText at h
  split at h <;> trivial

mutual

/-- **A value that has a JSON form is one that JSON can represent.** -/
theorem plain_of_toValue : (v : Yaml) → {w : Value} → v.toValue = .ok w → v.Plain
  | .null, _, _ => .null
  | .bool b, _, _ => .bool b
  | .int n, _, _ => .int n
  | .real r, _, _ => .real r
  | .str s, _, _ => .str s
  | .seq items, w, h => by
    rw [toValue] at h
    cases hs : toValues items with
    | error e => simp [hs, Except.map] at h
    | ok ws => exact .seq (plain_of_toValues items hs)
  | .map entries, w, h => by
    rw [toValue] at h
    cases hs : toFields [] entries with
    | error e => simp [hs, Except.map] at h
    | ok ws =>
      have hall := plain_of_toFields entries hs
      exact .map (fun e he => (hall e he).1) fun e he => (hall e he).2
  | .tagged tag v, w, h => by
    rw [toValue] at h
    cases hs : toValue v with
    | error e => simp [hs, Except.map] at h
    | ok ws => exact .tagged tag (plain_of_toValue v hs)

theorem plain_of_toValues : (items : List Yaml) → {ws : List Value} → toValues items = .ok ws →
    ∀ v ∈ items, v.Plain
  | [], _, _ => fun _ hv => absurd hv List.not_mem_nil
  | v :: rest, ws, h => by
    rw [toValues] at h
    cases hv : toValue v with
    | error e => simp [hv] at h
    | ok w =>
      cases hs : toValues rest with
      | error e => simp [hv, hs, Except.map] at h
      | ok ws =>
        exact List.forall_mem_cons.2 ⟨plain_of_toValue v hv, plain_of_toValues rest hs⟩

theorem plain_of_toFields : (entries : List (Yaml × Yaml)) → {fields fields' : Table Value} →
    toFields fields entries = .ok fields' → ∀ e ∈ entries, e.1.IsKey ∧ e.2.Plain
  | [], _, _, _ => fun _ he => absurd he List.not_mem_nil
  | (k, v) :: rest, fields, fields', h => by
    rw [toFields] at h
    cases hk : keyText k with
    | error e => simp [hk] at h
    | ok s =>
      cases hv : toValue v with
      | error e => simp [hk, hv] at h
      | ok w =>
        simp only [hk, hv] at h
        exact List.forall_mem_cons.2
          ⟨⟨isKey_of_keyText hk, plain_of_toValue v hv⟩, plain_of_toFields rest h⟩

end

end Yaml

namespace Template.FromYaml

theorem notes_jsonOf {v : Yaml} (h : ¬ v.Plain) (path : String) : (jsonOf v path).Notes path := by
  unfold jsonOf
  split
  · rename_i hw
    exact absurd (plain_of_toValue v hw) h
  · exact notes_problem ..

theorem firstField?_map (m : Entries) (names : List String) :
    (Yaml.map m).firstField? names = firstOf m names := by
  induction names with
  | nil => rfl
  | cons name rest ih =>
    rw [firstField?, List.findSome?_cons, field?_map, firstOf]
    cases m.get? name with
    | none => exact ih
    | some v => rfl

/-- Of a field with one name there is nothing to choose. -/
theorem firstField?_one {v w : Yaml} {name key : String} :
    v.firstField? [name] = some (key, w) ↔ key = name ∧ v.field? name = some w := by
  rw [firstField?, List.findSome?_cons]
  cases v.field? name with
  | none => simp
  | some u => simp [eq_comm]

/-! ### Fields of a component -/

section

variable {m : Entries} {path key : String} {v : Yaml} (hn : v ≠ .null)
include hn

theorem notes_blockField (h : firstOf m ["block", "capabilityId"] = some (key, v))
    (ha : ¬ Field.block.Allows v) : (blockField m path).Notes (path ++ "." ++ key) := by
  unfold blockField
  rw [h]
  cases v with
  | null => exact absurd rfl hn
  | str s =>
    have hs : Text.allBlank s = true := by
      simpa [Field.Allows] using ha
    simp only [filled?, hs, if_true]
    exact notes_problem ..
  | _ => exact notes_problem ..

theorem notes_propsField (h : m.get? "props" = some v) (ha : ¬ Field.props.Allows v) :
    (propsField m path).Notes (path ++ ".props") := by
  unfold propsField
  rw [h]
  cases v with
  | null => exact absurd rfl hn
  | map entries => exact notes_jsonOf (fun hp => ha ⟨⟨_, rfl⟩, hp⟩) _
  | _ => exact notes_problem ..

theorem notes_conditionField (h : firstOf m ["condition", "if"] = some (key, v))
    (ha : ¬ Field.condition.Allows v) : (conditionField m path).Notes (path ++ ".condition") := by
  unfold conditionField
  rw [h]
  cases v with
  | null => exact absurd rfl hn
  | bool b => exact absurd (.inr ⟨b, rfl⟩) ha
  | str s => exact absurd (.inl ⟨s, rfl⟩) ha
  | _ => exact notes_problem ..

end

theorem notes_bindingEntries {path : String} {entries : Entries} {e : Yaml × Yaml}
    (he : e ∈ entries)
    (ha : ¬ ((∃ name, e.1.asStr? = some name) ∧ ∃ action, e.2.asStr? = some action ∧ action ≠ ""))
    (acc : Table String) : (bindingEntries path acc entries).Notes (path ++ ".on") := by
  induction entries generalizing acc with
  | nil => exact absurd he List.not_mem_nil
  | cons first rest ih =>
    obtain ⟨k, w⟩ := first
    rw [bindingEntries]
    dsimp only
    rcases List.mem_cons.1 he with rfl | he
    · split
      · rename_i event action hpair
        refine absurd ?_ ha
        split at hpair
        · rename_i hk hv
          split at hpair
          · cases hpair
          · rename_i hne
            exact ⟨⟨_, hk⟩, _, hv, by simpa using hne⟩
        · cases hpair
      · exact (notes_problem ..).of_subset (List.subset_append_left ..)
    · split
      · exact ih he _
      · exact (ih he acc).of_subset (List.subset_append_right ..)

theorem notes_bindingsField {m : Entries} {path : String} {v : Yaml} (hn : v ≠ .null)
    (h : m.get? "on" = some v) (ha : ¬ Field.bindings.Allows v) :
    (bindingsField m path).Notes (path ++ ".on") := by
  unfold bindingsField
  rw [h]
  cases v with
  | null => exact absurd rfl hn
  | map entries =>
    have hbad : ∃ e ∈ entries, ¬ ((∃ name, e.1.asStr? = some name) ∧
        ∃ action, e.2.asStr? = some action ∧ action ≠ "") := by
      by_contra hall
      exact ha ⟨entries, rfl, fun e he => by_contra fun hb => hall ⟨e, he, hb⟩⟩
    obtain ⟨e, he, hbad⟩ := hbad
    exact notes_bindingEntries he hbad []
  | _ => exact notes_problem ..

/-! ### Icons -/

theorem asStr?_of_textOf {v : Yaml} {s : String} (h : textOf v = .ok s) : v.asStr? = some s := by
  unfold textOf at h
  split at h
  · cases h
    assumption
  · cases h

theorem text_of_optionalText {v : Yaml} {o : Option String} (h : optionalText v = .ok o) :
    v = .null ∨ ∃ s, v.asStr? = some s := by
  unfold optionalText at h
  split at h
  · rename_i hnull
    cases v <;> first | exact .inl rfl | cases hnull
  · obtain ⟨s, hs, -⟩ := ok_of_map h
    exact .inr ⟨s, asStr?_of_textOf hs⟩

/-- An entry that is taken up is one that an icon may have; of two blocks the second is refused. -/
theorem allows_of_take {f g : IconFields} {k v : Yaml} (h : f.take k v = .ok g) :
    ∃ key, k.asStr? = some key ∧
      (key = "block" → f.block = none ∧ ∃ s, v.asStr? = some s ∧ g.block = some s) ∧
      (key ≠ "block" → IconAllows key v ∧ g.block = f.block) := by
  unfold IconFields.take at h
  split at h
  · cases h
  · rename_i hk
    refine ⟨_, hk, fun _ => ?_, fun hne => absurd rfl hne⟩
    split at h
    · cases h
    · rename_i hb
      obtain ⟨s, hs, rfl⟩ := ok_of_map h
      exact ⟨by simpa using hb, s, asStr?_of_textOf hs, rfl⟩
  · rename_i hk
    refine ⟨_, hk, fun heq => absurd heq (by decide), fun _ => ?_⟩
    split at h
    · cases h
    · obtain ⟨o, ho, rfl⟩ := ok_of_map h
      exact ⟨text_of_optionalText ho, rfl⟩
  · rename_i hk
    refine ⟨_, hk, fun heq => absurd heq (by decide), fun _ => ?_⟩
    split at h
    · cases h
    · obtain ⟨o, ho, rfl⟩ := ok_of_map h
      exact ⟨text_of_optionalText ho, rfl⟩
  · rename_i hk
    refine ⟨_, hk, fun heq => absurd heq (by decide), fun _ => ?_⟩
    split at h
    · cases h
    · split at h
      · cases h
        exact ⟨⟨_, ‹_›⟩, rfl⟩
      · cases h
  · rename_i hk
    refine ⟨_, hk, fun heq => absurd heq (by decide), fun _ => ?_⟩
    split at h
    · cases h
    · obtain ⟨o, ho, rfl⟩ := ok_of_map h
      exact ⟨text_of_optionalText ho, rfl⟩
  · rename_i key hblock hcolor haction hmatch hposition hk
    cases h
    refine ⟨key, hk, fun heq => absurd heq hblock, fun _ => ⟨?_, rfl⟩⟩
    have hoptional : ¬ (key = "color" ∨ key = "action" ∨ key = "position") := by
      rintro (heq | heq | heq)
      · exact hcolor heq
      · exact haction heq
      · exact hposition heq
    rw [IconAllows, if_neg hblock, if_neg hoptional, if_neg hmatch]
    trivial

/-- Entries that are taken up are those that an icon may have; the block is that of one of them,
unless it was there before. -/
theorem allows_of_takeAll {f g : IconFields} {m : Entries} (h : f.takeAll m = .ok g) :
    (∀ b, f.block = some b → g.block = some b) ∧
    (∀ b, g.block = some b → f.block = some b ∨ ∃ e ∈ m, e.1.asStr? = some "block") ∧
    ∀ e ∈ m, ∃ key, e.1.asStr? = some key ∧
      (key = "block" → ∃ s, e.2.asStr? = some s ∧ g.block = some s) ∧
      (key ≠ "block" → IconAllows key e.2) := by
  induction m generalizing f with
  | nil =>
    cases h
    exact ⟨fun _ hb => hb, fun _ hb => .inl hb, fun e he => absurd he List.not_mem_nil⟩
  | cons e rest ih =>
    obtain ⟨k, v⟩ := e
    rw [IconFields.takeAll] at h
    split at h
    · cases h
    · rename_i f' htake
      obtain ⟨hkeep, hfrom, hall⟩ := ih h
      obtain ⟨key, hk, hblock, hother⟩ := allows_of_take htake
      by_cases hkey : key = "block"
      · obtain ⟨hnone, s, hs, hf'⟩ := hblock hkey
        refine ⟨fun b hb => ?_, fun b _ => .inr ⟨_, List.mem_cons_self .., hkey ▸ hk⟩, ?_⟩
        · rw [hnone] at hb
          cases hb
        · refine List.forall_mem_cons.2 ⟨⟨key, hk, fun _ => ⟨s, hs, hkeep s hf'⟩, ?_⟩, hall⟩
          exact fun hne => absurd hkey hne
      · obtain ⟨hallows, hf'⟩ := hother hkey
        refine ⟨fun b hb => hkeep b (hf'.trans hb), fun b hb => ?_, ?_⟩
        · rcases hfrom b hb with hb | ⟨e, he, hb⟩
          · exact .inl (hf'.symm.trans hb)
          · exact .inr ⟨e, List.mem_cons_of_mem _ he, hb⟩
        · refine List.forall_mem_cons.2 ⟨⟨key, hk, fun heq => absurd heq hkey, ?_⟩, hall⟩
          exact fun _ => hallows

/-- **What is read as an icon whose block is not blank is an icon.** -/
theorem isIcon_of_iconOf {v : Yaml} {icon : Icon} (h : iconOf v = .ok icon)
    (hb : Text.allBlank icon.block = false) : v.IsIcon := by
  have hentries : ∀ {m : Entries}, iconOfEntries m = .ok icon →
      (∀ e ∈ m, ∃ key, e.1.asStr? = some key ∧ IconAllows key e.2) ∧
        ∃ e ∈ m, e.1.asStr? = some "block" := by
    intro m h
    unfold iconOfEntries at h
    split at h
    · cases h
    · rename_i g htake
      split at h
      · cases h
      · rename_i block hblock
        cases h
        obtain ⟨-, hfrom, hall⟩ := allows_of_takeAll htake
        refine ⟨fun e he => ?_, (hfrom block hblock).resolve_left (by simp)⟩
        obtain ⟨key, hk, hkey, hother⟩ := hall e he
        refine ⟨key, hk, ?_⟩
        by_cases heq : key = "block"
        · obtain ⟨s, hs, hg⟩ := hkey heq
          rw [hblock] at hg
          cases hg
          rw [IconAllows, if_pos heq]
          exact ⟨_, hs, hb⟩
        · exact hother heq
  unfold iconOf at h
  split at h
  · exact ⟨_, ‹_›, hentries h⟩
  · obtain ⟨-, e, he, -⟩ := hentries h
    cases he
  · cases h

theorem notes_iconsField {m : Entries} {path : String} {v : Yaml} (hn : v ≠ .null)
    (h : m.get? "icons" = some v) (ha : ¬ Field.icons.Allows v) :
    (iconsField m path).Notes (path ++ ".icons") := by
  unfold iconsField
  rw [h]
  cases v with
  | null => exact absurd rfl hn
  | seq items =>
    obtain ⟨i, item, hi, hbad⟩ := exists_getElem?_of_not_forall fun hall => ha ⟨items, rfl, hall⟩
    have hitem : (iconItem path item i).Notes (path ++ ".icons") := by
      have hplace : ∀ message, (Noted.problem (path ++ ".icons[" ++ toString i ++ "]") message
          (none : Option Icon)).Notes (path ++ ".icons") := by
        intro message
        have hicons : ".icons".toList <+: ".icons[".toList := by decide
        refine (notes_problem ..).mono ?_
        simp only [String.toList_append, List.append_assoc, List.prefix_append_right_inj]
        exact hicons.trans (List.prefix_append ..)
      dsimp only [iconItem]
      split
      · exact hplace _
      · split
        · exact hplace _
        · rename_i hicon hb
          exact absurd (isIcon_of_iconOf hicon (by simpa using hb)) hbad
    exact hitem.of_subset (subset_collect
      (List.mem_map.2 ⟨(item, i), List.mem_zipIdx_iff_getElem?.2 hi, rfl⟩))
  | _ => exact notes_problem ..

/-! ### Components -/

/-- An item that cannot be used is noted, or it is nested too deep and noted for that. -/
theorem notes_component_of_not (limit left : Nat) {location : Location} {item : Yaml}
    (h : ¬ item.WellFormed) : (component limit left location item).Notes location.text := by
  cases left with
  | zero => exact notes_problem ..
  | succ left =>
    rw [component_of_not _ _ _ h]
    exact notes_problem ..

/-- Of a list that is no list of items one is noted. -/
theorem notes_readItems (limit left : Nat) (above : Location) {items : List Yaml}
    (h : ¬ ∀ item ∈ items, item.WellFormed) :
    ∃ i, (readItems limit left above items 0).Notes (Location.text (above ++ [i])) := by
  obtain ⟨i, item, hi, hbad⟩ := exists_getElem?_of_not_forall h
  exact ⟨i, (notes_component_of_not limit left hbad).of_subset (subset_collect
    (List.mem_map.2 ⟨(item, i), List.mem_zipIdx_iff_getElem?.2 hi, rfl⟩))⟩

/-- **Every field of a component that has a value of a shape that is not allowed is noted.** -/
theorem notes_component (limit left : Nat) {location : Location} (hl : location ≠ [])
    {m : Entries} {f : Field} (hf : f ∈ fieldsOfComponent) {key : String} {v : Yaml}
    (hv : (Yaml.map m).firstField? f.names = some (key, v)) (hn : v ≠ .null) (ha : ¬ f.Allows v) :
    (component limit (left + 1) location (.map m)).Notes (location.text ++ f.site key) := by
  have hfields : ∀ {α : Type} {x : Noted α} {path : String}, x.Notes path →
      x.problems ⊆ (componentFields m location.text).problems →
      (component limit (left + 1) location (.map m)).Notes path := by
    intro α x path hx hsub
    rw [component_map]
    exact hx.of_subset fun p hp =>
      List.mem_append_left _ (List.mem_append_left _ (hsub hp))
  have hproblems : (componentFields m location.text).problems =
      (blockField m location.text).problems ++ ((propsField m location.text).problems ++
        ((bindingsField m location.text).problems ++ ((iconsField m location.text).problems ++
          (conditionField m location.text).problems))) := by
    simp [componentFields, bind, Noted.andThen, pure, Noted.clean]
  have hone : ∀ {name : String}, f.names = [name] → key = name ∧ m.get? name = some v := by
    intro name hname
    rw [hname, firstField?_one, field?_map] at hv
    exact hv
  simp only [fieldsOfComponent, List.mem_cons, List.not_mem_nil, or_false] at hf
  rcases hf with rfl | rfl | rfl | rfl | rfl | rfl
  · rw [firstField?_map] at hv
    have hblock : (blockField m location.text).Notes (location.text ++ ("." ++ key)) := by
      rw [← String.append_assoc]
      exact notes_blockField hn hv ha
    exact hfields hblock (hproblems ▸ List.subset_append_left ..)
  · obtain ⟨rfl, hget⟩ := hone rfl
    exact hfields (notes_propsField hn hget ha) fun p hp => by simp [hproblems, hp]
  · obtain ⟨rfl, hget⟩ := hone rfl
    exact hfields (notes_bindingsField hn hget ha) fun p hp => by simp [hproblems, hp]
  · obtain ⟨rfl, hget⟩ := hone rfl
    exact hfields (notes_iconsField hn hget ha) fun p hp => by simp [hproblems, hp]
  · rw [firstField?_map] at hv
    exact hfields (notes_conditionField hn hv ha) fun p hp => by simp [hproblems, hp]
  · obtain ⟨rfl, hget⟩ := hone rfl
    rw [component_map]
    cases v with
    | null => exact absurd rfl hn
    | seq items =>
      have hitems : (Yaml.map m).itemsUnder "children" = items := by
        rw [itemsUnder, field?_map, hget]
      obtain ⟨i, hi⟩ := notes_readItems limit left location fun hall => ha ⟨items, rfl, hall⟩
      rw [hitems]
      refine (hi.mono ?_).of_subset (List.subset_append_right ..)
      have hchildren : ".children".toList <+: ".children[".toList := by decide
      rw [Location.toList_text_append hl, Location.toList_stepsText_cons, String.toList_append,
        List.prefix_append_right_inj]
      exact hchildren.trans (List.prefix_append ..)
    | _ =>
      refine (notes_problem (location.text ++ ".children") "must be a sequence of nodes"
        (none : Option (List Yaml))).of_subset fun p hp => ?_
      simp [childItems, hget, hp]

end Template.FromYaml

end LivePanel
