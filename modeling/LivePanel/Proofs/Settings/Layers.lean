import LivePanel.Proofs.Settings.Reading
import LivePanel.Proofs.Toml.Merge
import LivePanel.Settings.Load

/-!
# Layers of settings

Settings come in layers: the environment over the files, a later file over an earlier one, the
files over the defaults. A layer that has a table for a part sets the fields in it. One that has
anything else there hides what lower layers say about the part; if it is an array, and no layer
above it has the part, its elements are the fields in their order.

## The model

* `Layer`: what a layer says about each part; `layersOf`, the layers of files and an environment,
  the highest first.
* `given`: the field of the highest layer that sets it, down to one that hides it.
* `decided`: what the layers say about a field in the end.
* `Stands`: what the merged tree has for a part, against the layers.

## What is proved

* `stands_lay`: laying one more layer over a tree. Files (`stands_layFiles`) and variables of the
  environment (`get?_overrideWith`) are laid so.
* `load_decides`: the settings that are loaded are those that the layers decide, or the defaults;
  and which files were there, and how many variables. `load_array_by_place`: an array is read by
  place.
-/

namespace LivePanel

open Toml Table

namespace Settings

open Datum

/-! ### Layers -/

/-- What a layer says about each part. -/
abbrev Layer := String → Option Datum

/-- What a tree says about each part. -/
def layer (tree : Datum) : Layer := fun part => get? (membersOf (some tree)) part

/-- The fields of a part that variables set. -/
def said (env : Environment) (part : String) (xs : List Variable) : Table Datum :=
  xs.filterMap fun x =>
    if x.place.1 = part then
      (env.get? x.name).bind fun raw => (x.read raw).toOption.map fun d => (x.place.2, d)
    else none

/-- A table of fields, unless there are none. -/
def tableOf? (fields : Table Datum) : Option Datum :=
  if fields.isEmpty then none else some (.table fields)

/-- What the environment says about each part. -/
def environmentLayer (env : Environment) : Layer := fun part => tableOf? (said env part Variable.all)

/-- The files that are there. -/
def present (files : List FoundFile) : List FoundFile := files.filter fun f => !f.isAbsent

/-- What files say, the last one first. -/
def fileLayers (files : List FoundFile) : List Layer :=
  ((present files).filterMap fun f => (layerOf f).toOption.map layer).reverse

/-- The layers that settings are loaded from, the highest first. -/
def layersOf (files : List FoundFile) (env : Environment) : List Layer :=
  environmentLayer env :: (fileLayers files ++ [layer defaults])

/-- What the highest layer that has a part says about it. -/
def topmost (part : String) (layers : List Layer) : Option Datum := layers.findSome? fun l => l part

/-- The field of the highest layer that sets it, with no layer above it that has something other
than a table for the part. -/
def given (part field : String) : List Layer → Option Datum
  | [] => none
  | l :: lower =>
    match l part with
    | none => given part field lower
    | some (.table members) => (get? members field).or (given part field lower)
    | some _ => none

/-- What the layers say about a field in the end: of an array that nothing is laid over the element
in its place, and otherwise what is given. -/
def decided (part field : String) (layers : List Layer) : Option Datum :=
  match topmost part layers with
  | some (.list items) => ((fieldNames part).idxOf? field).bind fun i => items[i]?
  | _ => given part field layers

theorem topmost_cons (part : String) (l : Layer) (lower : List Layer) :
    topmost part (l :: lower) = (l part).or (topmost part lower) := by
  rw [topmost, List.findSome?_cons, topmost]
  cases l part <;> rfl

/-- Where the highest layer that has a part has no table there, nothing is given. -/
theorem given_eq_none {part : String} {layers : List Layer}
    (h : ∀ members, topmost part layers ≠ some (.table members)) (field : String) :
    given part field layers = none := by
  induction layers with
  | nil => rfl
  | cons l lower ih =>
    rw [topmost_cons] at h
    rw [given]
    cases hl : l part with
    | none =>
      rw [hl] at h
      exact ih h
    | some d =>
      rw [hl] at h
      cases d with
      | table members => exact absurd rfl (h members)
      | _ => rfl

/-! ### Laying one more layer -/

/-- The same, but for tables: these are told apart no further, no field being one. -/
def Alike (x y : Option Datum) : Prop :=
  x = y ∨ (∃ members, x = some (.table members)) ∧ ∃ members, y = some (.table members)

/-- What a merged tree has for a part: what the highest layer has that has the part, and in a table
the fields that are given. -/
inductive Stands (layers : List Layer) (part : String) : Option Datum → Prop where
  | absent (h : topmost part layers = none) : Stands layers part none
  | table {upper members : Table Datum} (h : topmost part layers = some (.table upper))
      (hkeys : members.keys.Nodup)
      (hfields : ∀ field, Alike (members.get? field) (given part field layers)) :
      Stands layers part (some (.table members))
  | other {d : Datum} (h : topmost part layers = some d) (hd : ∀ members, d ≠ .table members) :
      Stands layers part (some d)

namespace Stands

variable {layers : List Layer} {part : String} {v : Option Datum}

theorem nodup (h : Stands layers part v) : (keys (membersOf v)).Nodup := by
  cases h with
  | absent h => exact List.nodup_nil
  | table h hkeys hfields => exact hkeys
  | @other d h hd =>
    cases d with
    | table members => exact absurd rfl (hd members)
    | _ => exact List.nodup_nil

theorem alike (h : Stands layers part v) (field : String) :
    Alike (get? (membersOf v) field) (given part field layers) := by
  cases h with
  | absent h => exact .inl (given_eq_none (by simp [h]) field).symm
  | table h hkeys hfields => exact hfields field
  | @other d h hd =>
    have hgiven : given part field layers = none := given_eq_none (by simpa [h] using hd) field
    rw [hgiven]
    cases d with
    | table members => exact absurd rfl (hd members)
    | _ => exact .inl rfl

/-- A layer that does not have the part changes nothing about it. -/
theorem skip (h : Stands layers part v) {l : Layer} (hl : l part = none) :
    Stands (l :: layers) part v := by
  have htop : topmost part (l :: layers) = topmost part layers := by
    rw [topmost_cons, hl]
    rfl
  cases h with
  | absent h => exact .absent (htop.trans h)
  | table h hkeys hfields =>
    refine .table (htop.trans h) hkeys fun field => ?_
    rw [given, hl]
    exact hfields field
  | other h hd => exact .other (htop.trans h) hd

end Stands

/-- **Laying one more layer over a tree** keeps what the tree has in step with the layers. -/
theorem stands_lay {layers : List Layer} {part : String} {v : Option Datum}
    (h : Stands layers part v) {l : Layer}
    (hl : ∀ members, l part = some (.table members) → (keys members).Nodup) :
    Stands (l :: layers) part (lay v (l part)) := by
  cases hpart : l part with
  | none => exact h.skip hpart
  | some d =>
    have htop : topmost part (l :: layers) = some d := by
      rw [topmost_cons, hpart]
      rfl
    by_cases hd : ∃ members, d = .table members
    · obtain ⟨upper, rfl⟩ := hd
      have hupper := hl upper hpart
      rw [lay_table hupper]
      refine .table htop (nodup_mergeMembers upper h.nodup) fun field => ?_
      have hgiven : given part field (l :: layers) =
          (get? upper field).or (given part field layers) := by
        rw [given, hpart]
      rw [get?_mergeMembers hupper, hgiven]
      cases hfield : get? upper field with
      | none => exact h.alike field
      | some w =>
        by_cases hw : ∃ members, w = .table members
        · obtain ⟨members, rfl⟩ := hw
          refine .inr ⟨?_, members, rfl⟩
          cases get? (membersOf v) field with
          | none => exact ⟨members, rfl⟩
          | some b => cases b <;> simp [lay, merge]
        · rw [lay_of_not_table (not_exists.1 hw)]
          exact .inl rfl
    · rw [lay_of_not_table (not_exists.1 hd)]
      exact .other htop (not_exists.1 hd)

/-! ### The environment -/

theorem read_ne_table {x : Variable} {raw : String} {d : Datum} (h : x.read raw = .ok d)
    (members : Table Datum) : d ≠ .table members := by
  unfold Variable.read at h
  rintro rfl
  repeat' split at h
  all_goals cases h

theorem said_cons_of_none {env : Environment} {x : Variable} (h : env.get? x.name = none)
    (part : String) (rest : List Variable) : said env part (x :: rest) = said env part rest := by
  simp [said, h]

theorem said_cons_of_ne {x : Variable} {part : String} (h : x.place.1 ≠ part) (env : Environment)
    (rest : List Variable) : said env part (x :: rest) = said env part rest := by
  simp [said, h]

theorem said_cons {env : Environment} {x : Variable} {raw : String} {d : Datum}
    (hraw : env.get? x.name = some raw) (hd : x.read raw = .ok d) (rest : List Variable) :
    said env x.place.1 (x :: rest) = (x.place.2, d) :: said env x.place.1 rest := by
  simp [said, hraw, hd, Except.toOption]

/-- Variables have different places, so what they say of a part is about different fields. -/
theorem nodup_said (env : Environment) (part : String) {xs : List Variable}
    (h : xs.Pairwise fun x y => x.place ≠ y.place) : (said env part xs).keys.Nodup := by
  rw [keys, List.Nodup, List.pairwise_map, said, List.pairwise_filterMap]
  refine h.imp fun {x y} hne a ha b hb heq => hne ?_
  split at ha
  · rename_i hx
    split at hb
    · rename_i hy
      obtain ⟨_, -, ha⟩ := Option.bind_eq_some_iff.1 ha
      obtain ⟨_, -, rfl⟩ := Option.map_eq_some_iff.1 ha
      obtain ⟨_, -, hb⟩ := Option.bind_eq_some_iff.1 hb
      obtain ⟨_, -, rfl⟩ := Option.map_eq_some_iff.1 hb
      exact Prod.ext (hx.trans hy.symm) heq
    · cases hb
  · cases ha

/-- A field that is set in the part of a tree. -/
theorem setField_table (parts : Table Datum) (place : String × String) (d : Datum) :
    setField (.table parts) place d =
      .table (parts.set place.1 (.table ((membersOf (parts.get? place.1)).set place.2 d))) := by
  unfold setField membersOf
  rfl

/-- **Variables are laid over a tree as a layer would be**, and counted. -/
theorem get?_overrideWith {env : Environment} {xs : List Variable}
    (hxs : xs.Pairwise fun x y => x.place ≠ y.place) {parts : Table Datum} {tree : Datum} {n : Nat}
    (h : overrideWith env (.table parts) xs = (tree, .ok n)) :
    ∃ parts' : Table Datum, tree = .table parts' ∧ (parts.keys.Nodup → parts'.keys.Nodup) ∧
      n = (xs.filter fun x => env.has x.name).length ∧
      ∀ part, parts'.get? part = lay (parts.get? part) (tableOf? (said env part xs)) := by
  induction xs generalizing parts n with
  | nil =>
    cases h
    exact ⟨parts, rfl, id, rfl, fun part => rfl⟩
  | cons x rest ih =>
    obtain ⟨-, hrest⟩ := List.pairwise_cons.1 hxs
    rw [overrideWith] at h
    split at h
    · rename_i hnone
      obtain ⟨parts', rfl, hnodup, rfl, hget⟩ := ih hrest h
      refine ⟨parts', rfl, hnodup, ?_, fun part => ?_⟩
      · simp [has, hnone]
      · rw [said_cons_of_none hnone, hget]
    · rename_i raw hraw
      split at h
      · cases h
      · rename_i d hd
        rw [setField_table] at h
        obtain ⟨htree, hcount⟩ := Prod.mk.inj h
        obtain ⟨m, hm, rfl⟩ := ok_of_map hcount
        obtain ⟨parts', rfl, hnodup, rfl, hget⟩ := ih hrest (Prod.ext htree hm)
        refine ⟨parts', rfl, fun hparts => hnodup (nodup_set hparts _ _), ?_,
          fun part => ?_⟩
        · simp [has, hraw]
        · rw [hget, get?_set]
          by_cases hpart : x.place.1 = part
          · subst hpart
            have hset : mergeMembers (membersOf (parts.get? x.place.1))
                ((x.place.2, d) :: said env x.place.1 rest) =
                  mergeMembers ((membersOf (parts.get? x.place.1)).set x.place.2 d)
                    (said env x.place.1 rest) := by
              rw [mergeMembers]
              cases get? (membersOf (parts.get? x.place.1)) x.place.2 with
              | none => rfl
              | some b => simp only [merge_of_not_table (read_ne_table hd)]
            have hall := nodup_said env x.place.1 hxs
            rw [said_cons hraw hd] at hall ⊢
            have htable : tableOf? ((x.place.2, d) :: said env x.place.1 rest) =
                some (.table ((x.place.2, d) :: said env x.place.1 rest)) := rfl
            rw [if_pos rfl, htable, lay_table hall, hset]
            cases hothers : said env x.place.1 rest with
            | nil =>
              rw [mergeMembers]
              rfl
            | cons a others =>
              have hnext := (List.nodup_cons.1 hall).2
              rw [hothers] at hnext
              exact lay_table hnext _
          · rw [if_neg hpart, said_cons_of_ne hpart]

/-! ### Files and defaults -/

/-- The tree of a file has each key once. -/
theorem distinct_layerOf {f : FoundFile} {d : Datum} (h : layerOf f = .ok d) : d.Distinct := by
  unfold layerOf at h
  obtain ⟨tree, htree, h⟩ := ok_of_bind h
  split at h
  · rename_i hresolved
    cases h
    refine distinct_resolved? tree ?_ hresolved
    unfold documentOf at htree
    repeat' split at htree
    all_goals cases htree
    exact distinct_ofText? ‹_›
  · cases h

theorem nodup_layer {tree : Datum} (h : tree.Distinct) {part : String} {members : Table Datum}
    (hpart : layer tree part = some (.table members)) : members.keys.Nodup := by
  cases h with
  | table hkeys hall =>
    have hmembers := hall _ (mem_of_get? hpart)
    exact hmembers.members.nodup
  | _ => cases hpart

theorem nodup_defaults : ∀ e ∈ membersOf (some defaults), (keys (membersOf (some e.2))).Nodup := by
  decide +kernel

/-- Without files and variables there are the defaults. -/
theorem stands_defaults : ∃ parts : Table Datum, defaults = .table parts ∧ parts.keys.Nodup ∧
    ∀ part, Stands [layer defaults] part (parts.get? part) := by
  refine ⟨membersOf (some defaults), by rfl, by decide +kernel, fun part => ?_⟩
  have hnone : Stands [] part none := .absent rfl
  have h := stands_lay hnone fun members h => nodup_defaults (part, .table members) (mem_of_get? h)
  rwa [lay_none] at h

/-- A tree in which no table stands for a moment at the root. -/
def IsTable (tree : Datum) : Prop := ∃ members, tree = .table members

instance : DecidablePred IsTable := fun tree =>
  match tree with
  | .table members => .isTrue ⟨members, rfl⟩
  | .text _ | .whole _ | .real _ | .flag _ | .moment _ | .list _ =>
    .isFalse fun ⟨_, h⟩ => by cases h

/-- **Files are laid over a tree one after the other**, those that are there. -/
theorem stands_layFiles {files : List FoundFile}
    (htables : ∀ f ∈ present files, ∀ d, layerOf f = .ok d → IsTable d) {parts : Table Datum}
    (hparts : parts.keys.Nodup) {layers : List Layer}
    (hstands : ∀ part, Stands layers part (parts.get? part)) {tree : Datum} {paths : List String}
    (h : layFiles (.table parts) files = .ok (tree, paths)) :
    paths = (present files).map (·.path) ∧ ∃ parts' : Table Datum, tree = .table parts' ∧
      parts'.keys.Nodup ∧ ∀ part, Stands (fileLayers files ++ layers) part (parts'.get? part) := by
  induction files generalizing parts layers paths with
  | nil =>
    cases h
    exact ⟨rfl, parts, rfl, hparts, hstands⟩
  | cons f rest ih =>
    rw [layFiles] at h
    by_cases habsent : f.isAbsent = true
    · have hpresent : present (f :: rest) = present rest := by simp [present, habsent]
      have hlayers : fileLayers (f :: rest) = fileLayers rest := by rw [fileLayers, hpresent]; rfl
      rw [if_pos habsent] at h
      rw [hpresent] at htables ⊢
      rw [hlayers]
      exact ih htables hparts hstands h
    · have hpresent : present (f :: rest) = f :: present rest := by simp [present, habsent]
      rw [hpresent] at htables ⊢
      obtain ⟨hfirst, hothers⟩ := List.forall_mem_cons.1 htables
      rw [if_neg habsent] at h
      obtain ⟨d, hd, h⟩ := ok_of_bind h
      obtain ⟨⟨next, found⟩, hnext, h⟩ := ok_of_bind h
      cases h
      obtain ⟨upper, rfl⟩ := hfirst d hd
      have hupper := (distinct_layerOf hd).members.nodup
      have hlaid : ∀ part, Stands (layer (.table upper) :: layers) part
          (get? (mergeMembers parts upper) part) := by
        intro part
        rw [get?_mergeMembers hupper]
        exact stands_lay (hstands part) fun members => nodup_layer (distinct_layerOf hd)
      rw [merge] at hnext
      obtain ⟨rfl, parts', rfl, hnodup, hall⟩ :=
        ih hothers (nodup_mergeMembers upper hparts) hlaid hnext
      have hlayers : fileLayers (f :: rest) = fileLayers rest ++ [layer (.table upper)] := by
        rw [fileLayers, hpresent, List.filterMap_cons_some (b := layer (.table upper)) (by rw [hd]; rfl),
          List.reverse_cons, fileLayers]
      refine ⟨rfl, parts', rfl, hnodup, fun part => ?_⟩
      rw [hlayers, List.append_assoc, List.singleton_append]
      exact hall part

/-! ### Reading the tree -/

/-- The form in which a moment is read. -/
def momentText (m : Moment) : Value := .str m.text

theorem keys_memberValues (members : Table Datum) :
    keys (memberValues momentText members) = members.keys := by
  induction members with
  | nil => rfl
  | cons e rest ih => rw [memberValues, keys_cons, keys_cons, ih]

theorem get?_memberValues (members : Table Datum) (k : String) :
    get? (memberValues momentText members) k = (members.get? k).map (·.toValue momentText) := by
  induction members with
  | nil => rfl
  | cons e rest ih =>
    rw [memberValues, get?, get?, ih]
    split <;> rfl

theorem getElem?_itemValues (items : List Datum) (i : Nat) :
    (itemValues momentText items)[i]? = items[i]?.map (·.toValue momentText) := by
  induction items generalizing i with
  | nil => rfl
  | cons d rest ih =>
    rw [itemValues]
    cases i with
    | zero => rfl
    | succ i => exact ih i

theorem keysOnce_toValue (d : Datum) : KeysOnce (d.toValue momentText) := by
  intro members h
  cases d with
  | table entries =>
    rw [Datum.toValue] at h
    cases h
    exact nodup_of_ordered (ordered_ofPairs _)
  | _ => cases h

/-- A field is no object. -/
theorem fieldAt?_ne_obj (s : Settings) (part field : String) (members : Table Value) :
    s.fieldAt? part field ≠ some (.obj members) := by
  rw [fieldAt?_eq]
  intro h
  have hmem := mem_of_get? h
  simp only [partAt, parts, get?] at hmem
  repeat' split at hmem
  all_goals simp [TemplateSettings.fields, CacheSettings.fields, EventSettings.fields,
    BuildSettings.fields, LogSettings.fields, Value.ofStrings, Value.ofNat] at hmem

theorem map_getElem?_of_list {items : List Datum} (names : List String) (field : String) :
    written? names (.arr (itemValues momentText items)) field =
      ((names.idxOf? field).bind fun i => items[i]?).map (·.toValue momentText) := by
  rw [written?]
  cases names.idxOf? field with
  | none => rfl
  | some i => exact getElem?_itemValues items i

/-- **What is written for a field in the merged tree is what the layers decide**, unless both are
tables. -/
theorem alike_written {layers : List Layer} {part : String} {v : Option Datum}
    (h : Stands layers part v) (field : String) :
    ((v.map (·.toValue momentText)).bind fun w => written? (fieldNames part) w field) =
        (decided part field layers).map (·.toValue momentText) ∨
      ∃ members, ((v.map (·.toValue momentText)).bind fun w =>
        written? (fieldNames part) w field) = some (.obj members) := by
  cases h with
  | absent h =>
    refine .inl ?_
    rw [decided, h, given_eq_none (by simp [h])]
    rfl
  | @table upper members h hkeys hfields =>
    have hwritten : written? (fieldNames part) ((Datum.table members).toValue momentText) field =
        (members.get? field).map (·.toValue momentText) := by
      rw [Datum.toValue, written?, get?_ofPairs (by rwa [keys_memberValues]), get?_memberValues]
    rw [Option.map_some, Option.bind_some, hwritten, decided, h]
    rcases hfields field with heq | ⟨⟨inner, heq⟩, -⟩
    · exact .inl (by rw [heq])
    · refine .inr ⟨ofPairs (memberValues momentText inner), ?_⟩
      rw [heq, Option.map_some, Datum.toValue]
  | @other d h hd =>
    refine .inl ?_
    have hgiven : given part field layers = none := given_eq_none (by simpa [h] using hd) field
    rw [Option.map_some, Option.bind_some, decided, h]
    cases d with
    | table members => exact absurd rfl (hd members)
    | list items =>
      rw [Datum.toValue]
      exact map_getElem?_of_list (fieldNames part) field
    | _ =>
      rw [Datum.toValue, hgiven]
      rfl

/-- The tree that settings are read from has what the layers say. -/
theorem stands_load {files : List FoundFile} {env : Environment} {l : Loaded}
    (htables : ∀ f ∈ present files, ∀ d, layerOf f = .ok d → IsTable d)
    (h : load files env = .ok l) :
    (∃ parts : Table Datum, parts.keys.Nodup ∧
      (∀ part, Stands (layersOf files env) part (parts.get? part)) ∧
      ofValue .refused (.obj (ofPairs (memberValues momentText parts))) = .ok l.settings) ∧
    l.overrides = (Variable.all.filter fun x => env.has x.name).length ∧
    l.files = (present files).map (·.path) := by
  obtain ⟨parts, hdefaults, hparts, hstart⟩ := stands_defaults
  unfold load at h
  obtain ⟨⟨tree, paths⟩, htree, h⟩ := ok_of_bind h
  rw [hdefaults] at htree
  obtain ⟨rfl, laid, rfl, hlaid, hstands⟩ := stands_layFiles htables hparts hstart htree
  dsimp only at h
  split at h
  · cases h
  · rename_i tree n hover
    obtain ⟨overridden, rfl, hnodup, rfl, hget⟩ := get?_overrideWith (by decide) hover
    split at h
    · cases h
    · rename_i s hs
      obtain ⟨s', hs', h⟩ := ok_of_bind h
      cases h
      have hsame : s' = s := by
        unfold checked at hs'
        split at hs' <;> cases hs'
        rfl
      refine ⟨⟨overridden, hnodup hlaid, fun part => ?_, hsame ▸ hs⟩, rfl, rfl⟩
      rw [hget]
      refine stands_lay (hstands part) fun members hmembers => ?_
      unfold environmentLayer tableOf? at hmembers
      split at hmembers
      · cases hmembers
      · cases hmembers
        exact nodup_said env part (by decide)

/-- **Settings are decided by their layers.** If settings are loaded from files that hold tables,
each field has the value that the layers decide, or its default where they decide nothing. As many
overrides are counted as there are variables, and the files that are named are those that are
there, in order. -/
theorem load_decides {files : List FoundFile} {env : Environment} {l : Loaded}
    (htables : ∀ f ∈ present files, ∀ d, layerOf f = .ok d → IsTable d)
    (h : load files env = .ok l) :
    (∀ part field, field ∈ fieldNames part →
      l.settings.fieldAt? part field =
        ((decided part field (layersOf files env)).map (·.toValue momentText)).or
          (({} : Settings).fieldAt? part field)) ∧
    l.overrides = (Variable.all.filter fun x => env.has x.name).length ∧
    l.files = (present files).map (·.path) := by
  obtain ⟨⟨parts, hparts, hstands, hread⟩, hcount, hfiles⟩ := stands_load htables h
  refine ⟨fun part field hf => ?_, hcount, hfiles⟩
  have hroot : (keys (memberValues momentText parts)).Nodup := by
    rwa [keys_memberValues]
  have hpart : ∀ part, get? (ofPairs (memberValues momentText parts)) part =
      (parts.get? part).map (·.toValue momentText) := by
    intro part
    rw [get?_ofPairs hroot, get?_memberValues]
  have honce : ∀ name v, get? (ofPairs (memberValues momentText parts)) name = some v →
      KeysOnce v := by
    intro name v hv
    rw [hpart] at hv
    obtain ⟨d, -, rfl⟩ := Option.map_eq_some_iff.1 hv
    exact keysOnce_toValue d
  have hfield := fieldAt?_ofValue (nodup_of_ordered (ordered_ofPairs _)) honce hread hf
  rw [hpart] at hfield
  rcases alike_written (hstands part) field with heq | ⟨members, heq⟩
  · rw [hfield, heq]
  · rw [heq, Option.some_or] at hfield
    exact absurd hfield (fieldAt?_ne_obj l.settings part field members)

/-- A file with a part as an array, and one with parts as tables. -/
def arrayFile : FoundFile := ⟨"project.toml", .ok "logging = [\"debug\"]".toUTF8⟩

@[inherit_doc arrayFile]
def tableFile : FoundFile :=
  ⟨"user.toml", .ok "[logging]\nformat = \"json\"\n[templates]\nhot_reload = true".toUTF8⟩

theorem isTable_of_all {files : List FoundFile}
    (h : ∀ f ∈ present files, ((layerOf f).toOption.all fun d => decide (IsTable d)) = true) :
    ∀ f ∈ present files, ∀ d, layerOf f = .ok d → IsTable d := by
  intro f hf d hd
  have hall := h f hf
  rw [hd] at hall
  exact of_decide_eq_true hall

theorem exists_load {files : List FoundFile} {env : Environment} {s : Settings}
    (h : (load files env).toOption.map (·.settings) = some s) :
    ∃ l, load files env = .ok l ∧ l.settings = s := by
  cases hl : load files env with
  | ok l =>
    rw [hl] at h
    exact ⟨l, rfl, Option.some.inj h⟩
  | error e =>
    rw [hl] at h
    cases h

/-- A table under an array, and a variable over both. -/
theorem load_decides_variable_over_array :
    let files := [tableFile, arrayFile]
    let env : Environment := [("PANELKIT_HOT_RELOAD", "off")]
    (∀ f ∈ present files, ∀ d, layerOf f = .ok d → IsTable d) ∧
    ∃ l, load files env = .ok l ∧
      l.settings = { templates := { hotReload := false }, logging := { level := "debug" } } ∧
      l.settings.fieldAt? "logging" "level" =
        ((decided "logging" "level" (layersOf files env)).map (·.toValue momentText)).or
          (({} : Settings).fieldAt? "logging" "level") ∧
      l.overrides = 1 ∧ l.files = ["user.toml", "project.toml"] := by
  intro files env
  have htables : ∀ f ∈ present files, ∀ d, layerOf f = .ok d → IsTable d :=
    isTable_of_all (by decide +kernel)
  have hload : (load files env).toOption.map (·.settings) =
      some { templates := { hotReload := false }, logging := { level := "debug" } } := by
    decide +kernel
  obtain ⟨l, hl, hs⟩ := exists_load hload
  obtain ⟨hfields, hcount, hfiles⟩ := load_decides htables hl
  exact ⟨htables, l, hl, hs, hfields "logging" "level" (by decide), hcount, hfiles⟩

/-- A part as an array: no layer gives the field, and it has the element in its place. -/
theorem load_array_by_place :
    (∀ f ∈ present [arrayFile], ∀ d, layerOf f = .ok d → IsTable d) ∧
    ∃ l, load [arrayFile] [] = .ok l ∧
      l.settings.fieldAt? "logging" "level" ≠
        ((given "logging" "level" (layersOf [arrayFile] [])).map (·.toValue momentText)).or
          (({} : Settings).fieldAt? "logging" "level") := by
  refine ⟨isTable_of_all (by decide +kernel), ?_⟩
  have hload : (load [arrayFile] []).toOption.map (·.settings) =
      some { logging := { level := "debug" } } := by
    decide +kernel
  obtain ⟨l, hl, hs⟩ := exists_load hload
  have hgiven : (given "logging" "level" (layersOf [arrayFile] [])).isNone = true := by
    decide +kernel
  refine ⟨l, hl, ?_⟩
  rw [Option.isNone_iff_eq_none.1 hgiven, hs, fieldAt?_eq, fieldAt?_eq]
  intro heq
  have hlevels : some (Value.str "debug") = some (Value.str "info") := heq
  simp at hlevels

end Settings

end LivePanel
