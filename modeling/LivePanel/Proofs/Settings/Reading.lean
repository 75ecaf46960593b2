import LivePanel.Proofs.Toml.Distinct
import LivePanel.Settings.Reading

/-!
# What settings are read as

Settings are read part by part. A part may be written as an object, whose members are its fields by
name, or as an array, whose elements are its fields in order. In both forms a field that is there
has the value that is written, unchanged, and one that is not has its default. Which fields there
are, and in which order, is told by the settings themselves, written out.

## What is proved

* `holds_takeMembers`, `holds_takeElements`: readers that each set a field of their own, taken
  together.
* `shows_ofValue`: a field of settings that were read is the field of the value, or its default.
-/

namespace LivePanel

/-! ### Settings written out -/

/-- The fields of a part, in the order of an array. -/
def TemplateSettings.fields (t : TemplateSettings) : Table Value := [
  ("directory", .str t.directory),
  ("extensions", .ofStrings t.extensions),
  ("hot_reload", .bool t.hotReload),
  ("debounce_ms", .ofNat t.debounce)]

@[inherit_doc TemplateSettings.fields]
def CacheSettings.fields (c : CacheSettings) : Table Value :=
  [("activity_log_capacity", .ofNat c.activities)]

@[inherit_doc TemplateSettings.fields]
def EventSettings.fields (e : EventSettings) : Table Value := [
  ("channel_capacity", .ofNat e.channelCapacity),
  ("max_emit_depth", .ofNat e.emitDepth)]

@[inherit_doc TemplateSettings.fields]
def BuildSettings.fields (b : BuildSettings) : Table Value := [
  ("max_depth", .ofNat b.maxDepth),
  ("warn_unused_actions", .bool b.warnUnusedActions)]

@[inherit_doc TemplateSettings.fields]
def LogSettings.fields (l : LogSettings) : Table Value := [
  ("level", .str l.level),
  ("format", .str l.format),
  ("directives", .ofStrings l.directives)]

namespace Settings

open Table

/-- The parts of the settings with their fields, in the order of an array. -/
def parts (s : Settings) : Table (Table Value) := [
  ("templates", s.templates.fields),
  ("cache", s.cache.fields),
  ("events", s.events.fields),
  ("build", s.build.fields),
  ("logging", s.logging.fields)]

/-- What a part of the settings says. -/
def partAt (s : Settings) (part : String) : Table Value := (s.parts.get? part).getD []

/-- The names of the fields of a part, in order. -/
def fieldNames (part : String) : List String := (({} : Settings).partAt part).keys

/-- The value of a field of a part. -/
def fieldAt? (s : Settings) (part field : String) : Option Value :=
  (s.toValue.field? part).bind (·.field? field)

theorem keys_partAt (s : Settings) (part : String) : (s.partAt part).keys = fieldNames part := by
  simp only [fieldNames, partAt, parts, get?]
  repeat' split
  all_goals rfl

theorem nodup_fieldNames (part : String) : (fieldNames part).Nodup := by
  simp only [fieldNames, partAt, parts, get?]
  repeat' split
  all_goals decide

theorem toValue_eq (s : Settings) :
    s.toValue = .ofPairs (s.parts.map fun e => (e.1, .ofPairs e.2)) := rfl

/-- The value of a field is the one that its part says. -/
theorem fieldAt?_eq (s : Settings) (part field : String) :
    s.fieldAt? part field = (s.partAt part).get? field := by
  have hget : ∀ t : Table (Table Value),
      get? (t.map fun e => (e.1, Value.ofPairs e.2)) part = (t.get? part).map Value.ofPairs := by
    intro t
    induction t with
    | nil => rfl
    | cons e rest ih =>
      simp only [List.map_cons, get?, ih]
      split <;> rfl
  have hnodup : (keys (s.parts.map fun e => (e.1, Value.ofPairs e.2))).Nodup := by
    have hkeys : keys (s.parts.map fun e => (e.1, Value.ofPairs e.2)) = ({} : Settings).parts.keys :=
      rfl
    rw [hkeys]
    decide
  have hpart := nodup_fieldNames part
  rw [← keys_partAt s] at hpart
  rw [fieldAt?, toValue_eq, Value.ofPairs, Value.field?, get?_ofPairs hnodup, hget]
  unfold partAt at hpart ⊢
  cases hp : s.parts.get? part with
  | none => rfl
  | some members =>
    rw [hp] at hpart
    exact get?_ofPairs hpart field

/-! ### Readers of fields -/

/-- What is written for a field: the member of an object by its name, or the element of an array by
its place among the names. -/
def written? (names : List String) (v : Value) (name : String) : Option Value :=
  match v with
  | .obj members => Table.get? members name
  | .arr items => (names.idxOf? name).bind fun i => items[i]?
  | _ => none

section

variable {σ α : Type} {readers : List (FieldReader σ)} {view : String → σ → α}
  {sense : String → Value → α → Prop}

/-- Each reader sets the field of its own name, in the sense that is given, and no other. -/
def Sets (readers : List (FieldReader σ)) (view : String → σ → α)
    (sense : String → Value → α → Prop) : Prop :=
  ∀ e ∈ readers, ∀ s v s', e.2 s v = .ok s' →
    sense e.1 v (view e.1 s') ∧ ∀ name, name ≠ e.1 → view name s' = view name s

/-- How a field ends, where something may be written for it. -/
def Ends (sense : String → Value → α → Prop) (name : String) (written : Option Value)
    (before after : α) : Prop :=
  match written with
  | some v => sense name v after
  | none => after = before

variable (view) in
/-- **Members taken up one after the other end as those of their names.** -/
theorem ends_takeMembers (h : Sets readers view sense) {members : Table Value}
    (hm : members.keys.Nodup) {start s : σ} (hs : takeMembers readers start members = .ok s)
    {name : String} (hn : name ∈ keys readers) :
    Ends sense name (members.get? name) (view name start) (view name s) := by
  obtain ⟨read, hread⟩ := Option.isSome_iff_exists.1 (has_iff_mem_keys.2 hn)
  induction members generalizing start with
  | nil =>
    cases hs
    rfl
  | cons e rest ih =>
    obtain ⟨hnot, hrest⟩ := List.nodup_cons.1 hm
    rw [takeMembers, List.foldlM_cons] at hs
    obtain ⟨next, hnext, hs⟩ := ok_of_bind hs
    have hend := ih hrest hs
    rw [get?]
    by_cases hk : e.1 = name
    · rw [if_pos hk]
      rw [get?_eq_none_of_not_mem (hk ▸ hnot)] at hend
      rw [hk, hread] at hnext
      have hset := (h _ (mem_of_get? hread) _ _ _ hnext).1
      rw [Ends] at hend
      rwa [Ends, hend]
    · rw [if_neg hk]
      have hsame : view name next = view name start := by
        split at hnext
        · rename_i other hother
          exact (h _ (mem_of_get? hother) _ _ _ hnext).2 name (Ne.symm hk)
        · cases hnext
          rfl
      rwa [← hsame]

theorem view_takeElements (h : Sets readers view sense) {items : List Value} {start s : σ}
    (hs : takeElements readers start items = .ok s) {name : String} (hn : name ∉ keys readers) :
    view name s = view name start := by
  induction readers generalizing items start with
  | nil =>
    cases hs
    rfl
  | cons e rest ih =>
    cases items with
    | nil =>
      cases hs
      rfl
    | cons v items =>
      rw [takeElements, List.zip_cons_cons, List.foldlM_cons] at hs
      obtain ⟨next, hnext, hs⟩ := ok_of_bind hs
      rw [keys_cons, List.mem_cons, not_or] at hn
      rw [ih (fun e he => h e (List.mem_cons_of_mem _ he)) hs hn.2]
      exact (h e (List.mem_cons_self ..) _ _ _ hnext).2 _ hn.1

/-- **Elements taken up one after the other end as those of their places.** -/
theorem ends_takeElements (h : Sets readers view sense) (hk : (keys readers).Nodup)
    {items : List Value} {start s : σ} (hs : takeElements readers start items = .ok s)
    {name : String} (hn : name ∈ keys readers) :
    Ends sense name (((keys readers).idxOf? name).bind fun i => items[i]?) (view name start)
      (view name s) := by
  induction readers generalizing items start with
  | nil => cases hn
  | cons e rest ih =>
    obtain ⟨hnot, hrest⟩ := List.nodup_cons.1 hk
    cases items with
    | nil =>
      cases hs
      cases ((keys (e :: rest)).idxOf? name) <;> rfl
    | cons v items =>
      rw [takeElements, List.zip_cons_cons, List.foldlM_cons] at hs
      obtain ⟨next, hnext, hs⟩ := ok_of_bind hs
      obtain ⟨hset, hsame⟩ := h e (List.mem_cons_self ..) _ _ _ hnext
      have hothers : Sets rest view sense := fun e he => h e (List.mem_cons_of_mem _ he)
      rw [keys_cons, List.idxOf?_cons]
      by_cases heq : e.1 = name
      · subst heq
        simp only [beq_self_eq_true, if_true, Option.bind_some, List.getElem?_cons_zero, Ends]
        rw [view_takeElements hothers hs hnot]
        exact hset
      · have hn : name ∈ keys rest := (List.mem_cons.1 hn).resolve_left (Ne.symm heq)
        have hend := ih hothers hrest hs hn
        rw [hsame name (Ne.symm heq)] at hend
        simp only [beq_eq_false_iff_ne.2 heq, Bool.false_eq_true, if_false]
        cases hidx : (keys rest).idxOf? name with
        | none => rwa [hidx] at hend
        | some i => rwa [hidx] at hend

/-- Members of objects are looked up, so each key should be there once. -/
def KeysOnce (v : Value) : Prop := ∀ members, v = .obj members → (keys members).Nodup

/-- **The fields of a part end as what is written for them**, in either form. -/
theorem ends_part (h : Sets readers view sense) (hk : (keys readers).Nodup) {surplus : Surplus}
    {what : String} {start s : σ} {v : Value} (hv : KeysOnce v)
    (hs : part surplus what readers start v = .ok s) {name : String} (hn : name ∈ keys readers) :
    Ends sense name (written? (keys readers) v name) (view name start) (view name s) := by
  unfold part at hs
  split at hs
  · exact ends_takeMembers view h (hv _ rfl) hs hn
  · obtain ⟨taken, htaken, hs⟩ := ok_of_bind hs
    have hend := ends_takeElements h hk htaken hn
    split at hs
    · cases hs
    · cases hs
      exact hend
  · cases hs

end

/-! ### The parts of the settings -/

/-- A part that was read of a value: each field is what is written for it, or its default. -/
def Shows (part : String) (v : Value) (fields : Table Value) : Prop :=
  ∀ name ∈ fieldNames part, get? fields name =
    (written? (fieldNames part) v name).or (get? (({} : Settings).partAt part) name)

/-- Readers that write the fields of a part as they are read show the value. -/
theorem shows_of_part {σ : Type} {readers : List (FieldReader σ)} (fields : σ → Table Value)
    {name what : String} {surplus : Surplus} {start s : σ} {v : Value}
    (hkeys : keys readers = fieldNames name) (hstart : fields start = ({} : Settings).partAt name)
    (h : Sets readers (fun field s => get? (fields s) field) fun _ v x => x = some v)
    (hv : KeysOnce v) (hs : part surplus what readers start v = .ok s) :
    Shows name v (fields s) := by
  intro field hn
  have hend := ends_part h (hkeys ▸ nodup_fieldNames name) hv hs (hkeys ▸ hn)
  rw [hkeys, hstart] at hend
  cases hw : written? (fieldNames name) v field with
  | none =>
    rw [hw] at hend
    exact hend
  | some w =>
    rw [hw] at hend
    exact hend

theorem text_ok {what : String} {v : Value} {s : String} (h : text what v = .ok s) : v = .str s := by
  unfold text at h
  split at h <;> cases h
  rfl

theorem truth_ok {v : Value} {b : Bool} (h : truth v = .ok b) : v = .bool b := by
  unfold truth at h
  split at h <;> cases h
  rfl

theorem count_ok {what : String} {v : Value} {n : Nat} (h : count what v = .ok n) :
    v = .ofNat n := by
  unfold count at h
  split at h
  · split at h
    · cases h
    · cases h
      rename_i m hm
      rw [Value.ofNat, Int.toNat_of_nonneg (by omega)]
  · cases h

theorem textList_ok {v : Value} {ss : List String} (h : textList v = .ok ss) :
    v = .ofStrings ss := by
  unfold textList at h
  split at h
  · rename_i items
    rw [Value.ofStrings, Value.arr.injEq]
    induction items generalizing ss with
    | nil =>
      cases h
      rfl
    | cons item rest ih =>
      rw [List.mapM_cons] at h
      obtain ⟨s, hs, h⟩ := ok_of_bind h
      obtain ⟨others, hothers, h⟩ := ok_of_bind h
      cases h
      rw [List.map_cons, ← ih hothers, text_ok hs]
  · cases h

/-- A reader that puts what it has read under its name writes that field as it is read. -/
theorem sets_field {σ α : Type} {fields : σ → Table Value} {name : String}
    {read : Value → Except Misfit α} (put : σ → α → σ) {shown : α → Value} {s s' : σ} {v : Value}
    (h : (read v).map (put s) = .ok s') (hread : ∀ {v x}, read v = .ok x → v = shown x)
    (hput : ∀ s x, fields (put s x) = set (fields s) name (shown x)) :
    get? (fields s') name = some v ∧
      ∀ other, other ≠ name → get? (fields s') other = get? (fields s) other := by
  obtain ⟨x, hx, rfl⟩ := ok_of_map h
  rw [hread hx, hput]
  refine ⟨?_, fun other hne => ?_⟩
  · rw [get?_set, if_pos rfl]
  · rw [get?_set, if_neg (Ne.symm hne)]

section

variable {surplus : Surplus} {v : Value} (hv : KeysOnce v)
include hv

theorem shows_templatesOf {x : TemplateSettings} (h : templatesOf surplus v = .ok x) :
    Shows "templates" v x.fields := by
  refine shows_of_part TemplateSettings.fields rfl rfl (fun e he _ v t ht => ?_) hv h
  simp only [List.mem_cons, List.not_mem_nil, or_false] at he
  rcases he with rfl | rfl | rfl | rfl
  · exact sets_field (fun (s : TemplateSettings) x => { s with directory := x })
      ht text_ok fun _ _ => rfl
  · exact sets_field (fun (s : TemplateSettings) x => { s with extensions := x })
      ht textList_ok fun _ _ => rfl
  · exact sets_field (fun (s : TemplateSettings) x => { s with hotReload := x })
      ht truth_ok fun _ _ => rfl
  · exact sets_field (fun (s : TemplateSettings) x => { s with debounce := x })
      ht count_ok fun _ _ => rfl

theorem shows_cacheOf {x : CacheSettings} (h : cacheOf surplus v = .ok x) :
    Shows "cache" v x.fields := by
  refine shows_of_part CacheSettings.fields rfl rfl (fun e he _ v t ht => ?_) hv h
  obtain rfl := List.mem_singleton.1 he
  exact sets_field (fun (s : CacheSettings) x => { s with activities := x })
    ht count_ok fun _ _ => rfl

theorem shows_eventsOf {x : EventSettings} (h : eventsOf surplus v = .ok x) :
    Shows "events" v x.fields := by
  refine shows_of_part EventSettings.fields rfl rfl (fun e he _ v t ht => ?_) hv h
  simp only [List.mem_cons, List.not_mem_nil, or_false] at he
  rcases he with rfl | rfl
  · exact sets_field (fun (s : EventSettings) x => { s with channelCapacity := x })
      ht count_ok fun _ _ => rfl
  · exact sets_field (fun (s : EventSettings) x => { s with emitDepth := x })
      ht count_ok fun _ _ => rfl

theorem shows_buildOf {x : BuildSettings} (h : buildOf surplus v = .ok x) :
    Shows "build" v x.fields := by
  refine shows_of_part BuildSettings.fields rfl rfl (fun e he _ v t ht => ?_) hv h
  simp only [List.mem_cons, List.not_mem_nil, or_false] at he
  rcases he with rfl | rfl
  · exact sets_field (fun (s : BuildSettings) x => { s with maxDepth := x })
      ht count_ok fun _ _ => rfl
  · exact sets_field (fun (s : BuildSettings) x => { s with warnUnusedActions := x })
      ht truth_ok fun _ _ => rfl

theorem shows_loggingOf {x : LogSettings} (h : loggingOf surplus v = .ok x) :
    Shows "logging" v x.fields := by
  refine shows_of_part LogSettings.fields rfl rfl (fun e he _ v t ht => ?_) hv h
  simp only [List.mem_cons, List.not_mem_nil, or_false] at he
  rcases he with rfl | rfl | rfl
  · exact sets_field (fun (s : LogSettings) x => { s with level := x }) ht text_ok fun _ _ => rfl
  · exact sets_field (fun (s : LogSettings) x => { s with format := x }) ht text_ok fun _ _ => rfl
  · exact sets_field (fun (s : LogSettings) x => { s with directives := x })
      ht textList_ok fun _ _ => rfl

end

/-- The parts of settings that were read show the parts of the value, or are the defaults. -/
theorem shows_ofValue {surplus : Surplus} {root : Table Value} (hroot : root.keys.Nodup)
    {s : Settings} (h : ofValue surplus (.obj root) = .ok s) {name : String}
    (hn : name ∈ keys ({} : Settings).parts) :
    Ends (fun part v fields => KeysOnce v → Shows part v fields) name (root.get? name)
      (({} : Settings).partAt name) (s.partAt name) := by
  refine ends_takeMembers (fun name s => partAt s name) (fun e he _ v t ht => ?_) hroot h hn
  simp only [List.mem_cons, List.not_mem_nil, or_false] at he
  rcases he with rfl | rfl | rfl | rfl | rfl
  · obtain ⟨x, hx, rfl⟩ := ok_of_map ht
    exact ⟨fun hv => shows_templatesOf hv hx, fun other hne => by
      simp [partAt, parts, get?, Ne.symm hne]⟩
  · obtain ⟨x, hx, rfl⟩ := ok_of_map ht
    exact ⟨fun hv => shows_cacheOf hv hx, fun other hne => by
      simp [partAt, parts, get?, Ne.symm hne]⟩
  · obtain ⟨x, hx, rfl⟩ := ok_of_map ht
    exact ⟨fun hv => shows_eventsOf hv hx, fun other hne => by
      simp [partAt, parts, get?, Ne.symm hne]⟩
  · obtain ⟨x, hx, rfl⟩ := ok_of_map ht
    exact ⟨fun hv => shows_buildOf hv hx, fun other hne => by
      simp [partAt, parts, get?, Ne.symm hne]⟩
  · obtain ⟨x, hx, rfl⟩ := ok_of_map ht
    exact ⟨fun hv => shows_loggingOf hv hx, fun other hne => by
      simp [partAt, parts, get?, Ne.symm hne]⟩

/-- **A field of settings that were read is the field of the value, or has its default.** -/
theorem fieldAt?_ofValue {surplus : Surplus} {root : Table Value} (hroot : root.keys.Nodup)
    (hv : ∀ part v, root.get? part = some v → KeysOnce v) {s : Settings}
    (h : ofValue surplus (.obj root) = .ok s) {part field : String} (hf : field ∈ fieldNames part) :
    s.fieldAt? part field =
      ((root.get? part).bind fun v => written? (fieldNames part) v field).or
        (({} : Settings).fieldAt? part field) := by
  have hpart : part ∈ keys ({} : Settings).parts := by
    refine Decidable.byContradiction fun hn => ?_
    rw [fieldNames, partAt, get?_eq_none_of_not_mem hn] at hf
    cases hf
  have hend := shows_ofValue hroot h hpart
  rw [fieldAt?_eq, fieldAt?_eq]
  cases hget : root.get? part with
  | none =>
    rw [hget] at hend
    exact congrArg (get? · field) hend
  | some v =>
    rw [hget] at hend
    exact hend (hv part v hget) field hf

end Settings

end LivePanel
