import LivePanel.Template.Action
import LivePanel.Template.FromYaml.Fields

/-!
# Actions in a template document

An action is a mapping with a type, or a list of steps. A step is the name of an
action or an action written in place. An entry `then` adds steps behind any
action.
-/

namespace LivePanel

/-! ### What lies inside a value is smaller -/

theorem Yaml.Entries.sizeOf_get? {m : Yaml.Entries} {k : String} {v : Yaml}
    (h : m.get? k = some v) : sizeOf v < sizeOf m := by
  induction m with
  | nil => simp [Yaml.Entries.get?] at h
  | cons e rest ih =>
    obtain ⟨key, w⟩ := e
    have hrest : sizeOf rest < sizeOf ((key, w) :: rest) := by
      simp only [List.cons.sizeOf_spec]
      omega
    cases key with
    | str s =>
      simp only [Yaml.Entries.get?] at h
      split at h
      · cases h
        simp only [List.cons.sizeOf_spec, Prod.mk.sizeOf_spec]
        omega
      · exact Nat.lt_trans (ih h) hrest
    | _ =>
      simp only [Yaml.Entries.get?] at h
      exact Nat.lt_trans (ih h) hrest

theorem Yaml.sizeOf_untagged_le (v : Yaml) : sizeOf v.untagged ≤ sizeOf v := by
  induction v using Yaml.untagged.induct with
  | case1 _ v ih =>
    simp only [Yaml.untagged, Yaml.tagged.sizeOf_spec]
    omega
  | case2 v h =>
    cases v <;> first | exact Nat.le_refl _ | exact absurd rfl (h _ _)

theorem Yaml.sizeOf_field? {v w : Yaml} {k : String} (h : v.field? k = some w) :
    sizeOf w < sizeOf v := by
  have hu := Yaml.sizeOf_untagged_le v
  unfold Yaml.field? at h
  split at h
  · rename_i entries he
    have := Yaml.Entries.sizeOf_get? h
    rw [he] at hu
    simp at hu
    omega
  · simp at h

namespace Template.FromYaml

/-- The texts that name a kind of action. -/
inductive ActionType where
  | setState
  | send
  | branch
  | request
  | sequence
deriving DecidableEq

/-- The kind of action that a text names. -/
def actionType? (s : String) : Option ActionType :=
  if s = "setState" || s = "state" || s = "update" then some .setState
  else if s = "sendMessage" || s = "message" || s = "dispatch" then some .send
  else if s = "conditional" || s = "branch" || s = "if" then some .branch
  else if s = "requestAI" || s = "request" || s = "ai" then some .request
  else if s = "sequence" then some .sequence
  else none

/-- An action with the steps that `then` adds. -/
def withThen (action : Action) (following : List Action) : Action :=
  if following.isEmpty then action else .sequence (action :: following)

/-- The condition of a branch. -/
def whenOf? (item : Yaml) : Option String :=
  match item.field? "when" with
  | some (.str s) => some s
  | some (.bool true) => some "true"
  | some (.bool false) => some "false"
  | _ => none

/-- A position in a list, as text. -/
def indexed (path : String) (i : Nat) : String := path ++ "[" ++ toString i ++ "]"

mutual
/-- The action that a mapping describes. -/
def actionOfEntries (m : Yaml.Entries) (path : String) : Noted (Option Action) :=
  match (m.get? "type").bind Yaml.asStr? with
  | none => .problem (path ++ ".type") "missing action type" none
  | some name =>
    let described : Noted (Option Action) :=
      match actionType? name with
      | none => .problem (path ++ ".type") ("unknown action type '" ++ name ++ "'") none
      | some .setState => do
        match ← stringField m ["path", "key"] path with
        | none => pure none
        | some target => return some (.setState target (← jsonField m "value" path))
      | some .send => do
        match ← stringField m ["message", "messageType"] path with
        | none => pure none
        | some message => return some (.send message (← jsonField m "payload" path))
      | some .branch => do return some (.branch (← branchesField m path))
      | some .request => do
        match ← stringField m ["prompt"] path with
        | none => pure none
        | some prompt =>
          let context ← jsonField m "context" path
          let storeAs := (m.get? "storeAs").bind Yaml.asStr?
          return some (.request prompt context storeAs (← stepsField m "onSuccess" path))
      | some .sequence => do return some (.sequence (← stepsField m "steps" path))
    match described.value with
    | none => ⟨none, described.problems⟩
    | some a =>
      let following := stepsField m "then" path
      ⟨some (withThen a following.value), described.problems ++ following.problems⟩
termination_by 4 * sizeOf m + 3

/-- The branches of a conditional action. -/
def branchesField (m : Yaml.Entries) (path : String) : Noted (List (String × Action)) :=
  match h : m.get? "branches" with
  | none => .problem (path ++ ".branches") "conditional action needs branches" []
  | some (.seq items) =>
    have := Yaml.Entries.sizeOf_get? h
    branchItems items (path ++ ".branches") 0
  | some _ => .problem (path ++ ".branches") "must be a sequence" []
termination_by 4 * sizeOf m + 2
decreasing_by
  simp at this
  omega

/-- The branches of a list whose first has position `i`. -/
def branchItems (items : List Yaml) (path : String) (i : Nat) : Noted (List (String × Action)) :=
  match items with
  | [] => .clean []
  | item :: rest =>
    let place := indexed path i
    let first : Noted (Option (String × Action)) :=
      match whenOf? item with
      | none => .problem place "branch needs a \x60when\x60 expression" none
      | some cond =>
        match h : item.field? "action" with
        | none => .problem place "branch needs an \x60action\x60" none
        | some v =>
          have := Yaml.sizeOf_field? h
          let a := step v (place ++ ".action")
          match a.value with
          | some a' => ⟨some (cond, a'), a.problems⟩
          | none =>
            ⟨none, a.problems ++ (Noted.problem place "branch needs an \x60action\x60" ()).problems⟩
    let others := branchItems rest path (i + 1)
    ⟨first.value.toList ++ others.value, first.problems ++ others.problems⟩
termination_by 4 * sizeOf items
decreasing_by all_goals simp <;> omega

/-- A step: the name of an action, or an action in place. -/
def step (v : Yaml) (path : String) : Noted (Option Action) :=
  match v with
  | .str name =>
    if name.isEmpty then .problem path "expected an action name or an inline action" none
    else .clean (some (.call name))
  | .map m => actionOfEntries m path
  | .seq items =>
    let steps := stepItems items path 0
    ⟨some (.sequence steps.value), steps.problems⟩
  | _ => .problem path "expected an action name or an inline action" none
termination_by 4 * sizeOf v

/-- The steps of a list whose first has position `i`; those that cannot be used are left out. -/
def stepItems (items : List Yaml) (path : String) (i : Nat) : Noted (List Action) :=
  match items with
  | [] => .clean []
  | item :: rest =>
    let first := step item (indexed path i)
    let others := stepItems rest path (i + 1)
    ⟨first.value.toList ++ others.value, first.problems ++ others.problems⟩
termination_by 4 * sizeOf items

/-- The steps under a key: a list of them, or one. -/
def stepsField (m : Yaml.Entries) (key path : String) : Noted (List Action) :=
  match h : m.get? key with
  | none => .clean []
  | some .null => .clean []
  | some (.seq items) =>
    have := Yaml.Entries.sizeOf_get? h
    stepItems items (path ++ "." ++ key) 0
  | some single =>
    have := Yaml.Entries.sizeOf_get? h
    let a := step single (path ++ "." ++ key)
    ⟨a.value.toList, a.problems⟩
termination_by 4 * sizeOf m + 1
decreasing_by
  · simp at this
    omega
  · omega
end

/-- The action that a value describes. -/
def action (v : Yaml) (path : String) : Noted (Option Action) :=
  match v with
  | .map m => actionOfEntries m path
  | .seq items =>
    let steps := stepItems items path 0
    ⟨some (.sequence steps.value), steps.problems⟩
  | _ => .problem path "action must be a mapping or a list of steps" none

/-- The actions of a mapping of names, a later one of a name winning. -/
def namedActions (acc : Table Action) : Yaml.Entries → Noted (Table Action)
  | [] => .clean acc
  | (k, v) :: rest =>
    match k.asStr? with
    | none =>
      let others := namedActions acc rest
      ⟨others.value,
        (Noted.problem "actions" "action names must be non-empty strings" ()).problems ++
          others.problems⟩
    | some name =>
      if name.isEmpty then
        let others := namedActions acc rest
        ⟨others.value,
          (Noted.problem "actions" "action names must be non-empty strings" ()).problems ++
            others.problems⟩
      else
        let a := action v ("actions." ++ name)
        let acc :=
          match a.value with
          | some a' => acc.put name a'
          | none => acc
        let others := namedActions acc rest
        ⟨others.value, a.problems ++ others.problems⟩

end Template.FromYaml

end LivePanel
