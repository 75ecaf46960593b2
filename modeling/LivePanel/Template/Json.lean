import LivePanel.Template.Arena
import LivePanel.Template.FromYaml.Document
import LivePanel.Value.Decode

/-!
# Templates as JSON

The JSON forms of templates, actions and problems. Optional parts that are absent
are left out or null, as each form says.
-/

namespace LivePanel

/-- A member that is left out where the value is absent. -/
def Value.optionalField (key : String) (v : Option Value) : List (String × Value) :=
  match v with
  | some v => [(key, v)]
  | none => []

/-- The members of a table of texts. -/
def Value.ofTexts (t : Table String) : Value := .obj (t.map fun e => (e.1, .str e.2))

/-- The JSON form of an icon. -/
def Icon.toValue (icon : Icon) : Value :=
  .obj ([("block", .str icon.block)] ++
    Value.optionalField "color" (icon.color.map .str) ++
    Value.optionalField "action" (icon.action.map .str) ++
    [("matchColor", .bool icon.matchColor)] ++
    Value.optionalField "position" (icon.position.map .str))

namespace Action

mutual
/-- The JSON form of an action; a call is the name that it calls. -/
def toValue : Action → Value
  | call name => .str name
  | setState path value =>
    .obj [("type", .str "state_update"), ("path", .str path), ("value", value)]
  | send message payload =>
    .obj [("type", .str "message_dispatch"), ("message_type", .str message), ("payload", payload)]
  | branch branches =>
    .obj [("type", .str "conditional_branch"), ("branches", .arr (branchValues branches))]
  | request prompt context storeAs onSuccess =>
    .obj [("type", .str "external_request"), ("prompt", .str prompt), ("context", context),
      ("store_as", Value.ofOption storeAs), ("on_success", .arr (stepValues onSuccess))]
  | sequence steps => .obj [("type", .str "sequence"), ("steps", .arr (stepValues steps))]

/-- The JSON forms of steps. -/
def stepValues : List Action → List Value
  | [] => []
  | a :: rest => toValue a :: stepValues rest

/-- The JSON forms of branches. -/
def branchValues : List (String × Action) → List Value
  | [] => []
  | (cond, a) :: rest =>
    .obj [("when", .str cond), ("action", toValue a)] :: branchValues rest
end

end Action

namespace Template

/-- The JSON form of a component's kind without its condition. -/
def kindValue : ComponentKind → Value
  | .leaf b => .obj [("kind", .str "leaf"), ("block", .str b)]
  | .container b => .obj [("kind", .str "container"), ("block", Value.ofOption b)]

/-- The JSON form of a slot's kind. -/
def Slot.kindValue (s : Slot) : Value :=
  match s.condition with
  | none => Template.kindValue s.kind
  | some c =>
    .obj [("kind", .str "conditional"), ("condition", .str c), ("inner", Template.kindValue s.kind)]

/-- The JSON form of a slot. -/
def Slot.toValue (s : Slot) : Value :=
  .obj [("kind", s.kindValue), ("props", .obj s.props), ("on", Value.ofTexts s.bindings),
    ("icons", .arr (s.icons.map Icon.toValue)), ("children", .arr (s.children.map Value.ofNat)),
    ("path", .str (Location.text s.location))]

/-- The JSON form of an arena. -/
def Arena.toValue (a : Arena) : Value :=
  .obj [("nodes", .arr (a.slots.map Slot.toValue)), ("roots", .arr (a.roots.map Value.ofNat))]

/-- The JSON form of a template. -/
def toValue (t : Template) : Value :=
  .obj ([("name", .str t.name)] ++
    Value.optionalField "description" (t.description.map .str) ++
    [("version", .str t.version),
      ("bootstrap", .obj [("block", .str t.bootstrap.block), ("props", .obj t.bootstrap.props)]),
      ("components", t.arena.toValue),
      ("actions", .obj (t.actions.map fun e => (e.1, e.2.toValue))),
      ("events", .arr (t.events.map fun e =>
        .obj [("event", .str e.event), ("action", .str e.action)])),
      ("state", t.state)])

end Template

/-- The members of a problem. -/
def SyntaxProblem.toFields (p : SyntaxProblem) : List (String × Value) :=
  [("message", .str p.message), ("path", .str p.path)] ++
    Value.optionalField "line" (p.line.map Value.ofNat) ++
    Value.optionalField "column" (p.column.map Value.ofNat)

/-- The JSON form of a problem. -/
def SyntaxProblem.toValue (p : SyntaxProblem) : Value := .obj p.toFields

/-- The problem that a value is. -/
def SyntaxProblem.ofValue? (v : Value) : Option SyntaxProblem := do
  let r ← Record.ofValue? [⟨"message", []⟩, ⟨"path", []⟩, ⟨"line", []⟩, ⟨"column", []⟩] v
  return {
    message := ← r.required "message" Value.asStr?
    path := ← r.required "path" Value.asStr?
    line := ← r.orNull "line" Value.asNat?
    column := ← r.orNull "column" Value.asNat? }

end LivePanel
