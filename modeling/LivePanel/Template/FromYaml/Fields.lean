import LivePanel.Template.Problem
import LivePanel.Text.Blank
import LivePanel.Yaml.Basic

/-!
# Fields of a template document

Readers of fields that several parts of a document share: JSON values, texts and
the block id. Each notes what it cannot use and goes on.
-/

namespace LivePanel.Template.FromYaml

/-- The JSON form of a value, or the note that it has none. -/
def jsonOf (v : Yaml) (path : String) : Noted (Option Value) :=
  match v.toValue with
  | .ok w => .clean (some w)
  | .error e => .problem path ("unsupported value: " ++ e.message) none

/-- A text that is not blank, without blanks at its ends. -/
def filled? (s : String) : Option String := if Text.allBlank s then none else some (Text.trim s)

/-- The JSON form of an optional field, null where it is absent or has none. -/
def jsonField (m : Yaml.Entries) (key path : String) : Noted Value :=
  match m.get? key with
  | none => .clean .null
  | some v =>
    let w := jsonOf v (path ++ "." ++ key)
    ⟨w.value.getD .null, w.problems⟩

/-- The first of the keys that is there, with its value. -/
def firstOf (m : Yaml.Entries) : List String → Option (String × Yaml)
  | [] => none
  | k :: rest =>
    match m.get? k with
    | some v => some (k, v)
    | none => firstOf m rest

/-- A required text under the first of the keys that is there. -/
def stringField (m : Yaml.Entries) (keys : List String) (path : String) : Noted (Option String) :=
  match firstOf m keys with
  | some (key, .str s) =>
    if Text.allBlank s then .problem (path ++ "." ++ key) "must be a non-empty string" none
    else .clean (some s)
  | some (key, _) => .problem (path ++ "." ++ key) "must be a non-empty string" none
  | none =>
    let key := keys.headD ""
    .problem (path ++ "." ++ key) ("missing required \x60" ++ key ++ "\x60") none

/-- The block id under `block`, or under `capabilityId` where there is no `block`. -/
def blockField (m : Yaml.Entries) (path : String) : Noted (Option String) :=
  match firstOf m ["block", "capabilityId"] with
  | none => .clean none
  | some (key, .str s) =>
    match filled? s with
    | some id => .clean (some id)
    | none => .problem (path ++ "." ++ key) "must be a non-empty string" none
  | some (_, .null) => .clean none
  | some (key, _) => .problem (path ++ "." ++ key) "must be a non-empty string" none

/-- The properties under `props`. -/
def propsField (m : Yaml.Entries) (path : String) : Noted (Table Value) :=
  match m.get? "props" with
  | none => .clean []
  | some .null => .clean []
  | some (.map entries) =>
    let w := jsonOf (.map entries) (path ++ ".props")
    ⟨(w.value.map Value.fields).getD [], w.problems⟩
  | some _ => .problem (path ++ ".props") "must be a mapping" []

end LivePanel.Template.FromYaml
