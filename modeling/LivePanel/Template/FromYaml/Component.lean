import LivePanel.Template.Basic
import LivePanel.Template.FromYaml.Icon

/-!
# Components in a template document

A component is a mapping, or a block id that stands for a mapping with that block
alone. Items that are neither, and items nested too deep, are noted and left out
with all that is in them.
-/

namespace LivePanel.Template.FromYaml

/-- The bindings of a mapping of events to actions, a later one of an event winning. -/
def bindingEntries (path : String) (acc : Table String) : Yaml.Entries → Noted (Table String)
  | [] => .clean acc
  | (k, v) :: rest =>
    let pair : Option (String × String) :=
      match k.asStr?, v.asStr? with
      | some event, some action => if action.isEmpty then none else some (event, action)
      | _, _ => none
    match pair with
    | some (event, action) => bindingEntries path (acc.put event action) rest
    | none =>
      let others := bindingEntries path acc rest
      let noted :=
        Noted.problem (path ++ ".on") "bindings must map event names to action names" ()
      ⟨others.value, noted.problems ++ others.problems⟩

/-- The bindings under `on`. -/
def bindingsField (m : Yaml.Entries) (path : String) : Noted (Table String) :=
  match m.get? "on" with
  | none => .clean []
  | some .null => .clean []
  | some (.map entries) => bindingEntries path [] entries
  | some _ => .problem (path ++ ".on") "must be a mapping" []

/-- The condition under `condition`, or under `if` where there is no `condition`. -/
def conditionField (m : Yaml.Entries) (path : String) : Noted (Option String) :=
  match firstOf m ["condition", "if"] with
  | none => .clean none
  | some (_, .null) => .clean none
  | some (_, .str s) => .clean (some s)
  | some (_, .bool true) => .clean (some "true")
  | some (_, .bool false) => .clean (some "false")
  | some _ => .problem (path ++ ".condition") "must be a string expression" none

/-- The items under `children`, if there is a list of them. -/
def childItems (m : Yaml.Entries) (path : String) : Noted (Option (List Yaml)) :=
  match m.get? "children" with
  | none => .clean none
  | some .null => .clean none
  | some (.seq items) => .clean (some items)
  | some _ => .problem (path ++ ".children") "must be a sequence of nodes" none

/-- The kind of a component with the given block and, if it has them, children. -/
def kindOf (block : Option String) (hasChildren : Bool) : ComponentKind :=
  match block with
  | some b => if hasChildren then .container (some b) else .leaf b
  | none => .container none

/-- The fields of a component other than its children. -/
structure ComponentFields where
  block : Option String
  props : Table Value
  bindings : Table String
  icons : List Icon
  condition : Option String

/-- Read the fields of a component other than its children. -/
def componentFields (m : Yaml.Entries) (path : String) : Noted ComponentFields := do
  let block ← blockField m path
  let props ← propsField m path
  let bindings ← bindingsField m path
  let icons ← iconsField m path
  let condition ← conditionField m path
  return ⟨block, props, bindings, icons, condition⟩

/-- The component of an item, where `left` levels of nesting may follow the one above it. -/
def component (limit : Nat) : Nat → Location → Yaml → Noted (Option Component)
  | 0, location, _ =>
    .problem (Location.text location)
      ("nesting exceeds the maximum depth of " ++ toString limit) none
  | left + 1, location, item =>
    let path := Location.text location
    match item with
    | .map m => do
      let fields ← componentFields m path
      let items ← childItems m path
      let children ← Noted.collect
        ((items.getD []).zipIdx.map fun (item, i) => component limit left (location ++ [i]) item)
      return some {
        location := location
        kind := kindOf fields.block items.isSome
        condition := fields.condition
        props := fields.props
        bindings := fields.bindings
        icons := fields.icons
        children := children }
    | .str s =>
      match filled? s with
      | some id => .clean (some { location := location, kind := .leaf id })
      | none => .problem path "component must be a mapping" none
    | _ => .problem path "component must be a mapping" none

end LivePanel.Template.FromYaml
