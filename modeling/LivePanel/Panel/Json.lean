import LivePanel.Panel.Node
import LivePanel.Template.Json
import LivePanel.Value.Decode

/-!
# Nodes as JSON

The JSON form of panel nodes, and reading it back. Empty parts are left out. The
kind of a node is read from its member `type`, a name or the number of the kind;
a node is written as an object only.
-/

namespace LivePanel

/-- The fields of an icon. -/
def Icon.recordFields : List Record.Field :=
  [⟨"block", []⟩, ⟨"color", []⟩, ⟨"action", []⟩, ⟨"matchColor", []⟩, ⟨"position", []⟩]

/-- The icon that a value is. -/
def Icon.ofValue? (v : Value) : Option Icon := do
  let r ← Record.ofValue? Icon.recordFields v
  return {
    block := ← r.required "block" Value.asStr?
    color := ← r.orNull "color" Value.asStr?
    action := ← r.orNull "action" Value.asStr?
    matchColor := ← r.orElse "matchColor" false Value.asBool?
    position := ← r.orNull "position" Value.asStr? }

namespace NodeKind

/-- The members that show a kind. -/
def toFields : NodeKind → List (String × Value)
  | element => [("type", .str "element")]
  | group => [("type", .str "group")]
  | diagnostic messages => [("type", .str "diagnostic"), ("messages", Value.ofStrings messages)]

/-- The position of a kind among the kinds, from its name or number. -/
def index? : Value → Option Nat
  | .str s =>
    if s = "element" then some 0
    else if s = "group" then some 1
    else if s = "diagnostic" then some 2
    else none
  | v => v.asNat?

/-- The kind that the members of a node show. -/
def ofMembers? (members : Table Value) : Option NodeKind :=
  match (members.get? "type").bind index? with
  | some 0 => some element
  | some 1 => some group
  | some 2 => ((members.get? "messages").bind (Value.listOf? Value.asStr?)).map diagnostic
  | _ => none

end NodeKind

namespace Node

/-- A member that is left out where the list is empty. -/
def listField (key : String) (xs : List α) (v : Value) : List (String × Value) :=
  if xs.isEmpty then [] else [(key, v)]

mutual
/-- The JSON form of a node. -/
def toValue (n : Node) : Value :=
  match n with
  | ⟨kind, block, props, bindings, icons, children⟩ =>
    .obj (kind.toFields ++ Value.optionalField "block" (block.map .str) ++
      listField "props" props (.obj props) ++
      listField "bindings" bindings (Value.ofTexts bindings) ++
      listField "icons" icons (.arr (icons.map Icon.toValue)) ++
      listField "children" children (.arr (toValues children)))

/-- The JSON forms of nodes. -/
def toValues : List Node → List Value
  | [] => []
  | n :: rest => toValue n :: toValues rest
end

/-- A node without children, read from its members. -/
def ofMembers? (members : Table Value) : Option Node := do
  let r : Record := ⟨members, false⟩
  return {
    kind := ← NodeKind.ofMembers? members
    block := ← r.orNull "block" Value.asStr?
    props := ← r.orElse "props" [] Value.object?
    bindings := ← r.orElse "bindings" [] (Value.tableOf? Value.asStr?)
    icons := ← r.orElse "icons" [] (Value.listOf? Icon.ofValue?) }

/-- A node with other children. -/
def withChildren (n : Node) (children : List Node) : Node := { n with children := children }

mutual
/-- The node that a value is. -/
def ofValue? : Value → Option Node
  | .obj members =>
    match ofMembers? members, childrenOf? members with
    | some n, some children => some (n.withChildren children)
    | _, _ => none
  | _ => none

/-- The children among the members of a node. -/
def childrenOf? : List (String × Value) → Option (List Node)
  | [] => some []
  | (k, v) :: rest =>
    if k = "children" then
      match v with
      | .arr items => ofValues? items
      | _ => none
    else childrenOf? rest

/-- The nodes that values are. -/
def ofValues? : List Value → Option (List Node)
  | [] => some []
  | v :: rest =>
    match ofValue? v, ofValues? rest with
    | some n, some ns => some (n :: ns)
    | _, _ => none
end

end Node

end LivePanel
