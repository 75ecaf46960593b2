import LivePanel.Value.Basic

/-!
# Panel nodes

The tree that a panel shows: elements drawn by blocks, groups, and diagnostics
that stand for what could not be built.
-/

namespace LivePanel

/-- An icon on a node. -/
structure Icon where
  block : String
  color : Option String := none
  action : Option String := none
  matchColor : Bool := false
  position : Option String := none
deriving DecidableEq, Inhabited

/-- The kind of a node. -/
inductive NodeKind where
  | element
  | group
  | diagnostic (messages : List String)
deriving DecidableEq, Inhabited

/-- A node with its subtree. Bindings give the action of each event. -/
structure Node where
  kind : NodeKind
  block : Option String := none
  props : List (String × Value) := []
  bindings : List (String × String) := []
  icons : List Icon := []
  children : List Node := []
deriving Inhabited

namespace Node

/-- The element that the block `id` draws. -/
def element (id : String) (props : Table Value) : Node :=
  { kind := .element, block := id, props := props }

/-- A group of nodes. -/
def group (props : Table Value) (children : List Node) : Node :=
  { kind := .group, props := props, children := children }

/-- A diagnostic without children. -/
def diagnostic (block : Option String) (messages : List String) : Node :=
  { kind := .diagnostic messages, block := block }

/-- Whether the node is a diagnostic. -/
def isDiagnostic (n : Node) : Bool :=
  match n.kind with
  | .diagnostic _ => true
  | _ => false

/-- The messages of a diagnostic. -/
def messages (n : Node) : List String :=
  match n.kind with
  | .diagnostic ms => ms
  | _ => []

mutual
/-- The nodes of a tree, each before its children. -/
def walk (n : Node) : List Node :=
  match n with
  | ⟨kind, block, props, bindings, icons, children⟩ =>
    ⟨kind, block, props, bindings, icons, children⟩ :: walkAll children

/-- The nodes of several trees. -/
def walkAll : List Node → List Node
  | [] => []
  | n :: rest => walk n ++ walkAll rest
end

/-- The number of nodes of a tree. -/
def count (n : Node) : Nat := n.walk.length

/-- The diagnostics of a tree. -/
def diagnostics (n : Node) : List Node := n.walk.filter isDiagnostic

end Node

end LivePanel
