import LivePanel.Panel.Node
import LivePanel.Template.Action

/-!
# Templates

A template names a panel, the block at its root, the components under it, its
actions, the bridge events that run actions, and its initial state. A component
is known by its location: the positions among all items on the way from the list
of components down to it.
-/

namespace LivePanel

/-- The positions of the items on the way to a component. -/
abbrev Location := List Nat

/-- The steps below the first, as text. -/
def Location.stepsText : List Nat → String
  | [] => ""
  | i :: rest => ".children[" ++ toString i ++ "]" ++ Location.stepsText rest

/-- A location as text. -/
def Location.text : Location → String
  | [] => "components"
  | i :: rest => "components[" ++ toString i ++ "]" ++ Location.stepsText rest

/-- What a component is made of: a block without a list of children, or a list of children with
or without a block. -/
inductive ComponentKind where
  | leaf (block : String)
  | container (block : Option String)
deriving DecidableEq, Inhabited

/-- The block that a component names. -/
def ComponentKind.block? : ComponentKind → Option String
  | .leaf b => some b
  | .container b => b

/-- A component with its subtree. -/
structure Component where
  location : Location
  kind : ComponentKind
  condition : Option String := none
  props : List (String × Value) := []
  bindings : List (String × String) := []
  icons : List Icon := []
  children : List Component := []
deriving Inhabited

/-- The block that a component names. -/
def Component.block? (c : Component) : Option String := c.kind.block?

mutual
/-- The components of a tree, each before its children. -/
def Component.walk (c : Component) : List Component :=
  match c with
  | ⟨location, kind, condition, props, bindings, icons, children⟩ =>
    ⟨location, kind, condition, props, bindings, icons, children⟩ :: Component.walkAll children

/-- The components of several trees. -/
def Component.walkAll : List Component → List Component
  | [] => []
  | c :: rest => Component.walk c ++ Component.walkAll rest
end

/-- The block at the root of a panel. -/
structure Bootstrap where
  block : String
  props : Table Value := []
deriving Inhabited

/-- A bridge event and the action that it runs. -/
structure EventBinding where
  event : String
  action : String
deriving DecidableEq, Inhabited

/-- A template. -/
structure Template where
  name : String
  description : Option String := none
  version : String
  bootstrap : Bootstrap
  components : List Component := []
  actions : Table Action := []
  events : List EventBinding := []
  state : Value := .obj []
deriving Inhabited

namespace Template

/-- The version of a template that declares none. -/
def defaultVersion : String := "1.0.0"

/-- All components, each before its children. -/
def walk (t : Template) : List Component := Component.walkAll t.components

/-- Add `x` at the end unless it is there. -/
def addSeen (xs : List String) (x : String) : List String := if x ∈ xs then xs else xs ++ [x]

/-- The blocks that a component names, its icons' after its own. -/
def componentBlocks (c : Component) : List String := c.block?.toList ++ c.icons.map (·.block)

/-- The blocks that a template names, the root's first, each once. -/
def referencedBlocks (t : Template) : List String :=
  (t.walk.flatMap componentBlocks).foldl addSeen [t.bootstrap.block]

/-- The actions that a component names, its bindings' before its icons'. -/
def componentActions (c : Component) : List String :=
  Table.values c.bindings ++ c.icons.filterMap (·.action)

/-- The actions named anywhere, in order: by components, events and actions. -/
def namedActions (t : Template) : List String :=
  t.walk.flatMap componentActions ++ t.events.map (·.action) ++
    t.actions.flatMap fun e => e.2.calls

/-- The actions named anywhere, sorted, each once. -/
def referencedActions (t : Template) : List String :=
  Table.keys (t.namedActions.foldl (fun seen a => Table.put seen a ()) [])

end Template

end LivePanel
