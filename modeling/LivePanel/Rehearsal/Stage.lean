import LivePanel.Block.Registry
import LivePanel.Event.Basic
import LivePanel.Panel.Bridge

/-!
# The stage of a rehearsal

Panels are rehearsed with blocks of known behaviour before a scripted host. The stage
is the world that these blocks act on: the bridge to the host, the ids of the blocks
called so far, and which of the blocks that work once have worked. It also keeps the
events that a listener wrote down.
-/

namespace LivePanel.Rehearsal

/-- The world of a rehearsal. -/
structure Stage where
  bridge : Bridge
  calls : List String := []
  spent : List Nat := []
  heard : List Event := []

instance : Hosted Stage where
  bridge := Stage.bridge
  withBridge s b := { s with bridge := b }
  bridge_withBridge _ _ := rfl

/-- How a block behaves. -/
inductive Behaviour where
  | element
  | builtin
  | failing (reason : String)
  | refusing (reason : String)
  | panicking (text : Option String)
  | once (reason : String)
  | group
  | preset
  | diagnostic (message : String)
  | sending
deriving DecidableEq

/-- The element of a block with the props and children given. -/
def plain (id : String) (props : Table Value) (children : List Node) : Node :=
  { Node.element id props with children := children }

/-- A node that comes with a binding and an icon of its own. -/
def presetNode (props : Table Value) : Node :=
  { Node.element "preset" props with
    bindings := [("click", "from_factory")]
    icons := [{ block := "own", matchColor := true, position := some "left" }] }

/-- What a behaviour draws; `serial` tells blocks of one id apart. -/
def Behaviour.draw (b : Behaviour) (id : String) (serial : Nat) : Render Stage :=
  fun props children s =>
    match b with
    | element => (.ok (plain id props children), s)
    | builtin => (.ok (plain id props children), s)
    | failing reason => (.error (.failed reason), s)
    | refusing reason => (.error (.invalidProps reason), s)
    | panicking text => (.error (.panicked text), s)
    | once reason =>
      if serial ∈ s.spent then (.error (.failed reason), s)
      else (.ok (plain id props children), { s with spent := serial :: s.spent })
    | group => (.ok (.group props children), s)
    | preset => (.ok (presetNode props), s)
    | diagnostic message =>
      (.ok { Node.diagnostic none [message] with children := children }, s)
    | sending =>
      let payload := Value.ofPairs [("id", .str id), ("children", Value.ofNat children.length)]
      match s.bridge.send "rendered" payload with
      | (.ok _, bridge) => (.ok (plain id props children), { s with bridge := bridge })
      | (.error e, bridge) => (.error (.failed e.message), { s with bridge := bridge })

/-- The block of a behaviour. All but the built-in ones are seen when they are called. -/
def Behaviour.block (b : Behaviour) (metadata : Metadata) (serial : Nat) : Block Stage :=
  match b with
  | builtin => Block.element metadata
  | _ =>
    ⟨metadata, fun props children s =>
      b.draw metadata.id serial props children { s with calls := s.calls ++ [metadata.id] }⟩

/-- The behaviour that a description asks for. -/
def Behaviour.ofNames? (render : Option String) (message : String) : Option Behaviour :=
  match render with
  | none => some element
  | some "element" => some element
  | some "builtin" => some builtin
  | some "fail" => some (failing message)
  | some "invalid" => some (refusing message)
  | some "panic" => some (panicking (some message))
  | some "panic_str" => some (panicking (some "static boom"))
  | some "panic_other" => some (panicking none)
  | some "once" => some (once message)
  | some "group" => some group
  | some "preset" => some preset
  | some "diagnostic" => some (diagnostic message)
  | some "send" => some sending
  | some _ => none

/-- The block that a value describes: an id, or metadata with a behaviour. -/
def block? (serial : Nat) : Value → Option (Block Stage)
  | .str id => some (Behaviour.element.block (.ofId id) serial)
  | v => do
    let metadata ← Metadata.ofValue? v
    let message := ((v.field? "message").bind Value.asStr?).getD "boom"
    let behaviour ← Behaviour.ofNames? ((v.field? "render").bind Value.asStr?) message
    return behaviour.block metadata serial

/-- A registry of plain elements. -/
def registryOf (ids : List String) : Except RegistryError (Registry Stage) :=
  Registry.registerAll [] (ids.map fun id => Block.element (.ofId id))

/-- Blocks that fail, panic and are counted, under their usual ids. -/
def cannedBlocks : List (Block Stage) :=
  [(Behaviour.failing "canned failure").block (.ofId "failing") 0,
    (Behaviour.panicking (some "canned panic")).block (.ofId "panicking") 1,
    Behaviour.element.block (.ofId "counting") 2]

end LivePanel.Rehearsal
