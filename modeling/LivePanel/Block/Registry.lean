import LivePanel.Block.Metadata
import LivePanel.Panel.Node
import LivePanel.Text.Blank

/-!
# Blocks and their registry

A block draws a node from its props and children. It may act on the world around it,
a state `σ`, and it may fail, also by a panic whose text, where it has one, is kept.
The registry holds blocks under their ids, which are not empty and have no blanks; it
stamps the metadata of each with its integrity.
-/

namespace LivePanel

/-- Why a block drew no node. -/
inductive RenderFault where
  | invalidProps (reason : String)
  | failed (reason : String)
  | panicked (text : Option String)
deriving DecidableEq, Inhabited

/-- What a block draws from its props and children. -/
abbrev Render (σ : Type) := Table Value → List Node → σ → Except RenderFault Node × σ

/-- A block. -/
structure Block (σ : Type) where
  metadata : Metadata
  render : Render σ

/-- The block that draws an element of its own id with the props and children given. -/
def Block.element (metadata : Metadata) : Block σ :=
  ⟨metadata, fun props children s =>
    (.ok { Node.element metadata.id props with children := children }, s)⟩

/-- Why a registry refused. -/
inductive RegistryError where
  | invalidMetadata (id : String)
  | notFound (id : String)
deriving DecidableEq

/-- The wording of the error. -/
def RegistryError.message : RegistryError → String
  | invalidMetadata id =>
    "Invalid metadata for '" ++ id ++ "': id must be non-empty and contain no whitespace"
  | notFound id => "Capability not found: " ++ id

/-- Blocks under their ids. -/
abbrev Registry (σ : Type) := Table (Block σ)

namespace Registry

variable {σ : Type}

/-- Whether a text may be the id of a block. -/
def isId (id : String) : Bool := !id.isEmpty && !id.toList.any Text.isBlank

/-- Register a block under its id, in place of an earlier one. -/
def register (r : Registry σ) (b : Block σ) : Except RegistryError (Registry σ) :=
  let id := b.metadata.id
  if isId id then
    let metadata := { b.metadata with integrityHash := some b.metadata.integrity }
    .ok (r.put id { b with metadata := metadata })
  else .error (.invalidMetadata id)

/-- Register blocks one after the other. -/
def registerAll (r : Registry σ) : List (Block σ) → Except RegistryError (Registry σ)
  | [] => .ok r
  | b :: rest =>
    match register r b with
    | .ok r => registerAll r rest
    | .error e => .error e

/-- The block under an id. -/
def resolve? (r : Registry σ) (id : String) : Option (Block σ) := Table.get? r id

/-- Take a block out of the registry. -/
def unregister (r : Registry σ) (id : String) : Except RegistryError (Block σ × Registry σ) :=
  match r.resolve? id with
  | some b => .ok (b, Table.erase r id)
  | none => .error (.notFound id)

/-- The metadata of all blocks, by id. -/
def list (r : Registry σ) : List Metadata := (Table.values r).map (·.metadata)

/-- The metadata of the blocks of a category, by id. -/
def inCategory (r : Registry σ) (category : String) : List Metadata :=
  r.list.filter fun m => m.category = category

end Registry

end LivePanel
