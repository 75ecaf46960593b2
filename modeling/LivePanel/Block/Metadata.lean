import LivePanel.Digest.Blake3
import LivePanel.Template.Json
import LivePanel.Value.Decode

/-!
# Block metadata

What a catalogue says of a block. The integrity of the metadata is the digest of its
JSON text without the digest itself, the members in the order of the fields here.
-/

namespace LivePanel

/-- A prop that a block reads, or a value that it gives. -/
structure Port where
  name : String
  kind : String := "any"
  required : Bool := false
deriving DecidableEq, Inhabited

/-- The metadata of a block. -/
structure Metadata where
  id : String
  name : String := ""
  category : String := "general"
  version : String := "1.0.0"
  inputs : List Port := []
  outputs : List Port := []
  dependencies : List String := []
  compliance : Bool := false
  integrityHash : Option String := none
  deprecated : Option String := none
deriving DecidableEq, Inhabited

/-- The JSON form of a port. -/
def Port.toValue (p : Port) : Value :=
  .obj [("name", .str p.name), ("kind", .str p.kind), ("required", .bool p.required)]

/-- The port that a value is. -/
def Port.ofValue? (v : Value) : Option Port := do
  let r ← Record.ofValue? [⟨"name", []⟩, ⟨"kind", []⟩, ⟨"required", []⟩] v
  return {
    name := ← r.required "name" Value.asStr?
    kind := ← r.orElse "kind" "any" Value.asStr?
    required := ← r.orElse "required" false Value.asBool? }

namespace Metadata

/-- The metadata of a block of which no more is known than its id. -/
def ofId (id : String) : Metadata := { id := id, name := id }

/-- The JSON form of metadata. -/
def toValue (m : Metadata) : Value :=
  .obj ([("id", .str m.id), ("name", .str m.name), ("category", .str m.category),
      ("version", .str m.version), ("inputs", .arr (m.inputs.map Port.toValue)),
      ("outputs", .arr (m.outputs.map Port.toValue)),
      ("dependencies", Value.ofStrings m.dependencies), ("compliance", .bool m.compliance)] ++
    Value.optionalField "integrityHash" (m.integrityHash.map .str) ++
    Value.optionalField "deprecated" (m.deprecated.map .str))

/-- The fields of metadata. -/
def recordFields : List Record.Field :=
  [⟨"id", []⟩, ⟨"name", []⟩, ⟨"category", []⟩, ⟨"version", []⟩, ⟨"inputs", []⟩, ⟨"outputs", []⟩,
    ⟨"dependencies", []⟩, ⟨"compliance", ["complianceFlag"]⟩, ⟨"integrityHash", []⟩,
    ⟨"deprecated", []⟩]

/-- The metadata that a value is. -/
def ofValue? (v : Value) : Option Metadata := do
  let r ← Record.ofValue? recordFields v
  return {
    id := ← r.required "id" Value.asStr?
    name := ← r.orElse "name" "" Value.asStr?
    category := ← r.orElse "category" "general" Value.asStr?
    version := ← r.orElse "version" "1.0.0" Value.asStr?
    inputs := ← r.orElse "inputs" [] (Value.listOf? Port.ofValue?)
    outputs := ← r.orElse "outputs" [] (Value.listOf? Port.ofValue?)
    dependencies := ← r.orElse "dependencies" [] (Value.listOf? Value.asStr?)
    compliance := ← r.orElse "compliance" false Value.asBool?
    integrityHash := ← r.orNull "integrityHash" Value.asStr?
    deprecated := ← r.orNull "deprecated" Value.asStr? }

/-- The names of the inputs that a block needs, in order. -/
def requiredInputs (m : Metadata) : List String := (m.inputs.filter (·.required)).map (·.name)

/-- The text that the integrity of metadata is the digest of. -/
def digestText (m : Metadata) : String := { m with integrityHash := none }.toValue.compact

/-- The integrity of metadata. -/
def integrity (m : Metadata) : String := Blake3.ofText m.digestText

end Metadata

end LivePanel
