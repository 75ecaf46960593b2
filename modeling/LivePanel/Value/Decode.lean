import LivePanel.Value.Basic

/-!
# Reading values into types

Readers of values give `none` for a value of another form. A record is written as
an object, whose members may come in any order and among others, or as an array of
its fields in their order. A field that may be absent is either optional, and then
an array must hold it, or has a default.
-/

namespace LivePanel

namespace Value

/-- The truth value that a value is. -/
def asBool? : Value → Option Bool
  | bool b => some b
  | _ => none

/-- The count that a value is, below `Text.indexBound`. -/
def asNat? : Value → Option Nat
  | num (.int n) => if 0 ≤ n && n < Text.indexBound then some n.toNat else none
  | _ => none

/-- The elements that an array has, each read by `f`. -/
def listOf? (f : Value → Option α) : Value → Option (List α)
  | arr items => items.mapM f
  | _ => none

/-- The members that an object has, each read by `f`. -/
def tableOf? (f : Value → Option α) : Value → Option (Table α)
  | obj fields => fields.mapM fun e => (f e.2).map (e.1, ·)
  | _ => none

/-- The members that an object has. -/
def object? : Value → Option (Table Value)
  | obj fields => some fields
  | _ => none

/-- Null, or what `f` reads. -/
def optionOf? (f : Value → Option α) : Value → Option (Option α)
  | null => some none
  | v => (f v).map some

end Value

/-- The parts of a record: the value of each field that is there, and whether the record was
written as an array. -/
structure Record where
  parts : Table Value
  positional : Bool

namespace Record

/-- A field's name, and other names for it. -/
structure Field where
  name : String
  aliases : List String := []

/-- The value of a field among the members of an object; `some none` where it is absent, `none`
where it is there under two names. -/
def Field.among (f : Field) (members : Table Value) : Option (Option (String × Value)) :=
  match members.filter fun e => e.1 = f.name || e.1 ∈ f.aliases with
  | [] => some none
  | [e] => some (some (f.name, e.2))
  | _ => none

/-- The record of an object's members. -/
def ofMembers? (fields : List Field) (members : Table Value) : Option Record :=
  (fields.mapM fun f => Field.among f members).map fun found => ⟨found.filterMap id, false⟩

/-- The record that a value is. -/
def ofValue? (fields : List Field) : Value → Option Record
  | .obj members => ofMembers? fields members
  | .arr items =>
    if items.length ≤ fields.length then some ⟨(fields.map (·.name)).zip items, true⟩ else none
  | _ => none

/-- A field that must be there. -/
def required (r : Record) (name : String) (f : Value → Option α) : Option α :=
  (r.parts.get? name).bind f

/-- A field that an object may leave out, or that may be null. -/
def optional (r : Record) (name : String) (f : Value → Option α) : Option (Option α) :=
  match r.parts.get? name with
  | some v => v.optionOf? f
  | none => if r.positional then none else some none

/-- A field with a value that stands where it is absent. -/
def orElse (r : Record) (name : String) (default : α) (f : Value → Option α) : Option α :=
  match r.parts.get? name with
  | some v => f v
  | none => some default

/-- A field that may be absent or null. -/
def orNull (r : Record) (name : String) (f : Value → Option α) : Option (Option α) :=
  r.orElse name none (Value.optionOf? f)

end Record

end LivePanel
