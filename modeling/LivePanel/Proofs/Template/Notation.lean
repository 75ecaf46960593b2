import LivePanel.Proofs.Template.Items
import LivePanel.Template.FromYaml.Document

/-!
# The notation of templates

What the notation asks of a document, told without reading it: which fields the document, its
components, actions, branches and event entries may have, and which values each of them may take.
Of the names of a field the first that is there counts. A field is consulted where its part of the
document is reached; within an action that takes a type that is known and, where the type requires
a text, that text.

## The model

* `Yaml.Plain`: values that can be read as JSON, told by their keys.
* `Yaml.IsStep`, `Yaml.IsIcon`: steps of actions, and icons.
* `Field.Allows`: the values that a field may take, and `Field.site`, the place where another one
  should be noted.
* `StandsAt`: the steps that are read, with the paths where they stand.
* `Consults`: the fields that are consulted, each with the part that it belongs to and the place
  of that part.

Parts that are nested too deep, or lie in an item that cannot be used, are not reached.
-/

namespace LivePanel

namespace Yaml

/-- The first of several keys that a mapping has, with the value under it. -/
def firstField? (v : Yaml) (names : List String) : Option (String × Yaml) :=
  names.findSome? fun name => (v.field? name).map (name, ·)

/-- A key that JSON can represent: a text, a truth value or a finite number. -/
def IsKey : Yaml → Prop
  | .str _ => True
  | .bool _ => True
  | .int _ => True
  | .real (.finite _) => True
  | _ => False

/-- A value that can be read as JSON: all keys of the mappings in it can be keys there. Numbers always
can, as NaN and the infinities, which JSON does not have, are read as null. -/
inductive Plain : Yaml → Prop where
  | null : Plain .null
  | bool (b : Bool) : Plain (.bool b)
  | int (n : Int) : Plain (.int n)
  | real (r : Real) : Plain (.real r)
  | str (s : String) : Plain (.str s)
  | seq {items : List Yaml} (h : ∀ v ∈ items, Plain v) : Plain (.seq items)
  | map {entries : List (Yaml × Yaml)} (hk : ∀ e ∈ entries, e.1.IsKey)
      (h : ∀ e ∈ entries, Plain e.2) : Plain (.map entries)
  | tagged (tag : String) {v : Yaml} (h : Plain v) : Plain (.tagged tag v)

/-- A step of an action: the name of one, an action in place, or a list of steps. -/
inductive IsStep : Yaml → Prop where
  | call {name : String} (h : name ≠ "") : IsStep (.str name)
  | described (m : Entries) : IsStep (.map m)
  | list {items : List Yaml} (h : ∀ v ∈ items, IsStep v) : IsStep (.seq items)

/-- A text that is not blank, seen through tags. -/
def IsFilled (v : Yaml) : Prop := ∃ s, v.asStr? = some s ∧ Text.allBlank s = false

/-- What an icon may have under a key. -/
def IconAllows (key : String) (v : Yaml) : Prop :=
  if key = "block" then v.IsFilled
  else if key = "color" ∨ key = "action" ∨ key = "position" then
    v = .null ∨ ∃ s, v.asStr? = some s
  else if key = "matchColor" then ∃ b, v.untagged = .bool b
  else True

/-- An icon: a mapping with text keys, a block among them. -/
def IsIcon (v : Yaml) : Prop :=
  ∃ m, v.untagged = .map m ∧
    (∀ e ∈ m, ∃ key, e.1.asStr? = some key ∧ IconAllows key e.2) ∧
    ∃ e ∈ m, e.1.asStr? = some "block"

end Yaml

namespace Template

open Yaml FromYaml

/-! ### Fields -/

/-- The fields of a document and of its parts. -/
inductive Field where
  | description
  | version
  | components
  | actions
  | events
  | state
  | block
  | props
  | bindings
  | icons
  | condition
  | children
  | type
  | target
  | message
  | prompt
  | value
  | payload
  | context
  | storeAs
  | branches
  | onSuccess
  | steps
  | following
  | when
  | outcome
  | event
  | run
deriving DecidableEq

namespace Field

/-- The names of a field. -/
def names : Field → List String
  | description => ["description"]
  | version => ["version"]
  | components => ["components"]
  | actions => ["actions"]
  | events => ["events"]
  | state => ["state"]
  | block => ["block", "capabilityId"]
  | props => ["props"]
  | bindings => ["on"]
  | icons => ["icons"]
  | condition => ["condition", "if"]
  | children => ["children"]
  | type => ["type"]
  | target => ["path", "key"]
  | message => ["message", "messageType"]
  | prompt => ["prompt"]
  | value => ["value"]
  | payload => ["payload"]
  | context => ["context"]
  | storeAs => ["storeAs"]
  | branches => ["branches"]
  | onSuccess => ["onSuccess"]
  | steps => ["steps"]
  | following => ["then"]
  | when => ["when"]
  | outcome => ["action"]
  | event => ["event", "on"]
  | run => ["action"]

/-- The values that the notation allows for a field, null apart. -/
def Allows : Field → Yaml → Prop
  | description, v => ∃ s, v = .str s
  | version, v => (∃ s, v = .str s) ∨ (∃ n, v = .int n) ∨ ∃ r, v = .real r
  | components, v | children, v => ∃ items, v = .seq items ∧ ∀ item ∈ items, item.WellFormed
  | actions, v => ∃ m, v = .map m ∧ ∀ e ∈ m,
      (∃ name, e.1.asStr? = some name ∧ name ≠ "") ∧ (∀ name, e.2 ≠ .str name) ∧ e.2.IsStep
  | events, v | branches, v => ∃ items, v = .seq items ∧ ∀ item ∈ items, ∃ m, item.untagged = .map m
  | state, v | props, v => (∃ m, v = .map m) ∧ v.Plain
  | block, v | target, v | message, v | prompt, v => ∃ s, v = .str s ∧ Text.allBlank s = false
  | bindings, v => ∃ m, v = .map m ∧ ∀ e ∈ m,
      (∃ name, e.1.asStr? = some name) ∧ ∃ action, e.2.asStr? = some action ∧ action ≠ ""
  | icons, v => ∃ items, v = .seq items ∧ ∀ item ∈ items, item.IsIcon
  | condition, v | when, v => (∃ s, v = .str s) ∨ ∃ b, v = .bool b
  | type, v => ∃ s, v.asStr? = some s ∧ (actionType? s).isSome
  | value, v | payload, v | context, v => v.Plain
  | storeAs, v | event, v | run, v => ∃ s, v.asStr? = some s
  | onSuccess, v | steps, v | following, v | outcome, v => v.IsStep

/-- Where a value that is not allowed should be noted, from the place of the part on: at the field
that has it, or at the part itself where the part is an entry of a list. -/
def site (f : Field) (key : String) : String :=
  match f with
  | description | version | components | actions | events | state => key
  | condition => ".condition"
  | when | outcome | event | run => ""
  | _ => "." ++ key

end Field

/-! ### Actions -/

/-- The type that an action names. -/
def typeOf? (m : Entries) : Option ActionType :=
  ((m.get? "type").bind asStr?).bind actionType?

/-- The text that a type of action requires. -/
def requiredField : ActionType → Option Field
  | .setState => some .target
  | .send => some .message
  | .request => some .prompt
  | .branch => none
  | .sequence => none

/-- The other fields of a type of action, in the order in which they are read. -/
def furtherFields : ActionType → List Field
  | .setState => [.value, .following]
  | .send => [.payload, .following]
  | .branch => [.branches, .following]
  | .request => [.context, .storeAs, .onSuccess, .following]
  | .sequence => [.steps, .following]

/-- The fields that hold steps. -/
def Field.HoldsSteps (f : Field) : Prop := f = .onSuccess ∨ f = .steps ∨ f = .following

/-- An action names a type and has the text that the type requires. -/
structure Usable (m : Entries) (t : ActionType) : Prop where
  type : typeOf? m = some t
  required : ∀ f, requiredField t = some f →
    ∃ key v, (Yaml.map m).firstField? f.names = some (key, v) ∧ f.Allows v

/-- The steps that are read, at the paths where they stand: the actions of the document and, in an
action that can be used, the steps under its fields and in its branches. -/
inductive StandsAt (doc : Entries) : String → Yaml → Prop where
  | named {m : Entries} {k v : Yaml} {name : String} (hm : doc.get? "actions" = some (.map m))
      (hv : (k, v) ∈ m) (hk : k.asStr? = some name) (hne : name ≠ "")
      (ha : (∃ m, v = .map m) ∨ ∃ items, v = .seq items) : StandsAt doc ("actions." ++ name) v
  | item {path : String} {items : List Yaml} {i : Nat} {v : Yaml}
      (h : StandsAt doc path (.seq items)) (hi : items[i]? = some v) :
      StandsAt doc (indexed path i) v
  | under {path key : String} {m : Entries} {t : ActionType} {f : Field} {v : Yaml}
      (h : StandsAt doc path (.map m)) (hu : Usable m t) (hf : f ∈ furtherFields t)
      (hs : f.HoldsSteps) (hv : (Yaml.map m).firstField? f.names = some (key, v))
      (hn : v ≠ .null) : StandsAt doc (path ++ "." ++ key) v
  | branch {path : String} {m : Entries} {items : List Yaml} {i : Nat} {item cond v : Yaml}
      (h : StandsAt doc path (.map m)) (hu : Usable m .branch)
      (hb : m.get? "branches" = some (.seq items)) (hi : items[i]? = some item)
      (hw : item.field? "when" = some cond) (hc : Field.when.Allows cond)
      (ha : item.field? "action" = some v) :
      StandsAt doc (indexed (path ++ ".branches") i ++ ".action") v

/-- The fields of an action that are consulted: its type; where that is known, the text that it
requires; and where that can be used, the others. -/
inductive Field.OfAction (m : Entries) : Field → Prop where
  | type : OfAction m .type
  | required {t : ActionType} {f : Field} (ht : typeOf? m = some t)
      (hf : requiredField t = some f) : OfAction m f
  | further {t : ActionType} {f : Field} (hu : Usable m t) (hf : f ∈ furtherFields t) :
      OfAction m f

/-! ### Fields that are consulted -/

/-- The fields of a document besides its name and bootstrap. -/
def documentFields : List Field :=
  [.description, .version, .components, .actions, .events, .state]

/-- The fields of a component. -/
def fieldsOfComponent : List Field :=
  [.block, .props, .bindings, .icons, .condition, .children]

/-- The fields of a document and its parts that are consulted when components may nest to a depth:
each with the part that it belongs to, and the place of the part. -/
inductive Consults (depth : Nat) (doc : Entries) : String → Yaml → Field → Prop where
  | document {f : Field} (hf : f ∈ documentFields) : Consults depth doc "" (.map doc) f
  | component {location : Location} {m : Entries} {f : Field}
      (hi : (Yaml.map doc).itemAt? location = some (.map m)) (hl : location.length ≤ depth)
      (hf : f ∈ fieldsOfComponent) : Consults depth doc location.text (.map m) f
  | action {path : String} {m : Entries} {f : Field} (h : StandsAt doc path (.map m))
      (hf : f.OfAction m) : Consults depth doc path (.map m) f
  | branch {path : String} {m : Entries} {items : List Yaml} {i : Nat} {item : Yaml} {f : Field}
      (h : StandsAt doc path (.map m)) (hu : Usable m .branch)
      (hb : m.get? "branches" = some (.seq items)) (hi : items[i]? = some item)
      (hf : f ∈ [Field.when, .outcome]) :
      Consults depth doc (indexed (path ++ ".branches") i) item f
  | event {items : List Yaml} {i : Nat} {item : Yaml} {f : Field}
      (he : doc.get? "events" = some (.seq items)) (hi : items[i]? = some item)
      (hf : f ∈ [Field.event, .run]) : Consults depth doc (indexed "events" i) item f

end Template

end LivePanel
