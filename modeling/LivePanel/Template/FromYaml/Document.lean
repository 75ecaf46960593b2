import LivePanel.Template.FromYaml.Action
import LivePanel.Template.FromYaml.Component
import LivePanel.Yaml.Document

/-!
# Template documents

A template is a mapping. Every part of it is read and every problem noted, in a
fixed order of the parts; there is a template as soon as its name and its
bootstrap can be used.
-/

namespace LivePanel.Template

/-- What a text gives: a template if there is one, and all problems. -/
structure Outcome where
  template : Option Template
  problems : List SyntaxProblem

/-- Whether there is a template and no problem. -/
def Outcome.clean (o : Outcome) : Bool := o.template.isSome && o.problems.isEmpty

namespace FromYaml

/-- The name. -/
def nameField (doc : Yaml.Entries) : Noted (Option String) :=
  match doc.get? "name" with
  | none => .problem "name" "missing required \x60name\x60" none
  | some .null => .problem "name" "missing required \x60name\x60" none
  | some (.str s) =>
    match filled? s with
    | some name => .clean (some name)
    | none => .problem "name" "must be a non-empty string" none
  | some _ => .problem "name" "must be a non-empty string" none

/-- The bootstrap of a mapping. -/
def bootstrapEntries (m : Yaml.Entries) : Noted (Option Bootstrap) := do
  let block ← blockField m "bootstrap"
  let props ← propsField m "bootstrap"
  match block with
  | some block => return some ⟨block, props⟩
  | none => Noted.problem "bootstrap" "bootstrap must name a capability id" none

/-- The bootstrap: a block id, or a mapping that names one. -/
def bootstrapField (doc : Yaml.Entries) : Noted (Option Bootstrap) :=
  match doc.get? "bootstrap" with
  | none => .problem "bootstrap" "missing bootstrap entry" none
  | some .null => .problem "bootstrap" "missing bootstrap entry" none
  | some (.str s) =>
    match filled? s with
    | some id => .clean (some ⟨id, []⟩)
    | none => .problem "bootstrap" "must be a capability id or a mapping" none
  | some (.map m) => bootstrapEntries m
  | some _ => .problem "bootstrap" "must be a capability id or a mapping" none

/-- The description. -/
def descriptionField (doc : Yaml.Entries) : Noted (Option String) :=
  match doc.get? "description" with
  | none => .clean none
  | some .null => .clean none
  | some (.str s) => .clean (some s)
  | some _ => .problem "description" "must be a string" none

/-- The version; a number stands for its text. -/
def versionField (doc : Yaml.Entries) : Noted String :=
  match doc.get? "version" with
  | none => .clean defaultVersion
  | some .null => .clean defaultVersion
  | some (.str s) => .clean s
  | some (.int n) => .clean (toString n)
  | some (.real r) => .clean r.text
  | some _ => .problem "version" "must be a string" defaultVersion

/-- The components. -/
def componentsField (maxDepth : Nat) (doc : Yaml.Entries) : Noted (List Component) :=
  match doc.get? "components" with
  | none => .clean []
  | some .null => .clean []
  | some (.seq items) =>
    Noted.collect (items.zipIdx.map fun (item, i) => component maxDepth maxDepth [i] item)
  | some _ => .problem "components" "must be a sequence of nodes" []

/-- The actions. -/
def actionsField (doc : Yaml.Entries) : Noted (Table Action) :=
  match doc.get? "actions" with
  | none => .clean []
  | some .null => .clean []
  | some (.map m) => namedActions [] m
  | some _ => .problem "actions" "must be a mapping of action names" []

/-- A binding of a bridge event. -/
def eventItem (item : Yaml) (i : Nat) : Noted (Option EventBinding) :=
  let event := (item.field? "event").or (item.field? "on")
  let action := item.field? "action"
  match event.bind Yaml.asStr?, action.bind Yaml.asStr? with
  | some event, some action => .clean (some ⟨event, action⟩)
  | _, _ =>
    .problem (indexed "events" i) "event entries need string \x60event\x60 and \x60action\x60" none

/-- The bindings of bridge events. -/
def eventsField (doc : Yaml.Entries) : Noted (List EventBinding) :=
  match doc.get? "events" with
  | none => .clean []
  | some .null => .clean []
  | some (.seq items) => Noted.collect (items.zipIdx.map fun (item, i) => eventItem item i)
  | some _ => .problem "events" "must be a sequence" []

/-- The initial state. -/
def stateField (doc : Yaml.Entries) : Noted Value :=
  match doc.get? "state" with
  | none => .clean (.obj [])
  | some .null => .clean (.obj [])
  | some (.map m) =>
    let w := jsonOf (.map m) "state"
    ⟨w.value.getD (.obj []), w.problems⟩
  | some _ => .problem "state" "must be a mapping" (.obj [])

/-- The template of a document's entries. -/
def document (maxDepth : Nat) (doc : Yaml.Entries) : Noted (Option Template) := do
  let name ← nameField doc
  let bootstrap ← bootstrapField doc
  let description ← descriptionField doc
  let version ← versionField doc
  let components ← componentsField maxDepth doc
  let actions ← actionsField doc
  let events ← eventsField doc
  let state ← stateField doc
  match name, bootstrap with
  | some name, some bootstrap =>
    return some {
      name := name
      description := description
      version := version
      bootstrap := bootstrap
      components := components
      actions := actions
      events := events
      state := state }
  | _, _ => return none

/-- The problem of a text that cannot be read, in the reader's words. -/
def unreadable (e : Yaml.Unreadable) : SyntaxProblem :=
  { message := "unreadable document: " ++ e.message
    path := ""
    line := e.mark.map (·.line + 1)
    column := e.mark.map (·.column + 1) }

/-- What the value of a document gives. -/
def ofYaml (maxDepth : Nat) : Yaml → Outcome
  | .map doc =>
    let t := document maxDepth doc
    ⟨t.value, t.problems⟩
  | .null => ⟨none, [{ message := "document is empty", path := "" }]⟩
  | _ => ⟨none, [{ message := "document root must be a mapping", path := "" }]⟩

end FromYaml

/-- How deep components may nest unless asked otherwise. -/
def defaultMaxDepth : Nat := 32

/-- What a text gives. -/
def parse (text : String) (maxDepth : Nat := defaultMaxDepth) : Outcome :=
  match Yaml.read text with
  | .error e => ⟨none, [FromYaml.unreadable e]⟩
  | .ok v => FromYaml.ofYaml maxDepth v

end LivePanel.Template
