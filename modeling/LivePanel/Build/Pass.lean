import LivePanel.Block.Registry
import LivePanel.Build.Actions
import LivePanel.Build.Artifact
import LivePanel.Expr.Condition
import LivePanel.Value.Merge

/-!
# Building a panel

A build walks the components of a template from the top, in order. It drops those
whose condition does not hold, interpolates their props, and asks their blocks for
nodes; a block that is not registered, lacks an input or fails leaves a diagnostic in
its place and the rest goes on. What is to report is gathered in a draft on the way; the
state `σ` of the world that blocks act on is passed along.
-/

namespace LivePanel.Build

/-- What a build has reported so far, with the expressions and blocks warned of. -/
structure Draft where
  errors : List Error := []
  warnings : List Warning := []
  used : List String := []
  missing : List String := []
  invalid : List String := []
  deprecated : List String := []

namespace Draft

/-- Record an error. -/
def fail (d : Draft) (e : Error) : Draft := { d with errors := d.errors ++ [e] }

/-- Record a warning. -/
def warn (d : Draft) (w : Warning) : Draft := { d with warnings := d.warnings ++ [w] }

/-- Record that a block is used, and once that it is deprecated. -/
def useBlock (d : Draft) (block : String) (m : Metadata) : Draft :=
  let d := { d with used := Template.addSeen d.used block }
  match m.deprecated with
  | none => d
  | some notice =>
    if block ∈ d.deprecated then d
    else { d with deprecated := d.deprecated ++ [block] }.warn (.deprecatedCapability block notice)

/-- Record a path that did not resolve, once. -/
def noteMissing (path : String) (d : Draft) (expression : String) : Draft :=
  if expression ∈ d.missing then d
  else { d with missing := d.missing ++ [expression] }.warn (.unresolvedPath expression path)

/-- Record a token that is no path, once. -/
def noteInvalid (path : String) (d : Draft) (expression : String) : Draft :=
  if expression ∈ d.invalid then d
  else
    { d with invalid := d.invalid ++ [expression] }.warn
      (.invalidExpression expression path "not a state path")

/-- Record the tokens that interpolation left over at a place. -/
def note (d : Draft) (path : String) (notes : Expr.Notes) : Draft :=
  notes.invalid.foldl (noteInvalid path) (notes.missing.foldl (noteMissing path) d)

/-- Props after interpolation. -/
def props (d : Draft) (scope : Expr.Scope) (path : String) (props : Table Value) :
    Table Value × Draft :=
  let (fields, notes) := Expr.interpolateFields scope props
  (fields, d.note path notes)

/-- Whether a component is shown; a condition that cannot be read holds. -/
def shows (d : Draft) (scope : Expr.Scope) (path : String) : Option String → Bool × Draft
  | none => (true, d)
  | some condition =>
    match Expr.evaluate scope condition with
    | .ok b => (b, d)
    | .error e => (true, d.warn (.invalidExpression condition path e.message))

/-- The colour of an icon after interpolation; it stays as declared where it becomes no text. -/
def colour (d : Draft) (scope : Expr.Scope) (path : String) : Option String →
    Option String × Draft
  | none => (none, d)
  | some declared =>
    let out := Expr.interpolateText scope declared
    (some (out.value.asStr?.getD declared), d.note path out.notes)

end Draft

/-- What a build works with: the blocks, and the values that expressions see. -/
structure Context (σ : Type) where
  registry : Registry σ
  scope : Expr.Scope

/-- The state of a build: its draft, and the world that blocks act on. -/
structure Work (σ : Type) where
  draft : Draft
  world : σ

variable {σ : Type}

/-- Change the draft. -/
def Work.mapDraft (w : Work σ) (f : Draft → Draft) : Work σ := { w with draft := f w.draft }

/-- The icons of a component. -/
def icons (ctx : Context σ) (path : String) : List Icon → Draft → List Icon × Draft
  | [], d => ([], d)
  | icon :: rest, d =>
    let d :=
      match ctx.registry.resolve? icon.block with
      | some b => d.useBlock icon.block b.metadata
      | none => d.warn (.unknownIcon icon.block path)
    let (colour, d) := d.colour ctx.scope path icon.color
    let (others, d) := icons ctx path rest d
    ({ icon with color := colour } :: others, d)

/-- The first required input that props lack. -/
def lacking? (m : Metadata) (props : Table Value) : Option String :=
  m.requiredInputs.find? fun name => ((props.get? name).map Value.isNull).getD true

/-- Why a block drew no node, in words. -/
def faultText : RenderFault → String
  | .invalidProps reason => "Invalid props: " ++ reason
  | .failed reason => "Render failed: " ++ reason
  | .panicked text => "panicked: " ++ text.getD "unknown panic"

/-- A node or, in its place, the message of an error. -/
abbrev Drawn := Except String Node

/-- Record an error; its text stands in the place of the node. -/
def failed (w : Work σ) (e : Error) : Drawn × Work σ := (.error e.text, w.mapDraft (·.fail e))

/-- Ask a block for its node. -/
def draw (b : Block σ) (block path : String) (props : Table Value) (children : List Node)
    (w : Work σ) : Drawn × Work σ :=
  match b.render props children w.world with
  | (.ok n, s) => (.ok { n with block := some (n.block.getD block) }, { w with world := s })
  | (.error fault, s) => failed { w with world := s } (.factoryFault block path (faultText fault))

/-- Add those bindings that a node does not have. -/
def addBindings (node : Table String) (declared : Table String) : Table String :=
  declared.foldl (fun t e => if t.has e.1 then t else t.put e.1 e.2) node

/-- A node with the bindings and icons of its component. -/
def decorate (ctx : Context σ) (path : String) (bindings : Table String) (declared : List Icon)
    (n : Node) (w : Work σ) : Node × Work σ :=
  let (added, d) := icons ctx path declared w.draft
  ({ n with bindings := addBindings n.bindings bindings, icons := n.icons ++ added },
    { w with draft := d })

mutual
/-- The node of a component; none where its condition does not hold. -/
def node (ctx : Context σ) (c : Component) (w : Work σ) : Option Node × Work σ :=
  match c with
  | ⟨location, kind, condition, declared, bindings, declaredIcons, children⟩ =>
    let path := Location.text location
    let (shown, d) := w.draft.shows ctx.scope path condition
    let w := { w with draft := d }
    if shown then
      match kind.block? with
      | none =>
        let (props, d) := w.draft.props ctx.scope path declared
        let (below, w) := nodes ctx children { w with draft := d }
        let (n, w) := decorate ctx path bindings declaredIcons (.group props below) w
        (some n, w)
      | some block =>
        match ctx.registry.resolve? block with
        | none =>
          let e := Error.missingCapability block path
          (some (.diagnostic block [e.text]), w.mapDraft (·.fail e))
        | some b =>
          let (props, d) := (w.draft.useBlock block b.metadata).props ctx.scope path declared
          let w := { w with draft := d }
          match lacking? b.metadata props with
          | some prop =>
            let e := Error.invalidProp block path prop "is required"
            (some (.diagnostic block [e.text]), w.mapDraft (·.fail e))
          | none =>
            let (below, w) := nodes ctx children w
            match draw b block path props below w with
            | (.error message, w) => (some (.diagnostic block [message]), w)
            | (.ok n, w) =>
              let (n, w) := decorate ctx path bindings declaredIcons n w
              (some n, w)
    else (none, w)

/-- The nodes of components, in order. -/
def nodes (ctx : Context σ) (cs : List Component) (w : Work σ) : List Node × Work σ :=
  match cs with
  | [] => ([], w)
  | c :: rest =>
    let (first, w) := node ctx c w
    let (others, w) := nodes ctx rest w
    (first.toList ++ others, w)
end

/-- The place of the block at the root. -/
def bootstrapPath : String := "bootstrap"

/-- The root of a panel. -/
def root (ctx : Context σ) (t : Template) (b : Block σ) (w : Work σ) : Drawn × Work σ :=
  let block := t.bootstrap.block
  let (props, d) :=
    (w.draft.useBlock block b.metadata).props ctx.scope bootstrapPath t.bootstrap.props
  let w := { w with draft := d }
  match lacking? b.metadata props with
  | some prop => failed w (.invalidProp block bootstrapPath prop "is required")
  | none =>
    let (below, w) := nodes ctx t.components w
    draw b block bootstrapPath props below w

/-- How a text is built. -/
structure Options where
  maxDepth : Nat := Template.defaultMaxDepth
  warnUnusedActions : Bool := true
deriving DecidableEq

/-- The values that a build of a template sees: the host's state over the template's. -/
def scopeOf (t : Template) (host : Value) : Expr.Scope := ⟨t.state.merge host, none⟩

/-- The draft of a build before its first node: the problems of the text, then those of the
actions. -/
def openingDraft (o : Options) (t : Template) (problems : List SyntaxProblem) : Draft :=
  { errors := problems.map .malformed ++ unknownActions t
    warnings := if o.warnUnusedActions then unusedActions t else [] }

/-- Build a template against the host's state. -/
def template (o : Options) (registry : Registry σ) (t : Template) (host : Value)
    (problems : List SyntaxProblem) (s : σ) : Artifact × σ :=
  let block := t.bootstrap.block
  let draft := openingDraft o t problems
  match registry.resolve? block with
  | none =>
    let d := draft.fail (.missingCapability block bootstrapPath)
    (.failed block d.errors d.warnings, s)
  | some b =>
    match root ⟨registry, scopeOf t host⟩ t b ⟨draft, s⟩ with
    | (.ok n, w) => (⟨n, w.draft.used, w.draft.warnings, w.draft.errors⟩, w.world)
    | (.error _, w) => (.failed block w.draft.errors w.draft.warnings, w.world)

/-- Build what a text gave. -/
def outcome (o : Options) (registry : Registry σ) (parsed : Template.Outcome) (host : Value)
    (s : σ) : Artifact × σ :=
  match parsed.template with
  | some t => template o registry t host parsed.problems s
  | none => (.failed none (parsed.problems.map .malformed) [], s)

/-- Build a text. -/
def text (o : Options) (registry : Registry σ) (source : String) (host : Value) (s : σ) :
    Artifact × σ :=
  outcome o registry (Template.parse source o.maxDepth) host s

/-- Build a text against an empty state, for what there is to report. -/
def validate (o : Options) (registry : Registry σ) (source : String) (s : σ) : Validation × σ :=
  let (a, s) := text o registry source (.obj []) s
  (⟨a.isOk, a.errors, a.warnings⟩, s)

end LivePanel.Build
