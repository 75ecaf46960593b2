import LivePanel.Proofs.Build.Used

/-!
# What a build comes across

A draft is written while a build goes through a template, and what it says at the end depends on all
that was met on the way. `sights` lists that from the template: conditions, blocks, icons, the texts
that are interpolated, inputs that are lacking and blocks that fail, in the order in which a build
comes across them. It stops at a hidden component, at a block that is not registered or lacks an
input, and it passes over the icons where a diagnostic stands in a component's place.

## What is proved

* `draft_nodes`: the draft after components are drawn is the one before with all sights entered in
  it, one after the other.
* `see_behind`: what is entered does not depend on the errors and warnings that are recorded already.
* `template_eq`: so a build reports what was known before its first node and, behind it, what the
  sights come to; its panel depends on neither.
-/

namespace LivePanel.Build

variable {σ : Type}

/-- Something that a build comes across at a place of a template. -/
inductive Sight where
  | condition (path text : String)
  | block (path id : String)
  | icon (path id : String)
  | text (path : String) (value : Value)
  | lack (path block prop : String)
  | fault (path block message : String)

/-- Enter in a draft what a build comes across. -/
def Draft.see (ctx : Context σ) (d : Draft) : Sight → Draft
  | .condition path text => (d.shows ctx.scope path (some text)).2
  | .block path id =>
    match ctx.registry.resolve? id with
    | some b => d.useBlock id b.metadata
    | none => d.fail (.missingCapability id path)
  | .icon path id =>
    match ctx.registry.resolve? id with
    | some b => d.useBlock id b.metadata
    | none => d.warn (.unknownIcon id path)
  | .text path value => d.note path (Expr.interpolate ctx.scope value).notes
  | .lack path block prop => d.fail (.invalidProp block path prop "is required")
  | .fault path block message => d.fail (.factoryFault block path message)

/-! ### What there is to come across -/

/-- At icons: the block of each, and its colour. -/
def iconSights (path : String) : List Icon → List Sight
  | [] => []
  | icon :: rest =>
    .icon path icon.block :: (icon.color.map fun s => .text path (.str s)).toList ++
      iconSights path rest

/-- At a block: whether it is registered, its props, its inputs, what is below it, and last whether
it fails; what follows is met only behind a node that it draws. -/
def blockSights (ctx : Context σ) (path block : String) (props : Table Value)
    (children : List Component) (s : σ) (below following : List Sight) : List Sight :=
  .block path block ::
    match ctx.registry.resolve? block with
    | none => []
    | some b =>
      .text path (.obj props) ::
        match lacking? b.metadata (interpolated ctx.scope props) with
        | some prop => [.lack path block prop]
        | none =>
          let drawn := nodes ctx children ⟨{}, s⟩
          below ++
            match (b.render (interpolated ctx.scope props) drawn.1 drawn.2.world).1 with
            | .error f => [.fault path block (faultText f)]
            | .ok _ => following

mutual
/-- What a build comes across in a component. -/
def sights (ctx : Context σ) (c : Component) (s : σ) : List Sight :=
  match c with
  | ⟨location, kind, condition, props, _, icons, children⟩ =>
    let path := Location.text location
    (condition.map (.condition path)).toList ++
      if hides ctx.scope condition then []
      else
        let below := sightsAll ctx children s
        match kind.block? with
        | none => .text path (.obj props) :: below ++ iconSights path icons
        | some block =>
          blockSights ctx path block props children s below (iconSights path icons)

/-- What a build comes across in components, in order. -/
def sightsAll (ctx : Context σ) (cs : List Component) (s : σ) : List Sight :=
  match cs with
  | [] => []
  | c :: rest => sights ctx c s ++ sightsAll ctx rest (node ctx c ⟨{}, s⟩).2.world
end

theorem sights_eq (ctx : Context σ) (c : Component) (s : σ) :
    sights ctx c s =
      (c.condition.map (.condition (Location.text c.location))).toList ++
        if hides ctx.scope c.condition then []
        else
          match c.block? with
          | none =>
            .text (Location.text c.location) (.obj c.props) :: sightsAll ctx c.children s ++
              iconSights (Location.text c.location) c.icons
          | some block =>
            blockSights ctx (Location.text c.location) block c.props c.children s
              (sightsAll ctx c.children s) (iconSights (Location.text c.location) c.icons) := by
  obtain ⟨location, kind, condition, props, bindings, icons, children⟩ := c
  rw [sights]
  rfl

theorem sightsAll_nil (ctx : Context σ) (s : σ) : sightsAll ctx [] s = [] := by rw [sightsAll]

theorem sightsAll_cons (ctx : Context σ) (c : Component) (rest : List Component) (s : σ) :
    sightsAll ctx (c :: rest) s =
      sights ctx c s ++ sightsAll ctx rest (node ctx c ⟨{}, s⟩).2.world := by rw [sightsAll]

/-- What a build comes across in a template, the block at the root first. -/
def panelSights (ctx : Context σ) (t : Template) (s : σ) : List Sight :=
  blockSights ctx bootstrapPath t.bootstrap.block t.bootstrap.props t.components s
    (sightsAll ctx t.components s) []

/-! ### The draft -/

section

variable {ctx : Context σ}

theorem draft_shows (d : Draft) (path : String) (condition : Option String) :
    (d.shows ctx.scope path condition).2 =
      ((condition.map (Sight.condition path)).toList).foldl (Draft.see ctx) d := by
  cases condition <;> rfl

theorem draft_icons (path : String) (declared : List Icon) (d : Draft) :
    (icons ctx path declared d).2 = (iconSights path declared).foldl (Draft.see ctx) d := by
  induction declared generalizing d with
  | nil => rfl
  | cons icon rest ih =>
    rw [icons, iconSights, List.cons_append, List.foldl_cons, List.foldl_append, ← ih]
    cases icon.color <;> rfl

theorem draft_props {block : String} {b : Block σ} (hr : ctx.registry.resolve? block = some b)
    (path : String) (props : Table Value) (d : Draft) :
    ((d.useBlock block b.metadata).props ctx.scope path props).2 =
      (d.see ctx (.block path block)).see ctx (.text path (.obj props)) := by
  simp only [Draft.see, hr]
  rfl

/-- What is entered at a block that is asked for its node: what is below it first, then that it
fails, or else what follows. -/
theorem draft_draw {children : List Component}
    (hbelow : ∀ w : Work σ, (nodes ctx children w).2.draft =
      (sightsAll ctx children w.world).foldl (Draft.see ctx) w.draft)
    (b : Block σ) (path block : String) (props : Table Value) (d : Draft) (s : σ)
    (following : List Sight) :
    let below := nodes ctx children ⟨d, s⟩
    let out := draw b block path props below.1 below.2
    (match out.1 with
      | .error _ => out.2.draft
      | .ok _ => following.foldl (Draft.see ctx) out.2.draft) =
    (sightsAll ctx children s ++
      match (b.render props (nodes ctx children ⟨{}, s⟩).1
        (nodes ctx children ⟨{}, s⟩).2.world).1 with
      | .error f => [.fault path block (faultText f)]
      | .ok _ => following).foldl (Draft.see ctx) d := by
  obtain ⟨hnodes, hworld⟩ := alike_nodes (w := ⟨d, s⟩) (v := ⟨{}, s⟩) ctx children rfl
  dsimp only
  rw [List.foldl_append, ← hbelow ⟨d, s⟩, ← hnodes, ← hworld, draw]
  generalize nodes ctx children ⟨d, s⟩ = below
  generalize b.render props below.1 below.2.world = out
  obtain ⟨drawn, s'⟩ := out
  cases drawn <;> rfl

theorem draft_node {c : Component}
    (hbelow : ∀ w : Work σ, (nodes ctx c.children w).2.draft =
      (sightsAll ctx c.children w.world).foldl (Draft.see ctx) w.draft) (w : Work σ) :
    (node ctx c w).2.draft = (sights ctx c w.world).foldl (Draft.see ctx) w.draft := by
  obtain ⟨location, kind, condition, declared, bindings, declaredIcons, children⟩ := c
  rw [node, sights_eq, List.foldl_append, ← draft_shows]
  simp only [Draft.shows_fst]
  generalize (w.draft.shows ctx.scope (Location.text location) condition).2 = d
  cases hc : hides ctx.scope condition with
  | true => rfl
  | false =>
    simp only [Bool.not_false, Bool.false_eq_true, if_true, if_false]
    rw [show Component.block? ⟨location, kind, condition, declared, bindings, declaredIcons,
      children⟩ = kind.block? from rfl]
    cases hb : kind.block? with
    | none =>
      dsimp only [decorate]
      rw [draft_icons, hbelow, List.foldl_append, List.foldl_cons]
      rfl
    | some block =>
      dsimp only [blockSights]
      cases hr : ctx.registry.resolve? block with
      | none =>
        simp only [List.foldl_cons, List.foldl_nil, Draft.see, hr]
        rfl
      | some b =>
        simp only [Draft.props_fst, List.foldl_cons]
        rw [← draft_props hr]
        generalize (Draft.props (d.useBlock block b.metadata) ctx.scope (Location.text location)
          declared).2 = d'
        cases hl : lacking? b.metadata (interpolated ctx.scope declared) with
        | some prop => rfl
        | none =>
          rw [← draft_draw hbelow b (Location.text location) block]
          dsimp only
          generalize draw b block _ _ _ (nodes ctx children ⟨d', w.world⟩).2 = out
          obtain ⟨drawn, w'⟩ := out
          cases drawn with
          | error message => rfl
          | ok n => exact draft_icons ..

/-- **The draft after components are drawn is the one before with all sights entered in it.** -/
theorem draft_nodes (ctx : Context σ) (cs : List Component) (w : Work σ) :
    (nodes ctx cs w).2.draft = (sightsAll ctx cs w.world).foldl (Draft.see ctx) w.draft := by
  induction cs using Component.forest_induction generalizing w with
  | nil => rw [nodes_nil, sightsAll_nil]; rfl
  | cons c rest ihc ihr =>
    have halike := alike_node (w := w) (v := ⟨{}, w.world⟩) (alike_nodes ctx c.children) rfl
    rw [nodes_cons, sightsAll_cons, List.foldl_append, ← draft_node ihc, ← halike.world]
    exact ihr _

theorem draft_root {t : Template} {b : Block σ}
    (hr : ctx.registry.resolve? t.bootstrap.block = some b) (w : Work σ) :
    (root ctx t b w).2.draft = (panelSights ctx t w.world).foldl (Draft.see ctx) w.draft := by
  rw [root, panelSights, blockSights]
  simp only [Draft.props_fst, hr, List.foldl_cons]
  rw [draft_props hr]
  generalize (w.draft.see ctx (.block bootstrapPath t.bootstrap.block)).see ctx _ = d
  cases hl : lacking? b.metadata (interpolated ctx.scope t.bootstrap.props) with
  | some prop => rfl
  | none =>
    have hdraw := draft_draw (draft_nodes ctx t.components) b bootstrapPath t.bootstrap.block
      (interpolated ctx.scope t.bootstrap.props) d w.world []
    dsimp only at hdraw ⊢
    rw [← hdraw]
    split <;> rfl

end

/-! ### What was known before -/

/-- A draft with errors and warnings that were recorded before it. -/
def Draft.behind (d : Draft) (es : List Error) (ws : List Warning) : Draft :=
  { d with errors := es ++ d.errors, warnings := ws ++ d.warnings }

section

variable (es : List Error) (ws : List Warning)

theorem fail_behind (d : Draft) (e : Error) :
    (d.behind es ws).fail e = (d.fail e).behind es ws := by
  simp [Draft.behind, Draft.fail, List.append_assoc]

theorem warn_behind (d : Draft) (w : Warning) :
    (d.behind es ws).warn w = (d.warn w).behind es ws := by
  simp [Draft.behind, Draft.warn, List.append_assoc]

theorem useBlock_behind (d : Draft) (block : String) (m : Metadata) :
    (d.behind es ws).useBlock block m = (d.useBlock block m).behind es ws := by
  cases hm : m.deprecated with
  | none =>
    simp only [Draft.useBlock, hm]
    rfl
  | some notice =>
    by_cases h : block ∈ d.deprecated <;>
      simp [Draft.useBlock, Draft.warn, Draft.behind, hm, h, List.append_assoc]

theorem note_behind (d : Draft) (path : String) (notes : Expr.Notes) :
    (d.behind es ws).note path notes = (d.note path notes).behind es ws := by
  have hmissing (d : Draft) (e : String) : Draft.noteMissing path (d.behind es ws) e =
      (Draft.noteMissing path d e).behind es ws := by
    by_cases h : e ∈ d.missing <;>
      simp [Draft.noteMissing, Draft.warn, Draft.behind, h, List.append_assoc]
  have hinvalid (d : Draft) (e : String) : Draft.noteInvalid path (d.behind es ws) e =
      (Draft.noteInvalid path d e).behind es ws := by
    by_cases h : e ∈ d.invalid <;>
      simp [Draft.noteInvalid, Draft.warn, Draft.behind, h, List.append_assoc]
  rw [Draft.note, List.foldl_hom (Draft.behind · es ws) hmissing,
    List.foldl_hom (Draft.behind · es ws) hinvalid, Draft.note]

/-- What is entered in a draft does not depend on what it records already. -/
theorem see_behind (ctx : Context σ) (d : Draft) (x : Sight) :
    (d.behind es ws).see ctx x = (d.see ctx x).behind es ws := by
  cases x with
  | condition path text =>
    simp only [Draft.see, Draft.shows]
    cases Expr.evaluate ctx.scope text with
    | ok b => rfl
    | error e => exact warn_behind es ws _ _
  | block path id =>
    simp only [Draft.see]
    cases ctx.registry.resolve? id with
    | none => exact fail_behind es ws _ _
    | some b => exact useBlock_behind es ws _ _ _
  | icon path id =>
    simp only [Draft.see]
    cases ctx.registry.resolve? id with
    | none => exact warn_behind es ws _ _
    | some b => exact useBlock_behind es ws _ _ _
  | text path value => exact note_behind es ws _ _ _
  | lack path block prop => exact fail_behind es ws _ _
  | fault path block message => exact fail_behind es ws _ _

end

/-! ### What is built -/

/-- Whether the error is about the name of an action. -/
def Error.isUnknownAction : Error → Bool
  | unknownAction .. => true
  | _ => false

/-- Whether the warning is about an action that no place names. -/
def Warning.isUnusedAction : Warning → Bool
  | unusedAction _ => true
  | _ => false

/-- What a build of a template comes to beyond what was known before its first node. -/
def told (ctx : Context σ) (t : Template) (s : σ) : Draft :=
  (panelSights ctx t s).foldl (Draft.see ctx) {}

/-- What the block at the root draws, if it does. -/
def rootNode? (ctx : Context σ) (t : Template) (s : σ) : Option Node :=
  (ctx.registry.resolve? t.bootstrap.block).bind fun b => (root ctx t b ⟨{}, s⟩).1.toOption

theorem alike_root (ctx : Context σ) (t : Template) (b : Block σ) {w v : Work σ}
    (h : w.world = v.world) : Alike (root ctx t b w) (root ctx t b v) := by
  unfold root
  simp only [Draft.props_fst]
  split
  · exact ⟨rfl, h⟩
  · have hnodes : ∀ d d' : Draft, Alike (nodes ctx t.components ⟨d, w.world⟩)
        (nodes ctx t.components ⟨d', v.world⟩) := fun _ _ => alike_nodes ctx t.components h
    exact alike_draw b _ _ _ (hnodes _ _).result (hnodes _ _).world

theorem isSome_rootNode? (ctx : Context σ) (t : Template) (s : σ) : (rootNode? ctx t s).isSome =
    renders ctx t.bootstrap.block t.bootstrap.props t.components s := by
  rw [rootNode?]
  cases hr : ctx.registry.resolve? t.bootstrap.block with
  | none => simp [renders, fitting?, hr]
  | some b =>
    rw [Option.bind_some, ← isOk_root hr ⟨{}, s⟩]
    cases (root ctx t b ⟨{}, s⟩).1 <;> rfl

/-- **What a template is built to.** -/
theorem template_eq (o : Options) (r : Registry σ) (t : Template) (host : Value)
    (problems : List SyntaxProblem) (s : σ) :
    let ctx : Context σ := ⟨r, scopeOf t host⟩
    let before := openingDraft o t problems
    let d := (told ctx t s).behind before.errors before.warnings
    (template o r t host problems s).1 =
      match rootNode? ctx t s with
      | some n => ⟨n, d.used, d.warnings, d.errors⟩
      | none => .failed t.bootstrap.block d.errors d.warnings := by
  dsimp only
  generalize hctx : Context.mk r (scopeOf t host) = ctx
  obtain rfl : r = ctx.registry := by rw [← hctx]
  have hsee : (panelSights ctx t s).foldl (Draft.see ctx) (openingDraft o t problems) =
      (told ctx t s).behind (openingDraft o t problems).errors
        (openingDraft o t problems).warnings := by
    rw [told, ← List.foldl_hom (Draft.behind · _ _) (see_behind _ _ ctx)]
    simp [openingDraft, Draft.behind]
  rw [← hsee]
  simp only [template, hctx, rootNode?]
  cases hr : ctx.registry.resolve? t.bootstrap.block with
  | none =>
    rw [panelSights, blockSights]
    simp only [hr, List.foldl_cons, List.foldl_nil, Draft.see]
    rfl
  | some b =>
    have hdraft : (root ctx t b ⟨openingDraft o t problems, s⟩).2.draft =
        (panelSights ctx t s).foldl (Draft.see ctx) (openingDraft o t problems) := draft_root hr _
    have hroot := alike_root (w := ⟨openingDraft o t problems, s⟩) (v := ⟨{}, s⟩) ctx t b rfl
    rw [← hdraft, Option.bind_some, ← hroot.result]
    dsimp only
    generalize root ctx t b ⟨openingDraft o t problems, s⟩ = out
    obtain ⟨drawn, w⟩ := out
    cases drawn <;> rfl

section

variable (o : Options) (r : Registry σ) (t : Template) (host : Value)
  (problems : List SyntaxProblem) (s : σ)

theorem errors_template : (template o r t host problems s).1.errors =
    (openingDraft o t problems).errors ++ (told ⟨r, scopeOf t host⟩ t s).errors := by
  rw [template_eq]
  cases rootNode? ⟨r, scopeOf t host⟩ t s <;> rfl

theorem warnings_template : (template o r t host problems s).1.warnings =
    (openingDraft o t problems).warnings ++ (told ⟨r, scopeOf t host⟩ t s).warnings := by
  rw [template_eq]
  cases rootNode? ⟨r, scopeOf t host⟩ t s <;> rfl

/-- Where the block at the root draws, what it draws is the panel. -/
theorem template_of_renders (h : renders ⟨r, scopeOf t host⟩ t.bootstrap.block t.bootstrap.props
    t.components s = true) :
    rootNode? ⟨r, scopeOf t host⟩ t s = some (template o r t host problems s).1.root ∧
      (template o r t host problems s).1.used = (told ⟨r, scopeOf t host⟩ t s).used := by
  rw [← isSome_rootNode?, Option.isSome_iff_exists] at h
  obtain ⟨n, hn⟩ := h
  rw [template_eq, hn]
  exact ⟨rfl, rfl⟩

end

end LivePanel.Build
