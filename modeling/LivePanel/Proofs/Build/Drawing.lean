import LivePanel.Build.Pass

/-!
# What becomes of a component

A build carries a draft along, with its errors, its warnings and what it has warned of already.
Here the draft is put out of sight, all but the errors: what the drafting functions compute is said
without it, and `Draws` lists what can become of a component, with the errors and the world that
follow.

`prefix_errors_nodes`: drawing only ever adds errors.
-/

namespace LivePanel

/-- To prove something of all lists of components, prove it of a list from its first component's
children and from the rest. -/
@[elab_as_elim]
theorem Component.forest_induction {motive : List Component → Prop} (nil : motive [])
    (cons : ∀ c rest, motive c.children → motive rest → motive (c :: rest)) :
    ∀ cs, motive cs
  | [] => nil
  | c :: rest => cons c rest (forest_induction nil cons c.children) (forest_induction nil cons rest)
termination_by cs => sizeOf cs
decreasing_by
  · cases c
    simp only [List.cons.sizeOf_spec, Component.mk.sizeOf_spec]
    omega
  · simp only [List.cons.sizeOf_spec]
    omega

namespace Build

variable {σ : Type}

/-! ### What is drafted -/

/-- Props with their texts interpolated. -/
def interpolated (scope : Expr.Scope) (props : Table Value) : Table Value :=
  (Expr.interpolateFields scope props).1

/-- Whether a condition is there and evaluates to false. -/
def hides (scope : Expr.Scope) : Option String → Bool
  | none => false
  | some condition =>
    match Expr.evaluate scope condition with
    | .ok b => !b
    | .error _ => false

/-- An icon with its colour interpolated, where that gives a text. -/
def tinted (scope : Expr.Scope) (icon : Icon) : Icon :=
  { icon with
    color := icon.color.map fun declared =>
      (Expr.interpolateText scope declared).value.asStr?.getD declared }

namespace Draft

@[simp] theorem errors_fail (d : Draft) (e : Error) : (d.fail e).errors = d.errors ++ [e] := rfl

@[simp] theorem errors_useBlock (d : Draft) (block : String) (m : Metadata) :
    (d.useBlock block m).errors = d.errors := by
  unfold useBlock
  split
  · rfl
  · simp only
    split <;> rfl

@[simp] theorem errors_noteMissing (path : String) (d : Draft) (expression : String) :
    (noteMissing path d expression).errors = d.errors := by
  unfold noteMissing
  split <;> rfl

@[simp] theorem errors_noteInvalid (path : String) (d : Draft) (expression : String) :
    (noteInvalid path d expression).errors = d.errors := by
  unfold noteInvalid
  split <;> rfl

/-- What each step of a fold keeps is kept by the fold. -/
theorem foldl_keeps {α β : Type} (part : Draft → β) {f : Draft → α → Draft}
    (hf : ∀ d e, part (f d e) = part d) (es : List α) (d : Draft) :
    part (es.foldl f d) = part d := by
  induction es generalizing d with
  | nil => rfl
  | cons e rest ih => rw [List.foldl_cons, ih, hf]

@[simp] theorem errors_note (d : Draft) (path : String) (notes : Expr.Notes) :
    (d.note path notes).errors = d.errors := by
  unfold note
  rw [foldl_keeps Draft.errors (errors_noteInvalid path),
    foldl_keeps Draft.errors (errors_noteMissing path)]

@[simp] theorem props_fst (d : Draft) (scope : Expr.Scope) (path : String) (p : Table Value) :
    (d.props scope path p).1 = interpolated scope p := rfl

@[simp] theorem errors_props (d : Draft) (scope : Expr.Scope) (path : String) (p : Table Value) :
    (d.props scope path p).2.errors = d.errors := errors_note ..

@[simp] theorem shows_fst (d : Draft) (scope : Expr.Scope) (path : String)
    (condition : Option String) :
    (d.shows scope path condition).1 = !hides scope condition := by
  cases condition with
  | none => rfl
  | some text =>
    simp only [shows, hides]
    cases Expr.evaluate scope text with
    | ok b => simp
    | error e => rfl

@[simp] theorem errors_shows (d : Draft) (scope : Expr.Scope) (path : String)
    (condition : Option String) : (d.shows scope path condition).2.errors = d.errors := by
  cases condition with
  | none => rfl
  | some text =>
    simp only [shows]
    cases Expr.evaluate scope text <;> rfl

@[simp] theorem errors_colour (d : Draft) (scope : Expr.Scope) (path : String)
    (color : Option String) : (d.colour scope path color).2.errors = d.errors := by
  cases color with
  | none => rfl
  | some declared => exact errors_note ..

theorem colour_fst (d : Draft) (scope : Expr.Scope) (path : String) (color : Option String) :
    (d.colour scope path color).1 = color.map fun declared =>
      (Expr.interpolateText scope declared).value.asStr?.getD declared := by
  cases color <;> rfl

end Draft

/-- The icons are those declared, with their colours interpolated, and they bring no errors. -/
theorem icons_eq (ctx : Context σ) (path : String) (declared : List Icon) (d : Draft) :
    (icons ctx path declared d).1 = declared.map (tinted ctx.scope) ∧
      (icons ctx path declared d).2.errors = d.errors := by
  induction declared generalizing d with
  | nil => exact ⟨rfl, rfl⟩
  | cons icon rest ih =>
    simp only [icons, List.map_cons]
    obtain ⟨hi, he⟩ := ih (Draft.colour _ ctx.scope path icon.color).2
    refine ⟨?_, ?_⟩
    · rw [hi, Draft.colour_fst]
      rfl
    · rw [he, Draft.errors_colour]
      cases ctx.registry.resolve? icon.block with
      | none => rfl
      | some b => exact Draft.errors_useBlock ..

/-! ### What is drawn -/

/-- Nothing has happened but that warnings may have been noted. -/
structure Quiet (w w' : Work σ) : Prop where
  errors : w'.draft.errors = w.draft.errors
  world : w'.world = w.world

/-- A node with the bindings and icons of a component. -/
def dressed (scope : Expr.Scope) (c : Component) (n : Node) : Node :=
  { n with
    bindings := addBindings n.bindings c.bindings
    icons := n.icons ++ c.icons.map (tinted scope) }

/-- What can become of a component: its nodes, and the work after them. -/
inductive Draws (ctx : Context σ) (c : Component) (w : Work σ) : List Node → Work σ → Prop where
  | hidden {w' : Work σ} (hc : hides ctx.scope c.condition = true) (hq : Quiet w w') :
      Draws ctx c w [] w'
  | group {w₁ w' : Work σ} (hc : hides ctx.scope c.condition = false) (hb : c.block? = none)
      (hq : Quiet w w₁) (hq' : Quiet (nodes ctx c.children w₁).2 w') :
      Draws ctx c w
        [dressed ctx.scope c
          (.group (interpolated ctx.scope c.props) (nodes ctx c.children w₁).1)] w'
  | refused {w₁ : Work σ} {block : String} {e : Error}
      (hc : hides ctx.scope c.condition = false) (hb : c.block? = some block) (hq : Quiet w w₁)
      (he : (ctx.registry.resolve? block = none ∧
          e = .missingCapability block (Location.text c.location)) ∨
        ∃ b prop, ctx.registry.resolve? block = some b ∧
          lacking? b.metadata (interpolated ctx.scope c.props) = some prop ∧
          e = .invalidProp block (Location.text c.location) prop "is required") :
      Draws ctx c w [.diagnostic block [e.text]] (w₁.mapDraft (·.fail e))
  | fault {w₁ w' : Work σ} {block : String} {b : Block σ} {f : RenderFault}
      (hc : hides ctx.scope c.condition = false) (hb : c.block? = some block)
      (hr : ctx.registry.resolve? block = some b)
      (hl : lacking? b.metadata (interpolated ctx.scope c.props) = none) (hq : Quiet w w₁)
      (hd : b.render (interpolated ctx.scope c.props) (nodes ctx c.children w₁).1
        (nodes ctx c.children w₁).2.world = (.error f, w'.world))
      (he : w'.draft.errors = (nodes ctx c.children w₁).2.draft.errors ++
        [.factoryFault block (Location.text c.location) (faultText f)]) :
      Draws ctx c w
        [.diagnostic block
          [(Error.factoryFault block (Location.text c.location) (faultText f)).text]] w'
  | drawn {w₁ w' : Work σ} {block : String} {b : Block σ} {n : Node}
      (hc : hides ctx.scope c.condition = false) (hb : c.block? = some block)
      (hr : ctx.registry.resolve? block = some b)
      (hl : lacking? b.metadata (interpolated ctx.scope c.props) = none) (hq : Quiet w w₁)
      (hd : b.render (interpolated ctx.scope c.props) (nodes ctx c.children w₁).1
        (nodes ctx c.children w₁).2.world = (.ok n, w'.world))
      (he : w'.draft.errors = (nodes ctx c.children w₁).2.draft.errors) :
      Draws ctx c w [dressed ctx.scope c { n with block := some (n.block.getD block) }] w'

theorem decorate_eq (ctx : Context σ) (c : Component) (n : Node) (w : Work σ) :
    (decorate ctx (Location.text c.location) c.bindings c.icons n w).1 = dressed ctx.scope c n ∧
      Quiet w (decorate ctx (Location.text c.location) c.bindings c.icons n w).2 := by
  obtain ⟨hi, he⟩ := icons_eq ctx (Location.text c.location) c.icons w.draft
  refine ⟨?_, he, rfl⟩
  simp only [decorate, dressed, hi]

/-- **What becomes of a component.** -/
theorem draws_node (ctx : Context σ) (c : Component) (w : Work σ) :
    Draws ctx c w (node ctx c w).1.toList (node ctx c w).2 := by
  obtain ⟨location, kind, condition, declared, bindings, declaredIcons, children⟩ := c
  let c : Component := ⟨location, kind, condition, declared, bindings, declaredIcons, children⟩
  rw [node]
  simp only [Draft.shows_fst]
  cases hc : hides ctx.scope condition with
  | true => exact .hidden hc ⟨Draft.errors_shows .., rfl⟩
  | false =>
    simp only [Bool.not_false, if_true]
    cases hb : kind.block? with
    | none =>
      simp only [Draft.props_fst]
      generalize hw₁ : Work.mk (Draft.props (w.draft.shows ctx.scope (Location.text location)
        condition).2 ctx.scope (Location.text location) declared).2 w.world = w₁
      have hq : Quiet w w₁ := by
        subst hw₁
        exact ⟨by simp, rfl⟩
      obtain ⟨hn, hq'⟩ := decorate_eq ctx c
        (.group (interpolated ctx.scope declared) (nodes ctx children w₁).1)
        (nodes ctx children w₁).2
      have hgroup := Draws.group (c := c) hc hb hq hq'
      rw [← hn] at hgroup
      exact hgroup
    | some block =>
      simp only
      cases hr : ctx.registry.resolve? block with
      | none => exact .refused hc hb ⟨Draft.errors_shows .., rfl⟩ (.inl ⟨hr, rfl⟩)
      | some b =>
        simp only [Draft.props_fst]
        generalize hw₁ : Work.mk (Draft.props ((w.draft.shows ctx.scope (Location.text location)
          condition).2.useBlock block b.metadata) ctx.scope (Location.text location) declared).2
          w.world = w₁
        have hq : Quiet w w₁ := by
          subst hw₁
          exact ⟨by simp, rfl⟩
        cases hl : lacking? b.metadata (interpolated ctx.scope declared) with
        | some prop => exact .refused hc hb hq (.inr ⟨b, prop, hr, hl, rfl⟩)
        | none =>
          simp only [draw]
          cases hd : b.render (interpolated ctx.scope declared) (nodes ctx children w₁).1
            (nodes ctx children w₁).2.world with
          | mk out s =>
            cases out with
            | error f => exact .fault hc hb hr hl hq hd rfl
            | ok n =>
              obtain ⟨hn, hq'⟩ := decorate_eq ctx c { n with block := some (n.block.getD block) }
                { (nodes ctx children w₁).2 with world := s }
              have hdrawn := Draws.drawn (c := c) hc hb hr hl hq hd hq'.errors
              rw [← hn] at hdrawn
              exact hdrawn

theorem nodes_cons (ctx : Context σ) (c : Component) (rest : List Component) (w : Work σ) :
    nodes ctx (c :: rest) w =
      ((node ctx c w).1.toList ++ (nodes ctx rest (node ctx c w).2).1,
        (nodes ctx rest (node ctx c w).2).2) := by
  rw [nodes]

theorem nodes_nil (ctx : Context σ) (w : Work σ) : nodes ctx [] w = ([], w) := by rw [nodes]

theorem Draws.prefix_errors {ctx : Context σ} {c : Component} {w w' : Work σ} {ns : List Node}
    (h : Draws ctx c w ns w')
    (hbelow : ∀ w₁ : Work σ, w₁.draft.errors <+: (nodes ctx c.children w₁).2.draft.errors) :
    w.draft.errors <+: w'.draft.errors := by
  cases h with
  | hidden _ hq => exact hq.errors ▸ List.prefix_rfl
  | group _ _ hq hq' => exact hq'.errors ▸ hq.errors ▸ hbelow _
  | refused _ _ hq _ => exact hq.errors ▸ List.prefix_append ..
  | fault _ _ _ _ hq _ he =>
    rw [he, ← hq.errors]
    exact (hbelow _).trans (List.prefix_append ..)
  | drawn _ _ _ _ hq _ he => exact he ▸ hq.errors ▸ hbelow _

/-- **Drawing only ever adds errors.** -/
theorem prefix_errors_nodes (ctx : Context σ) (cs : List Component) (w : Work σ) :
    w.draft.errors <+: (nodes ctx cs w).2.draft.errors := by
  induction cs using Component.forest_induction generalizing w with
  | nil => exact (nodes_nil ctx w).symm ▸ List.prefix_rfl
  | cons c rest ihc ihr =>
    rw [nodes_cons]
    exact ((draws_node ctx c w).prefix_errors ihc).trans (ihr _)

/-! ### What is built -/

/-- What can become of a template. -/
inductive Builds (ctx : Context σ) (t : Template) (w : Work σ) : Artifact → Prop where
  | unregistered {ws : List Warning} (hr : ctx.registry.resolve? t.bootstrap.block = none) :
      Builds ctx t w
        (.failed t.bootstrap.block
          (w.draft.errors ++ [.missingCapability t.bootstrap.block bootstrapPath]) ws)
  | lacking {b : Block σ} {prop : String} {ws : List Warning}
      (hr : ctx.registry.resolve? t.bootstrap.block = some b)
      (hl : lacking? b.metadata (interpolated ctx.scope t.bootstrap.props) = some prop) :
      Builds ctx t w
        (.failed t.bootstrap.block
          (w.draft.errors ++ [.invalidProp t.bootstrap.block bootstrapPath prop "is required"]) ws)
  | fault {w₁ : Work σ} {s : σ} {b : Block σ} {f : RenderFault} {ws : List Warning}
      (hr : ctx.registry.resolve? t.bootstrap.block = some b)
      (hl : lacking? b.metadata (interpolated ctx.scope t.bootstrap.props) = none)
      (hq : Quiet w w₁)
      (hd : b.render (interpolated ctx.scope t.bootstrap.props) (nodes ctx t.components w₁).1
        (nodes ctx t.components w₁).2.world = (.error f, s)) :
      Builds ctx t w
        (.failed t.bootstrap.block
          ((nodes ctx t.components w₁).2.draft.errors ++
            [.factoryFault t.bootstrap.block bootstrapPath (faultText f)]) ws)
  | drawn {w₁ : Work σ} {s : σ} {b : Block σ} {n : Node} {us : List String} {ws : List Warning}
      (hr : ctx.registry.resolve? t.bootstrap.block = some b)
      (hl : lacking? b.metadata (interpolated ctx.scope t.bootstrap.props) = none)
      (hq : Quiet w w₁)
      (hd : b.render (interpolated ctx.scope t.bootstrap.props) (nodes ctx t.components w₁).1
        (nodes ctx t.components w₁).2.world = (.ok n, s)) :
      Builds ctx t w
        ⟨{ n with block := some (n.block.getD t.bootstrap.block) }, us, ws,
          (nodes ctx t.components w₁).2.draft.errors⟩

/-- **What becomes of a template.** -/
theorem builds_template (o : Options) (r : Registry σ) (t : Template) (host : Value)
    (problems : List SyntaxProblem) (s : σ) :
    Builds ⟨r, scopeOf t host⟩ t ⟨openingDraft o t problems, s⟩
      (template o r t host problems s).1 := by
  generalize hw : Work.mk (openingDraft o t problems) s = w
  generalize hctx : Context.mk r (scopeOf t host) = ctx
  obtain ⟨rfl, hs⟩ : r = ctx.registry ∧ scopeOf t host = ctx.scope := by
    subst hctx
    exact ⟨rfl, rfl⟩
  simp only [template, hctx, hw]
  cases hr : ctx.registry.resolve? t.bootstrap.block with
  | none =>
    subst hw
    exact .unregistered hr
  | some b =>
    simp only [root, Draft.props_fst]
    generalize hw₁ : Work.mk (Draft.props (w.draft.useBlock t.bootstrap.block b.metadata) ctx.scope
      bootstrapPath t.bootstrap.props).2 w.world = w₁
    have hq : Quiet w w₁ := by
      subst hw₁
      exact ⟨by simp, rfl⟩
    cases hl : lacking? b.metadata (interpolated ctx.scope t.bootstrap.props) with
    | some prop =>
      simp only [failed, Work.mapDraft, Draft.errors_fail, hq.errors]
      exact .lacking hr hl
    | none =>
      simp only [draw]
      cases hd : b.render (interpolated ctx.scope t.bootstrap.props)
        (nodes ctx t.components w₁).1 (nodes ctx t.components w₁).2.world with
      | mk out s' =>
        cases out with
        | error f => exact .fault hr hl hq hd
        | ok n => exact .drawn hr hl hq hd

/-- An artifact reports all that the build started with. -/
theorem Builds.prefix_errors {ctx : Context σ} {t : Template} {w : Work σ} {a : Artifact}
    (h : Builds ctx t w a) : w.draft.errors <+: a.errors := by
  cases h with
  | unregistered _ => exact List.prefix_append ..
  | lacking _ _ => exact List.prefix_append ..
  | fault _ _ hq _ =>
    exact (hq.errors ▸ prefix_errors_nodes ctx _ _).trans (List.prefix_append ..)
  | drawn _ _ hq _ => exact hq.errors ▸ prefix_errors_nodes ctx _ _

end Build

end LivePanel
