import LivePanel.Proofs.Build.Drawing
import LivePanel.Proofs.Template.Items
import LivePanel.Proofs.Text.FirstSeen

/-!
# The blocks that a build uses

An artifact lists the blocks that went into it. `met` tells from the template which blocks a build
comes across, and in which order: the block of a component before its children's, and those of its
icons after them. It passes over what is hidden, over the children of a component whose block is
not registered or lacks an input, and over the icons where a diagnostic stands in a component's
place.

`used_is_first_met`: the blocks used are those of them that are registered, each once, and all of
them are named in the template. Only the world that blocks act on goes along in `met`, because
what a block draws may depend on it; what has been reported makes no difference to that
(`alike_nodes`).
-/

namespace LivePanel

namespace Build

open Template (addSeen componentBlocks)

variable {σ : Type}

/-! ### What a build meets -/

/-- Whether a block is registered under the id. -/
def registered (ctx : Context σ) (id : String) : Bool := (ctx.registry.resolve? id).isSome

/-- The block under an id, if it is registered and the props do not lack an input that it
requires. -/
def fitting? (ctx : Context σ) (block : String) (props : Table Value) : Option (Block σ) :=
  (ctx.registry.resolve? block).filter fun b =>
    (lacking? b.metadata (interpolated ctx.scope props)).isNone

/-- Whether the block under an id, with its children drawn first, draws a node in a world. -/
def renders (ctx : Context σ) (block : String) (props : Table Value) (children : List Component)
    (s : σ) : Bool :=
  match fitting? ctx block props with
  | none => false
  | some b =>
    let below := nodes ctx children ⟨{}, s⟩
    (b.render (interpolated ctx.scope props) below.1 below.2.world).1.isOk

/-- Whether a build goes on to the children of a component that is shown. -/
def opens (ctx : Context σ) (c : Component) : Bool :=
  match c.block? with
  | none => true
  | some block => (fitting? ctx block c.props).isSome

/-- Whether a component that is shown gets a node, and no diagnostic in its place. -/
def stands (ctx : Context σ) (c : Component) (s : σ) : Bool :=
  match c.block? with
  | none => true
  | some block => renders ctx block c.props c.children s

mutual
/-- The blocks that a build meets in a component, registered or not. -/
def met (ctx : Context σ) (c : Component) (s : σ) : List String :=
  match c with
  | ⟨location, kind, condition, props, bindings, icons, children⟩ =>
    let c : Component := ⟨location, kind, condition, props, bindings, icons, children⟩
    if hides ctx.scope condition then []
    else
      kind.block?.toList ++ (if opens ctx c then metAll ctx children s else []) ++
        if stands ctx c s then icons.map (·.block) else []

/-- The blocks that a build meets in components, in order. -/
def metAll (ctx : Context σ) (cs : List Component) (s : σ) : List String :=
  match cs with
  | [] => []
  | c :: rest => met ctx c s ++ metAll ctx rest (node ctx c ⟨{}, s⟩).2.world
end

theorem met_eq (ctx : Context σ) (c : Component) (s : σ) :
    met ctx c s =
      if hides ctx.scope c.condition then []
      else
        c.block?.toList ++ (if opens ctx c then metAll ctx c.children s else []) ++
          if stands ctx c s then c.icons.map (·.block) else [] := by
  obtain ⟨location, kind, condition, props, bindings, icons, children⟩ := c
  rw [met]
  rfl

section

variable {ctx : Context σ} {c : Component}

theorem met_of_hides (hc : hides ctx.scope c.condition = true) (s : σ) : met ctx c s = [] := by
  rw [met_eq, if_pos hc]

theorem met_of_group (hc : hides ctx.scope c.condition = false) (hb : c.block? = none) (s : σ) :
    met ctx c s = metAll ctx c.children s ++ c.icons.map (·.block) := by
  simp [met_eq, opens, stands, hc, hb]

theorem met_of_refused {block : String} (hc : hides ctx.scope c.condition = false)
    (hb : c.block? = some block) (hf : fitting? ctx block c.props = none) (s : σ) :
    met ctx c s = [block] := by
  simp [met_eq, opens, stands, renders, hc, hb, hf]

theorem met_of_fitting {block : String} {b : Block σ} (hc : hides ctx.scope c.condition = false)
    (hb : c.block? = some block) (hf : fitting? ctx block c.props = some b) (s : σ) :
    met ctx c s =
      block :: (metAll ctx c.children s ++
        if renders ctx block c.props c.children s then c.icons.map (·.block) else []) := by
  simp [met_eq, opens, stands, hc, hb, hf]

end

theorem metAll_nil (ctx : Context σ) (s : σ) : metAll ctx [] s = [] := by rw [metAll]

theorem metAll_cons (ctx : Context σ) (c : Component) (rest : List Component) (s : σ) :
    metAll ctx (c :: rest) s =
      met ctx c s ++ metAll ctx rest (node ctx c ⟨{}, s⟩).2.world := by rw [metAll]

/-! ### What a draft keeps of the blocks used -/

namespace Draft

@[simp] theorem used_fail (d : Draft) (e : Error) : (d.fail e).used = d.used := rfl

@[simp] theorem used_warn (d : Draft) (w : Warning) : (d.warn w).used = d.used := rfl

@[simp] theorem used_useBlock (d : Draft) (block : String) (m : Metadata) :
    (d.useBlock block m).used = addSeen d.used block := by
  unfold useBlock
  split
  · rfl
  · simp only
    split <;> rfl

theorem used_noteMissing (path : String) (d : Draft) (expression : String) :
    (noteMissing path d expression).used = d.used := by
  unfold noteMissing
  split <;> rfl

theorem used_noteInvalid (path : String) (d : Draft) (expression : String) :
    (noteInvalid path d expression).used = d.used := by
  unfold noteInvalid
  split <;> rfl

@[simp] theorem used_note (d : Draft) (path : String) (notes : Expr.Notes) :
    (d.note path notes).used = d.used := by
  unfold note
  rw [foldl_keeps Draft.used (used_noteInvalid path),
    foldl_keeps Draft.used (used_noteMissing path)]

@[simp] theorem used_props (d : Draft) (scope : Expr.Scope) (path : String) (p : Table Value) :
    (d.props scope path p).2.used = d.used := used_note ..

@[simp] theorem used_shows (d : Draft) (scope : Expr.Scope) (path : String)
    (condition : Option String) : (d.shows scope path condition).2.used = d.used := by
  cases condition with
  | none => rfl
  | some text =>
    simp only [shows]
    cases Expr.evaluate scope text <;> rfl

@[simp] theorem used_colour (d : Draft) (scope : Expr.Scope) (path : String)
    (color : Option String) : (d.colour scope path color).2.used = d.used := by
  cases color with
  | none => rfl
  | some declared => exact used_note ..

end Draft

/-- Of the icons' blocks those that are registered are used. -/
theorem used_icons (ctx : Context σ) (path : String) (declared : List Icon) (d : Draft) :
    (icons ctx path declared d).2.used =
      ((declared.map (·.block)).filter (registered ctx)).foldl addSeen d.used := by
  induction declared generalizing d with
  | nil => rfl
  | cons icon rest ih =>
    simp only [icons]
    rw [ih, Draft.used_colour, List.map_cons, List.filter_cons, registered]
    cases ctx.registry.resolve? icon.block with
    | none => rfl
    | some b => rw [Draft.used_useBlock]; rfl

/-! ### What a component comes to -/

section

variable {ctx : Context σ} {c : Component}

theorem fitting?_eq_some {block : String} {props : Table Value} {b : Block σ} :
    fitting? ctx block props = some b ↔ ctx.registry.resolve? block = some b ∧
      lacking? b.metadata (interpolated ctx.scope props) = none := by
  rw [fitting?, Option.filter_eq_some_iff, Option.isNone_iff_eq_none]

theorem registered_of_fitting? {block : String} {props : Table Value} {b : Block σ}
    (h : fitting? ctx block props = some b) : registered ctx block = true := by
  rw [registered, (fitting?_eq_some.1 h).1]
  rfl

/-- A component that is hidden is passed over. -/
theorem node_of_hides (hc : hides ctx.scope c.condition = true) (w : Work σ) :
    ∃ d : Draft, d.used = w.draft.used ∧ node ctx c w = (none, ⟨d, w.world⟩) := by
  obtain ⟨location, kind, condition, declared, bindings, icons, children⟩ := c
  rw [node]
  simp only [Draft.shows_fst, hc]
  exact ⟨_, Draft.used_shows .., rfl⟩

/-- A component without a block becomes a group. -/
theorem node_of_group (hc : hides ctx.scope c.condition = false) (hb : c.block? = none)
    (w : Work σ) :
    ∃ d : Draft, d.used = w.draft.used ∧
      node ctx c w =
        let below := nodes ctx c.children ⟨d, w.world⟩
        let out := decorate ctx (Location.text c.location) c.bindings c.icons
          (.group (interpolated ctx.scope c.props) below.1) below.2
        (some out.1, out.2) := by
  obtain ⟨location, kind, condition, declared, bindings, icons, children⟩ := c
  rw [node]
  simp only [Draft.shows_fst, Draft.props_fst, hc, Bool.not_false, if_true]
  rw [show kind.block? = none from hb]
  exact ⟨_, by simp, rfl⟩

/-- A component with a block that is not registered or lacks an input becomes a diagnostic. -/
theorem node_of_refused {block : String} (hc : hides ctx.scope c.condition = false)
    (hb : c.block? = some block) (hf : fitting? ctx block c.props = none) :
    ∃ n, ∀ w : Work σ, ∃ d : Draft,
      d.used = (if registered ctx block then addSeen w.draft.used block else w.draft.used) ∧
        node ctx c w = (some n, ⟨d, w.world⟩) := by
  obtain ⟨location, kind, condition, declared, bindings, icons, children⟩ := c
  simp only [node, Draft.shows_fst, Draft.props_fst, hc, Bool.not_false, if_true]
  rw [show kind.block? = some block from hb]
  rcases hr : ctx.registry.resolve? block with _ | b
  · simp only [registered, hr]
    refine ⟨_, fun w => ⟨_, ?_, rfl⟩⟩
    exact Draft.used_shows ..
  · rcases hl : lacking? b.metadata (interpolated ctx.scope declared) with _ | prop
    · rw [fitting?_eq_some.2 ⟨hr, hl⟩] at hf
      cases hf
    · simp only [registered, hr, hl]
      refine ⟨_, fun w => ⟨_, ?_, rfl⟩⟩
      simp

/-- A component with a block that may draw becomes what it draws, or a diagnostic. -/
theorem node_of_fitting {block : String} {b : Block σ} (hc : hides ctx.scope c.condition = false)
    (hb : c.block? = some block) (hf : fitting? ctx block c.props = some b) (w : Work σ) :
    ∃ d : Draft, d.used = addSeen w.draft.used block ∧
      node ctx c w =
        let below := nodes ctx c.children ⟨d, w.world⟩
        match draw b block (Location.text c.location) (interpolated ctx.scope c.props) below.1
          below.2 with
        | (.error message, w) => (some (.diagnostic block [message]), w)
        | (.ok n, w) =>
          let out := decorate ctx (Location.text c.location) c.bindings c.icons n w
          (some out.1, out.2) := by
  obtain ⟨location, kind, condition, declared, bindings, icons, children⟩ := c
  obtain ⟨hr, hl⟩ := fitting?_eq_some.1 hf
  rw [node]
  simp only [Draft.shows_fst, Draft.props_fst, hc, Bool.not_false, if_true]
  rw [show kind.block? = some block from hb]
  simp only [hr, hl]
  exact ⟨_, by simp, rfl⟩

/-! ### What is drawn does not depend on the draft -/

/-- Two ways to draw give the same and leave the same world. -/
structure Alike {α : Type} (out out' : α × Work σ) : Prop where
  result : out.1 = out'.1
  world : out.2.world = out'.2.world

variable {w v : Work σ}

theorem alike_draw (b : Block σ) (block path : String) (props : Table Value)
    {children children' : List Node} (hc : children = children') (h : w.world = v.world) :
    Alike (draw b block path props children w) (draw b block path props children' v) := by
  subst hc
  unfold draw
  rw [h]
  split <;> exact ⟨rfl, rfl⟩

theorem alike_decorate (ctx : Context σ) (path : String) (bindings : Table String)
    (declared : List Icon) {n m : Node} (hn : n = m) (h : w.world = v.world) :
    Alike (decorate ctx path bindings declared n w) (decorate ctx path bindings declared m v) := by
  subst hn
  simp only [decorate, (icons_eq ctx path declared _).1]
  exact ⟨rfl, h⟩

theorem alike_node
    (hbelow : ∀ {w v : Work σ}, w.world = v.world →
      Alike (nodes ctx c.children w) (nodes ctx c.children v)) (h : w.world = v.world) :
    Alike (node ctx c w) (node ctx c v) := by
  cases hc : hides ctx.scope c.condition with
  | true =>
    obtain ⟨d, -, hw⟩ := node_of_hides hc w
    obtain ⟨d', -, hv⟩ := node_of_hides hc v
    rw [hw, hv]
    exact ⟨rfl, h⟩
  | false =>
    cases hb : c.block? with
    | none =>
      obtain ⟨d, -, hw⟩ := node_of_group hc hb w
      obtain ⟨d', -, hv⟩ := node_of_group hc hb v
      have hn := hbelow (w := ⟨d, w.world⟩) (v := ⟨d', v.world⟩) h
      have hdec := alike_decorate ctx (Location.text c.location) c.bindings c.icons
        (congrArg (Node.group (interpolated ctx.scope c.props)) hn.result) hn.world
      rw [hw, hv]
      exact ⟨congrArg some hdec.result, hdec.world⟩
    | some block =>
      cases hf : fitting? ctx block c.props with
      | none =>
        obtain ⟨n, hn⟩ := node_of_refused hc hb hf
        obtain ⟨d, -, hw⟩ := hn w
        obtain ⟨d', -, hv⟩ := hn v
        rw [hw, hv]
        exact ⟨rfl, h⟩
      | some b =>
        obtain ⟨d, -, hw⟩ := node_of_fitting hc hb hf w
        obtain ⟨d', -, hv⟩ := node_of_fitting hc hb hf v
        have hn := hbelow (w := ⟨d, w.world⟩) (v := ⟨d', v.world⟩) h
        have hdraw := alike_draw b block (Location.text c.location) (interpolated ctx.scope c.props)
          hn.result hn.world
        rw [hw, hv]
        dsimp only
        generalize draw b block _ _ _ (nodes ctx c.children ⟨d, w.world⟩).2 = out at hdraw ⊢
        generalize draw b block _ _ _ (nodes ctx c.children ⟨d', v.world⟩).2 = out' at hdraw ⊢
        obtain ⟨drawn, w'⟩ := out
        obtain ⟨drawn', v'⟩ := out'
        obtain ⟨hd, hworld⟩ := hdraw
        obtain rfl : drawn = drawn' := hd
        cases drawn with
        | error message => exact ⟨rfl, hworld⟩
        | ok n =>
          have hdec := alike_decorate ctx (Location.text c.location) c.bindings c.icons
            (Eq.refl n) hworld
          exact ⟨congrArg some hdec.result, hdec.world⟩

/-- **What is drawn, and what it does to the world, does not depend on the draft.** -/
theorem alike_nodes (ctx : Context σ) (cs : List Component) (h : w.world = v.world) :
    Alike (nodes ctx cs w) (nodes ctx cs v) := by
  induction cs using Component.forest_induction generalizing w v with
  | nil => exact ⟨by rw [nodes_nil, nodes_nil], by rwa [nodes_nil, nodes_nil]⟩
  | cons c rest ihc ihr =>
    have hc := alike_node ihc h
    have hr := ihr hc.world
    rw [nodes_cons, nodes_cons]
    exact ⟨by rw [hc.result, hr.result], hr.world⟩

end

/-! ### What is used -/

section

variable {ctx : Context σ}

/-- A block draws a node whatever the draft where it does so at all. -/
theorem isOk_draw {block : String} {props : Table Value} {b : Block σ}
    (hf : fitting? ctx block props = some b) (path : String) (children : List Component)
    (w : Work σ) :
    (draw b block path (interpolated ctx.scope props) (nodes ctx children w).1
      (nodes ctx children w).2).1.isOk = renders ctx block props children w.world := by
  obtain ⟨hn, hw⟩ := alike_nodes (w := w) (v := ⟨{}, w.world⟩) ctx children rfl
  rw [renders, hf]
  dsimp only
  rw [draw, hn, hw]
  split
  · rename_i hrender
    rw [hrender]
    rfl
  · rename_i hrender
    rw [hrender]
    rfl

theorem used_draw (b : Block σ) (block path : String) (props : Table Value) (children : List Node)
    (w : Work σ) : (draw b block path props children w).2.draft.used = w.draft.used := by
  unfold draw
  split <;> rfl

theorem used_node {c : Component}
    (hbelow : ∀ w : Work σ, (nodes ctx c.children w).2.draft.used =
      ((metAll ctx c.children w.world).filter (registered ctx)).foldl addSeen w.draft.used)
    (w : Work σ) :
    (node ctx c w).2.draft.used =
      ((met ctx c w.world).filter (registered ctx)).foldl addSeen w.draft.used := by
  cases hc : hides ctx.scope c.condition with
  | true =>
    obtain ⟨d, hd, hw⟩ := node_of_hides hc w
    rw [hw, met_of_hides hc]
    exact hd
  | false =>
    cases hb : c.block? with
    | none =>
      obtain ⟨d, hd, hw⟩ := node_of_group hc hb w
      rw [hw, met_of_group hc hb, List.filter_append, List.foldl_append]
      dsimp only [decorate]
      rw [used_icons, hbelow, hd]
    | some block =>
      cases hf : fitting? ctx block c.props with
      | none =>
        obtain ⟨n, hn⟩ := node_of_refused hc hb hf
        obtain ⟨d, hd, hw⟩ := hn w
        rw [hw, hd, met_of_refused hc hb hf]
        cases hr : registered ctx block <;> simp [hr]
      | some b =>
        obtain ⟨d, hd, hw⟩ := node_of_fitting hc hb hf w
        have hok := isOk_draw hf (Location.text c.location) c.children ⟨d, w.world⟩
        have hused := used_draw b block (Location.text c.location) (interpolated ctx.scope c.props)
          (nodes ctx c.children ⟨d, w.world⟩).1 (nodes ctx c.children ⟨d, w.world⟩).2
        rw [hbelow, hd] at hused
        rw [hw, met_of_fitting hc hb hf, ← hok, List.filter_cons_of_pos (registered_of_fitting? hf),
          List.filter_append, List.foldl_cons, List.foldl_append, ← hused]
        dsimp only
        generalize draw b block _ _ _ (nodes ctx c.children ⟨d, w.world⟩).2 = out
        obtain ⟨drawn, w'⟩ := out
        cases drawn with
        | error message => rfl
        | ok n => exact used_icons ..

/-- **What drawing uses are the registered blocks that it meets.** -/
theorem used_nodes (ctx : Context σ) (cs : List Component) (w : Work σ) :
    (nodes ctx cs w).2.draft.used =
      ((metAll ctx cs w.world).filter (registered ctx)).foldl addSeen w.draft.used := by
  induction cs using Component.forest_induction generalizing w with
  | nil => rw [nodes_nil, metAll_nil]; rfl
  | cons c rest ihc ihr =>
    have halike := alike_node (w := w) (v := ⟨{}, w.world⟩) (alike_nodes ctx c.children) rfl
    rw [nodes_cons, metAll_cons, ihr, used_node ihc, halike.world, ← List.foldl_append,
      ← List.filter_append]

/-- What a build meets is named by the components. -/
theorem metAll_subset (ctx : Context σ) (cs : List Component) (s : σ) :
    metAll ctx cs s ⊆ (Component.walkAll cs).flatMap componentBlocks := by
  induction cs using Component.forest_induction generalizing s with
  | nil => rw [metAll_nil]; exact List.nil_subset _
  | cons c rest ihc ihr =>
    rw [metAll_cons, Component.walkAll, Component.walk_eq, List.flatMap_append, List.flatMap_cons]
    refine List.append_subset.2 ⟨fun id hid => List.mem_append_left _ ?_,
      List.subset_append_of_subset_right _ (ihr _)⟩
    rw [componentBlocks, List.mem_append, List.mem_append]
    rw [met_eq] at hid
    split at hid
    · exact absurd hid List.not_mem_nil
    · rcases List.mem_append.1 hid with hid | hid
      · rcases List.mem_append.1 hid with hid | hid
        · exact .inl (.inl hid)
        · split at hid
          · exact .inr (ihc s hid)
          · exact absurd hid List.not_mem_nil
      · split at hid
        · exact .inl (.inr hid)
        · exact absurd hid List.not_mem_nil

section

variable {t : Template} {b : Block σ} (hr : ctx.registry.resolve? t.bootstrap.block = some b)
  (w : Work σ)
include hr

theorem isOk_root : (root ctx t b w).1.isOk =
    renders ctx t.bootstrap.block t.bootstrap.props t.components w.world := by
  unfold root
  simp only [Draft.props_fst]
  rcases hl : lacking? b.metadata (interpolated ctx.scope t.bootstrap.props) with _ | prop
  · exact isOk_draw (fitting?_eq_some.2 ⟨hr, hl⟩) bootstrapPath t.components _
  · have hf : fitting? ctx t.bootstrap.block t.bootstrap.props = none := by simp [fitting?, hr, hl]
    rw [renders, hf]
    rfl

theorem used_root
    (h : renders ctx t.bootstrap.block t.bootstrap.props t.components w.world = true) :
    (root ctx t b w).2.draft.used =
      ((metAll ctx t.components w.world).filter (registered ctx)).foldl addSeen
        (addSeen w.draft.used t.bootstrap.block) := by
  unfold root
  simp only [Draft.props_fst]
  rcases hl : lacking? b.metadata (interpolated ctx.scope t.bootstrap.props) with _ | prop
  · simp only [used_draw, used_nodes, Draft.used_props, Draft.used_useBlock]
  · have hf : fitting? ctx t.bootstrap.block t.bootstrap.props = none := by simp [fitting?, hr, hl]
    rw [renders, hf] at h
    cases h

end

/-- What is used where the block at the root draws, and that nothing is where it does not. -/
theorem used_template (o : Options) (r : Registry σ) (t : Template) (host : Value)
    (problems : List SyntaxProblem) (s : σ) :
    (template o r t host problems s).1.used =
      if renders ⟨r, scopeOf t host⟩ t.bootstrap.block t.bootstrap.props t.components s then
        ((metAll ⟨r, scopeOf t host⟩ t.components s).filter (registered ⟨r, scopeOf t host⟩)).foldl
          addSeen [t.bootstrap.block]
      else [] := by
  generalize hctx : Context.mk r (scopeOf t host) = ctx
  obtain rfl : r = ctx.registry := by rw [← hctx]
  simp only [template, hctx]
  cases hr : ctx.registry.resolve? t.bootstrap.block with
  | none => simp [renders, fitting?, hr, Artifact.failed]
  | some b =>
    have hok := isOk_root hr ⟨openingDraft o t problems, s⟩
    have hused := used_root hr ⟨openingDraft o t problems, s⟩
    rw [← hok] at hused ⊢
    simp only
    generalize root ctx t b ⟨openingDraft o t problems, s⟩ = out at hused ⊢
    obtain ⟨drawn, w⟩ := out
    cases drawn with
    | error message => rfl
    | ok n => exact hused rfl

end

/-- **The blocks used are those met that are registered.** Where the block at the root draws, it
is the first of them; where it does not, there are none. -/
theorem used_is_first_met (o : Options) (r : Registry σ) (t : Template) (host : Value)
    (problems : List SyntaxProblem) (s : σ) :
    let ctx : Context σ := ⟨r, scopeOf t host⟩
    let used := (template o r t host problems s).1.used
    (renders ctx t.bootstrap.block t.bootstrap.props t.components s = true →
      FirstSeen (registered ctx · = true) (t.bootstrap.block :: metAll ctx t.components s) used ∧
        used.head? = some t.bootstrap.block ∧ used ⊆ t.referencedBlocks) ∧
    (renders ctx t.bootstrap.block t.bootstrap.props t.components s = false → used = []) := by
  intro ctx used
  have hused : used = _ := used_template o r t host problems s
  refine ⟨fun hrenders => ?_, fun hrenders => by rw [hused, if_neg (by simp [ctx, hrenders])]⟩
  rw [if_pos hrenders] at hused
  have hroot : registered ctx t.bootstrap.block = true := by
    cases hf : fitting? ctx t.bootstrap.block t.bootstrap.props with
    | none => simp [renders, hf] at hrenders
    | some b => exact registered_of_fitting? hf
  have hfirst : FirstSeen (registered ctx · = true)
      (t.bootstrap.block :: metAll ctx t.components s) used := by
    have h := firstSeen_foldl (registered ctx) (t.bootstrap.block :: metAll ctx t.components s)
    rw [List.filter_cons_of_pos hroot] at h
    exact hused ▸ h
  refine ⟨hfirst, ?_, fun id hid => ?_⟩
  · obtain ⟨more, hmore⟩ := prefix_foldl_addSeen [t.bootstrap.block]
      ((metAll ctx t.components s).filter (registered ctx))
    rw [hused, ← hmore]
    rfl
  · obtain ⟨hmem, -⟩ := (hfirst.mem_iff id).1 hid
    rw [Template.referencedBlocks, mem_foldl_addSeen, List.mem_singleton]
    exact (List.mem_cons.1 hmem).imp_right fun h => metAll_subset ctx t.components s h

/-- A block that panics is used and so is what is inside of it, but the icon that it was to have is
not. -/
theorem used_is_first_met_frail :
    let r : Registry Unit := [("dot", .element (.ofId "dot")),
      ("frail", ⟨.ofId "frail", fun _ _ s => (.error (.panicked none), s)⟩),
      ("panel", .element (.ofId "panel")), ("star", .element (.ofId "star"))]
    let gauge : Component :=
      { location := [0, 0], kind := .leaf "gauge", icons := [{ block := "star" }] }
    let inner : Component :=
      { location := [0, 1], kind := .leaf "panel", icons := [{ block := "dot" }] }
    let frail : Component :=
      { location := [0], kind := .container "frail", icons := [{ block := "star" }],
        children := [gauge, inner] }
    let t : Template :=
      { name := "a", version := Template.defaultVersion, bootstrap := ⟨"panel", []⟩,
        components := [frail] }
    let used := (template {} r t (.obj []) [] ()).1.used
    FirstSeen (registered ⟨r, scopeOf t (.obj [])⟩ · = true)
        ["panel", "frail", "gauge", "panel", "dot"] used ∧
      used = ["panel", "frail", "dot"] := by
  intro r gauge inner frail t used
  have hrenders : renders ⟨r, scopeOf t (.obj [])⟩ "panel" [] [frail] () = true := by decide +kernel
  have hmet : metAll ⟨r, scopeOf t (.obj [])⟩ [frail] () = ["frail", "gauge", "panel", "dot"] := by
    decide +kernel
  obtain ⟨hfirst, -, -⟩ := (used_is_first_met {} r t (.obj []) [] ()).1 hrenders
  rw [hmet] at hfirst
  exact ⟨hfirst, by decide +kernel⟩

end Build

end LivePanel
